import CurriedLisp.Proofs.Syntax.Grammar
import Mathlib.Data.List.Infix

/-! The parser reads the sentences of the grammar and nothing else, loses no token of them, and otherwise
reports the first problem. At each token it holds the forms of what it has read so far. -/

namespace CurriedLisp

open TokenStream

/-- The tokens that forms are written with. A list begins on the line of its bracket, an atom or a string on
that of its token. -/
inductive Spells : List Form → List Token → Prop
  | nil : Spells [] []
  | atom (line : Nat) (text : List Char) {forms : List Form} {tokens : List Token} : Spells forms tokens →
    Spells (.ofAtom line text :: forms) (⟨.atom text, line⟩ :: tokens)
  | string (line : Nat) (body : List Char) {forms : List Form} {tokens : List Token} : Spells forms tokens →
    Spells (.ofString line body :: forms) (⟨.string body, line⟩ :: tokens)
  | list (b : Bracket) (line last : Nat) {items forms : List Form} {inside tokens : List Token} :
    Spells items inside → Spells forms tokens →
    Spells (.list line b items :: forms) (⟨.opening b, line⟩ :: inside ++ ⟨.closing b, last⟩ :: tokens)

/-- The first problem of a source. A token is unexpected where no sentence goes on with it; the end is
unexpected inside the bracket that was opened last and is not closed. -/
inductive FirstProblem (l : Lexed) : SyntaxError → Prop
  | unexpected {before after : List Token} {t : Token} : l.tokens = before ++ t :: after →
    Viable (before.map Token.lexeme) → ¬ Viable ((before ++ [t]).map Token.lexeme) →
    FirstProblem l ⟨.unexpectedToken t.lexeme, t.line⟩
  | unclosed {quote : Nat} : l.unclosed = some quote → Viable (l.tokens.map Token.lexeme) →
    FirstProblem l ⟨.unclosedString, quote⟩
  | unfinished {before inside : List Token} {b : Bracket} {line : Nat} {last : Token} : l.unclosed = none →
    l.tokens = before ++ ⟨.opening b, line⟩ :: inside → Viable (before.map Token.lexeme) →
    Sentence (inside.map Token.lexeme) → l.tokens.getLast? = some last →
    FirstProblem l ⟨.unexpectedEnd b, last.line⟩

def NestsWithin (limit : Nat) (tokens : List Token) : Prop :=
  ∀ before, before <+: tokens → Viable (before.map Token.lexeme) → bracketBalance before ≤ limit

instance (limit : Nat) (tokens : List Token) : Decidable (NestsWithin limit tokens) :=
  decidable_of_iff
    (∀ before ∈ tokens.inits, Viable (before.map Token.lexeme) → bracketBalance before ≤ limit)
    (by simp only [NestsWithin, List.mem_inits])

inductive Reached : List Token → List Form → List Group → Prop
  | outside {before : List Token} {done : List Form} : Spells done.reverse before → Reached before done []
  | inside {before inner : List Token} {done : List Form} {g : Group} {outer : List Group} :
    Reached before done outer → Spells g.items.reverse inner →
    Reached (before ++ ⟨.opening g.bracket, g.line⟩ :: inner) done (g :: outer)

def Progress.Reaches (before : List Token) (done : List Form) : Progress → Prop
  | .within groups => Reached before done groups
  | .complete form => Reached before (form :: done) []

variable {limit line : Nat} {before tokens rest inner : List Token} {done forms : List Form} {form : Form}
  {groups : List Group} {t : Token} {p : Progress} {unclosed : Option Nat}

lemma Spells.append {more : List Form} {others : List Token} (h : Spells forms tokens)
    (hm : Spells more others) : Spells (forms ++ more) (tokens ++ others) := by
  induction h with
  | nil => exact hm
  | atom line text _ ih => exact .atom line text ih
  | string line body _ ih => exact .string line body ih
  | list b line last hi _ _ ih =>
    rw [List.append_assoc]
    exact .list b line last hi ih

lemma Spells.sentence (h : Spells forms tokens) : Sentence (tokens.map Token.lexeme) := by
  induction h with
  | nil => exact .nil
  | atom line text _ ih => exact .atom text ih
  | string line body _ ih => exact .string body ih
  | list b line last _ _ ihi ih =>
    rw [List.map_append]
    exact .list b ihi ih

lemma Reached.openAfter (h : Reached before done groups) :
    openAfter [] (before.map Token.lexeme) = some (groups.map Group.bracket) := by
  induction h with
  | outside hs => exact hs.sentence.openAfter []
  | inside _ hi ih =>
    rw [List.map_append, openAfter_append, ih]
    exact hi.sentence.openAfter _

lemma Reached.viable (h : Reached before done groups) : Viable (before.map Token.lexeme) :=
  viable_iff.mpr ⟨_, h.openAfter⟩

lemma Reached.balance (h : Reached before done groups) : bracketBalance before = groups.length := by
  rw [bracketBalance_eq_length h.openAfter, List.length_map]

lemma Reached.settle (h : Reached before done groups) (hf : Spells [form] tokens) :
    (Parser.settle form groups).Reaches (before ++ tokens) done := by
  cases h with
  | outside hs =>
    refine .outside ?_
    rw [List.reverse_cons]
    exact hs.append hf
  | @inside before inner done g outer ho hi =>
    have hitems : Spells (form :: g.items).reverse (inner ++ tokens) := by
      rw [List.reverse_cons]
      exact hi.append hf
    rw [List.append_assoc]
    exact .inside (g := { g with items := form :: g.items }) ho hitems

lemma Reached.shift (h : Reached before done groups) (hp : Parser.shift limit groups t = .ok p) :
    p.Reaches (before ++ [t]) done := by
  obtain ⟨lexeme, line⟩ := t
  cases lexeme with
  | atom text =>
    cases hp
    exact h.settle (.atom line text .nil)
  | string body =>
    cases hp
    exact h.settle (.string line body .nil)
  | opening b =>
    simp only [Parser.shift] at hp
    split at hp
    · cases hp
    · cases hp
      exact .inside (g := ⟨b, line, []⟩) h .nil
  | closing b =>
    cases h with
    | outside => cases hp
    | @inside before inner done g outer ho hi =>
      simp only [Parser.shift] at hp
      split at hp
      · next hb =>
        cases hp
        have hform : Spells [g.form] (⟨.opening g.bracket, g.line⟩ :: inner ++ [⟨.closing b, line⟩]) := by
          rw [← hb]
          exact .list g.bracket g.line line hi .nil
        rw [List.append_assoc]
        exact ho.settle hform
      · cases hp

lemma Reached.shift_error (h : Reached before done groups) {e : ReadError}
    (he : Parser.shift limit groups t = .error e) :
    (e = Parser.unexpected t ∧ ¬ Viable ((before ++ [t]).map Token.lexeme)) ∨
      (e = .tooDeep ∧ limit ≤ groups.length ∧ ∃ b, t.lexeme = .opening b) := by
  have hopen : CurriedLisp.openAfter [] ((before ++ [t]).map Token.lexeme) =
      CurriedLisp.openAfter (groups.map Group.bracket) [t.lexeme] := by
    rw [List.map_append, openAfter_append, h.openAfter]
    rfl
  obtain ⟨lexeme, line⟩ := t
  cases lexeme with
  | atom text => cases he
  | string body => cases he
  | opening b =>
    simp only [Parser.shift] at he
    split at he
    · next hl =>
      cases he
      exact .inr ⟨rfl, hl, b, rfl⟩
    · cases he
  | closing b =>
    refine .inl ?_
    rw [viable_iff, hopen]
    cases groups with
    | nil =>
      cases he
      exact ⟨rfl, by simp [CurriedLisp.openAfter]⟩
    | cons g outer =>
      simp only [Parser.shift] at he
      split at he
      · cases he
      · next hb =>
        cases he
        exact ⟨rfl, by simp [CurriedLisp.openAfter, hb]⟩

lemma nestsWithin_nil (limit : Nat) : NestsWithin limit [] := by
  intro before hp _
  rw [List.prefix_nil.mp hp]
  exact Int.natCast_nonneg limit

lemma NestsWithin.shift (hn : NestsWithin limit before) (h : Reached before done groups)
    (hp : Parser.shift limit groups t = .ok p) : NestsWithin limit (before ++ [t]) := by
  have hbefore : bracketBalance before ≤ limit := hn before (List.prefix_refl before) h.viable
  have hlast : bracketBalance (before ++ [t]) ≤ limit := by
    rw [bracketBalance_append, bracketBalance_singleton]
    obtain ⟨lexeme, line⟩ := t
    cases lexeme with
    | opening b =>
      simp only [Parser.shift] at hp
      split at hp
      · cases hp
      · rw [h.balance]
        simp only [Lexeme.change]
        omega
    | closing b =>
      simp only [Lexeme.change]
      omega
    | string body => simpa [Lexeme.change] using hbefore
    | atom text => simpa [Lexeme.change] using hbefore
  intro first hfirst hv
  rcases List.prefix_concat_iff.mp hfirst with rfl | hfirst
  · exact hlast
  · exact hn first hfirst hv

lemma prefix_of_unexpected {xs ys zs : List Token} {t : Token} (hx : xs <+: zs) (hy : ys ++ [t] <+: zs)
    (hvx : Viable (xs.map Token.lexeme)) (hvy : ¬ Viable ((ys ++ [t]).map Token.lexeme)) : xs <+: ys := by
  rcases List.prefix_or_prefix_of_prefix hx hy with h | ⟨more, rfl⟩
  · rcases List.prefix_concat_iff.mp h with rfl | h
    · exact (hvy hvx).elim
    · exact h
  · rw [List.map_append] at hvx
    exact (hvy hvx.of_append).elim

lemma prefix_append_cons (xs ys : List Token) (t : Token) : xs ++ [t] <+: xs ++ t :: ys := ⟨ys, by simp⟩

lemma NestsWithin.of_not_viable (h : NestsWithin limit before)
    (ht : ¬ Viable ((before ++ [t]).map Token.lexeme)) : NestsWithin limit (before ++ t :: rest) := by
  intro first hp hv
  exact h first (prefix_of_unexpected hp (prefix_append_cons before rest t) hv ht) hv

lemma Reached.not_nestsWithin (h : Reached before done groups) (hdeep : limit ≤ groups.length) {b : Bracket}
    (hb : t.lexeme = .opening b) : ¬ NestsWithin limit (before ++ t :: rest) := by
  intro hall
  have hv : Viable ((before ++ [t]).map Token.lexeme) := by
    rw [viable_iff, List.map_append, openAfter_append, h.openAfter]
    exact ⟨b :: groups.map Group.bracket, by simp [hb, CurriedLisp.openAfter]⟩
  have hbalance := hall _ (prefix_append_cons before rest t) hv
  rw [bracketBalance_append, bracketBalance_singleton, h.balance, hb] at hbalance
  simp only [Lexeme.change] at hbalance
  omega

def Outcome (limit : Nat) (l : Lexed) : Except ReadError (List Form) → Prop
  | .ok forms => NestsWithin limit l.tokens ∧ l.unclosed = none ∧ Spells forms l.tokens
  | .error (.unreadable e) => NestsWithin limit l.tokens ∧ FirstProblem l e
  | .error .tooDeep => ¬ NestsWithin limit l.tokens

lemma Reached.outcome_end (h : Reached before done groups) (hn : NestsWithin limit before)
    (hl : ∀ last, before.getLast? = some last → line = last.line) :
    Outcome limit ⟨before, unclosed⟩ (parseAllFrom limit unclosed done groups line []).1 := by
  unfold parseAllFrom
  cases unclosed with
  | some quote => exact ⟨hn, .unclosed rfl h.viable⟩
  | none =>
    cases h with
    | outside hs => exact ⟨hn, rfl, hs⟩
    | @inside before inner done g outer ho hi =>
      obtain ⟨last, hlast⟩ : ∃ last, (before ++ ⟨.opening g.bracket, g.line⟩ :: inner).getLast? = some last := by
        simp [List.getLast?_append, List.getLast?_cons]
      obtain rfl := hl last hlast
      exact ⟨hn, .unfinished rfl rfl ho.viable hi.sentence hlast⟩

lemma Reached.outcome (h : Reached before done groups) (hn : NestsWithin limit before)
    (hl : ∀ last, before.getLast? = some last → line = last.line) :
    Outcome limit ⟨before ++ rest, unclosed⟩ (parseAllFrom limit unclosed done groups line rest).1 := by
  induction rest generalizing before done groups line with
  | nil =>
    rw [List.append_nil]
    exact h.outcome_end hn hl
  | cons t rest ih =>
    have hlast : ∀ last, (before ++ [t]).getLast? = some last → t.line = last.line := by
      intro last ht
      rw [List.getLast?_concat] at ht
      rw [Option.some.inj ht]
    unfold parseAllFrom
    cases hs : Parser.shift limit groups t with
    | error e =>
      rcases h.shift_error hs with ⟨rfl, hv⟩ | ⟨rfl, hdeep, b, hb⟩
      · exact ⟨hn.of_not_viable hv, .unexpected rfl h.viable hv⟩
      · exact h.not_nestsWithin hdeep hb
    | ok p =>
      have hreached := h.shift hs
      have hnest := hn.shift h hs
      have hsplit : before ++ t :: rest = (before ++ [t]) ++ rest := by simp
      rw [hsplit]
      cases p with
      | within groups => exact ih hreached hnest hlast
      | complete form => exact ih hreached hnest hlast

lemma parseProgram_outcome (limit : Nat) (source : String) :
    Outcome limit (lex source) (parseProgram limit source) := by
  have hstart : Reached [] [] [] := .outside .nil
  exact hstart.outcome (nestsWithin_nil limit) (by simp)

lemma openAfter_inside {before inside : List Token} {b : Bracket} {line : Nat}
    (ht : tokens = before ++ ⟨.opening b, line⟩ :: inside) (hv : Viable (before.map Token.lexeme))
    (hi : Sentence (inside.map Token.lexeme)) :
    ∃ outer, openAfter [] (tokens.map Token.lexeme) = some (b :: outer) := by
  obtain ⟨outer, hopen⟩ := viable_iff.mp hv
  refine ⟨outer, ?_⟩
  rw [ht, List.map_append, openAfter_append, hopen]
  exact hi.openAfter (b :: outer)

lemma not_viable_of_split {before after : List Token} (ht : tokens = before ++ t :: after)
    (hn : ¬ Viable ((before ++ [t]).map Token.lexeme)) : ¬ Viable (tokens.map Token.lexeme) := by
  intro hv
  rw [ht, List.append_cons, List.map_append] at hv
  exact hn hv.of_append

lemma eq_of_unexpected {xs ys us vs : List Token} {t u : Token} (h : xs ++ t :: us = ys ++ u :: vs)
    (hvx : Viable (xs.map Token.lexeme)) (hnx : ¬ Viable ((xs ++ [t]).map Token.lexeme))
    (hvy : Viable (ys.map Token.lexeme)) (hny : ¬ Viable ((ys ++ [u]).map Token.lexeme)) :
    xs = ys ∧ t = u ∧ us = vs := by
  have hx : xs ++ [t] <+: ys ++ u :: vs := h ▸ prefix_append_cons xs us t
  have hy : ys ++ [u] <+: ys ++ u :: vs := prefix_append_cons ys vs u
  have hxy : xs <+: ys := prefix_of_unexpected ((List.prefix_append xs [t]).trans hx) hy hvx hny
  have hyx : ys <+: xs := prefix_of_unexpected ((List.prefix_append ys [u]).trans hy) hx hvy hnx
  obtain rfl := hxy.eq_of_length (Nat.le_antisymm hxy.length_le hyx.length_le)
  exact ⟨rfl, List.cons.inj (List.append_cancel_left h)⟩

lemma FirstProblem.not_sentence {l : Lexed} {e : SyntaxError} (h : FirstProblem l e) :
    ¬ (l.unclosed = none ∧ Sentence (l.tokens.map Token.lexeme)) := by
  rintro ⟨hclosed, hs⟩
  cases h with
  | unexpected ht _ hn => exact not_viable_of_split ht hn hs.viable
  | unclosed hu _ => cases hclosed.symm.trans hu
  | unfinished _ ht hv hi _ =>
    obtain ⟨outer, hopen⟩ := openAfter_inside ht hv hi
    cases hopen.symm.trans (hs.openAfter [])

lemma FirstProblem.unique {l : Lexed} {e f : SyntaxError} (he : FirstProblem l e) (hf : FirstProblem l f) :
    e = f := by
  cases he with
  | @unexpected xs _ t ht hv hn =>
    cases hf with
    | @unexpected ys _ u hu hw hm =>
      obtain ⟨-, rfl, -⟩ := eq_of_unexpected (ht.symm.trans hu) hv hn hw hm
      rfl
    | unclosed _ hw => exact (not_viable_of_split ht hn hw).elim
    | unfinished _ hu hw hi _ =>
      obtain ⟨outer, hopen⟩ := openAfter_inside hu hw hi
      exact (not_viable_of_split ht hn (viable_iff.mpr ⟨_, hopen⟩)).elim
  | unclosed hq hv =>
    cases hf with
    | unexpected hu _ hm => exact (not_viable_of_split hu hm hv).elim
    | unclosed hr _ =>
      obtain rfl := Option.some.inj (hq.symm.trans hr)
      rfl
    | unfinished hc _ _ _ _ => cases hq.symm.trans hc
  | unfinished hc ht hv hi hl =>
    obtain ⟨outer, hopen⟩ := openAfter_inside ht hv hi
    cases hf with
    | unexpected hu _ hm => exact (not_viable_of_split hu hm (viable_iff.mpr ⟨_, hopen⟩)).elim
    | unclosed hr _ => cases hr.symm.trans hc
    | unfinished _ hu hw hj hk =>
      obtain ⟨outer', hopen'⟩ := openAfter_inside hu hw hj
      cases hopen.symm.trans hopen'
      cases hl.symm.trans hk
      rfl

lemma not_viable_of_closing {inside : List Token} (hi : Sentence (inside.map Token.lexeme)) {b : Bracket}
    (ht : t.lexeme = .closing b) : ¬ Viable ((inside ++ [t]).map Token.lexeme) := by
  rw [viable_iff, List.map_append, openAfter_append, hi.openAfter [], List.map_singleton, ht]
  rintro ⟨outer, ⟨⟩⟩

lemma closing_of_not_viable (hv : Viable (before.map Token.lexeme))
    (hn : ¬ Viable ((before ++ [t]).map Token.lexeme)) : ∃ b, t.lexeme = .closing b := by
  obtain ⟨outer, hopen⟩ := viable_iff.mp hv
  have hnone : openAfter outer [t.lexeme] = none := by
    rw [viable_iff, List.map_append, openAfter_append, hopen] at hn
    exact Option.eq_none_iff_forall_ne_some.mpr fun inner h => hn ⟨inner, h⟩
  cases hl : t.lexeme with
  | closing b => exact ⟨b, rfl⟩
  | _ => simp [hl, openAfter] at hnone

theorem Spells.unique (h : Spells forms tokens) {others : List Form} (ho : Spells others tokens) :
    forms = others := by
  induction h generalizing others with
  | nil =>
    cases ho
    rfl
  | atom line text _ ih =>
    cases ho with
    | atom _ _ ho => rw [ih ho]
  | string line body _ ih =>
    cases ho with
    | string _ _ ho => rw [ih ho]
  | @list b line last items forms inside tokens hi _ ihi ih =>
    generalize hall : (⟨.opening b, line⟩ :: inside ++ ⟨.closing b, last⟩ :: tokens : List Token) = all at ho
    cases ho with
    | nil => cases hall
    | atom => cases hall
    | string => cases hall
    | @list c line' last' items' forms' inside' tokens' hj ho =>
      obtain ⟨⟨⟩, hrest⟩ := List.cons.inj hall
      -- Both lists are closed by the first token that is unexpected after their bracket.
      obtain ⟨rfl, ⟨⟩, rfl⟩ := eq_of_unexpected hrest hi.sentence.viable (not_viable_of_closing hi.sentence rfl)
        hj.sentence.viable (not_viable_of_closing hj.sentence rfl)
      rw [ihi hj, ih ho]

theorem Outcome.unique {l : Lexed} {x y : Except ReadError (List Form)} (hx : Outcome limit l x)
    (hy : Outcome limit l y) : x = y := by
  have hsplit : ∀ {forms e}, Outcome limit l (.ok forms) → ¬ Outcome limit l (.error e) := by
    rintro forms (p | -) ⟨hn, hclosed, hs⟩ he
    · exact he.2.not_sentence ⟨hclosed, hs.sentence⟩
    · exact he hn
  cases x with
  | ok forms =>
    cases y with
    | ok others => rw [hx.2.2.unique hy.2.2]
    | error e => exact (hsplit hx hy).elim
  | error e =>
    cases y with
    | ok others => exact (hsplit hy hx).elim
    | error f =>
      cases e with
      | unreadable p =>
        cases f with
        | unreadable q => rw [hx.2.unique hy.2]
        | tooDeep => exact (hy hx.1).elim
      | tooDeep =>
        cases f with
        | unreadable q => exact (hx hy.1).elim
        | tooDeep => rfl

theorem parseProgram_eq_iff {source : String} {r : Except ReadError (List Form)} :
    parseProgram limit source = r ↔ Outcome limit (lex source) r := by
  constructor
  · rintro rfl
    exact parseProgram_outcome limit source
  · exact (parseProgram_outcome limit source).unique

lemma NestsWithin.mono {larger : Nat} (h : NestsWithin limit tokens) (hl : limit ≤ larger) :
    NestsWithin larger tokens := by
  intro first hp hv
  have := h first hp hv
  omega

lemma parseProgram_mono {larger : Nat} (hl : limit ≤ larger) (source : String) :
    parseProgram limit source = .error .tooDeep ∨ parseProgram limit source = parseProgram larger source := by
  have houtcome := parseProgram_outcome limit source
  cases hr : parseProgram limit source with
  | ok forms =>
    rw [hr] at houtcome
    have hmore : Outcome larger (lex source) (.ok forms) := ⟨houtcome.1.mono hl, houtcome.2⟩
    exact .inr (parseProgram_eq_iff.mpr hmore).symm
  | error e =>
    rw [hr] at houtcome
    cases e with
    | unreadable p =>
      have hmore : Outcome larger (lex source) (.error (.unreadable p)) := ⟨houtcome.1.mono hl, houtcome.2⟩
      exact .inr (parseProgram_eq_iff.mpr hmore).symm
    | tooDeep => exact .inl rfl

theorem parseProgram_readable_iff {source : String} :
    (∃ forms, parseProgram limit source = .ok forms) ↔
      NestsWithin limit (lex source).tokens ∧ (lex source).unclosed = none ∧
        Sentence ((lex source).tokens.map Token.lexeme) := by
  constructor
  · rintro ⟨forms, h⟩
    obtain ⟨hn, hclosed, hs⟩ := parseProgram_eq_iff.mp h
    exact ⟨hn, hclosed, hs.sentence⟩
  · rintro ⟨hn, hs⟩
    have houtcome := parseProgram_outcome limit source
    cases hr : parseProgram limit source with
    | ok forms => exact ⟨forms, rfl⟩
    | error e =>
      rw [hr] at houtcome
      cases e with
      | unreadable p => exact (houtcome.2.not_sentence hs).elim
      | tooDeep => exact (houtcome hn).elim

theorem parseProgram_exact (limit : Nat) (source : String) (hn : NestsWithin limit (lex source).tokens) :
    ((∃ forms, parseProgram limit source = .ok forms) ↔
      (lex source).unclosed = none ∧ Sentence ((lex source).tokens.map Token.lexeme)) ∧
    (∀ forms, parseProgram limit source = .ok forms ↔
      (lex source).unclosed = none ∧ Spells forms (lex source).tokens) ∧
    ∀ e, parseProgram limit source = .error e ↔ ∃ p, e = .unreadable p ∧ FirstProblem (lex source) p := by
  refine ⟨?_, fun forms => ?_, fun e => ?_⟩
  · rw [parseProgram_readable_iff, and_iff_right hn]
  · rw [parseProgram_eq_iff]
    exact and_iff_right hn
  · rw [parseProgram_eq_iff]
    cases e with
    | unreadable p => simp [Outcome, hn]
    | tooDeep => simp [Outcome, hn]

theorem parseProgram_exact_samples :
    (∃ forms, parseProgram 2 "(f\n\x7b\"a\"\x7d) x" = .ok forms) ∧
    parseProgram 2 "(f\n\x7b x" = .error (.unreadable ⟨.unexpectedEnd .curly, 2⟩) ∧
    parseProgram 2 "(f \x7d \"" = .error (.unreadable ⟨.unexpectedToken (.closing .curly), 1⟩) := by
  have hunfinished : lex "(f\n\x7b x" =
      ⟨[⟨.opening .round, 1⟩, ⟨.atom ['f'], 1⟩] ++ ⟨.opening .curly, 2⟩ :: [⟨.atom ['x'], 2⟩], none⟩ := by
    decide +kernel
  have hunexpected : lex "(f \x7d \"" =
      ⟨[⟨.opening .round, 1⟩, ⟨.atom ['f'], 1⟩] ++ ⟨.closing .curly, 1⟩ :: [], some 1⟩ := by
    decide +kernel
  refine ⟨?_, ?_, ?_⟩
  · obtain ⟨hreadable, -⟩ := parseProgram_exact 2 "(f\n\x7b\"a\"\x7d) x" (by decide +kernel)
    exact hreadable.mpr (by decide +kernel)
  · obtain ⟨-, -, herror⟩ := parseProgram_exact 2 "(f\n\x7b x" (by decide +kernel)
    refine (herror _).mpr ⟨_, rfl, ?_⟩
    rw [hunfinished]
    refine @FirstProblem.unfinished _ _ _ _ _ ⟨.atom ['x'], 2⟩ rfl rfl ?_ ?_ rfl <;> decide
  · obtain ⟨-, -, herror⟩ := parseProgram_exact 2 "(f \x7d \"" (by decide +kernel)
    refine (herror _).mpr ⟨_, rfl, ?_⟩
    rw [hunexpected]
    refine .unexpected (t := ⟨.closing .curly, 1⟩) rfl ?_ ?_ <;> decide

end CurriedLisp
