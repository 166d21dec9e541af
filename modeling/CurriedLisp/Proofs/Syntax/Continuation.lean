import CurriedLisp.Proofs.Syntax.Coverage
import CurriedLisp.Proofs.Syntax.Parsing

/-! Texts that go on with further lines. What the first lines hold is read as before, and whether a sentence
goes on with it is told from an open quote and from the number of brackets alone. -/

namespace CurriedLisp

namespace Lexer

variable {line quote : Nat} {text more gap rest : List Char} {lexeme : Lexeme} {l m : Lexed}
  {outer : List Bracket}

lemma LastGap.newline (h : LastGap gap) : Gap (gap ++ ['\n']) := by
  have hend : Gap ['\n'] := .blank Text.isBlank_newline .nil
  rcases h with h | ⟨before, comment, rfl, h, hc⟩
  · exact h.append hend
  · rw [List.append_assoc]
    exact h.append (.comment hc .nil)

lemma stopsBefore_line (h : lexeme.StopsBefore rest) : lexeme.StopsBefore (rest ++ '\n' :: more) := by
  cases lexeme with
  | atom text =>
    cases rest with
    | nil =>
      rintro c ⟨⟩
      exact .inl Text.isBlank_newline
    | cons c rest => exact h
  | _ => trivial

lemma Covers.after_gap (hg : Gap gap) (h : Covers (line + newlines gap) text l) :
    Covers line (gap ++ text) l := by
  generalize hn : line + newlines gap = next at h
  cases h with
  | last hl => exact .last (hl.after hg)
  | @unclosed _ inner rest hi hu =>
    subst hn
    rw [← List.append_assoc, Nat.add_assoc, ← newlines_append]
    exact .unclosed (hg.append hi) hu
  | @token _ inner rest lexeme l hi hw hs hl =>
    subst hn
    rw [Nat.add_assoc, ← newlines_append, ← List.append_assoc] at hl
    rw [← List.append_assoc, ← List.append_assoc, Nat.add_assoc, ← newlines_append]
    exact .token (hg.append hi) hw hs hl

lemma Covers.lines (h : Covers line text l) (hc : l.unclosed = none)
    (hm : Covers (line + newlines text + 1) more m) :
    Covers line (text ++ '\n' :: more) ⟨l.tokens ++ m.tokens, m.unclosed⟩ := by
  induction h with
  | @last line gap hg =>
    -- The newline ends a comment in which the text may end.
    rw [List.append_cons]
    refine Covers.after_gap hg.newline ?_
    rw [newlines_append, ← Nat.add_assoc]
    exact hm
  | unclosed => cases hc
  | @token line gap rest lexeme l hg hw hs _ ih =>
    rw [newlines_append, ← Nat.add_assoc] at hm
    rw [List.append_assoc]
    exact .token hg hw (stopsBefore_line hs) (ih hc hm)

lemma Covers.prefix_lines (h : Covers line text l) (more : List Char) :
    ∃ m, Covers line (text ++ '\n' :: more) m ∧ l.tokens <+: m.tokens := by
  induction h with
  | @last line gap hg =>
    obtain ⟨m, hm⟩ := exists_covers line (gap ++ '\n' :: more)
    exact ⟨m, hm, List.nil_prefix⟩
  | @unclosed line gap rest hg hu =>
    obtain ⟨m, hm⟩ := exists_covers line (gap ++ '"' :: rest ++ '\n' :: more)
    exact ⟨m, hm, List.nil_prefix⟩
  | @token line gap rest lexeme l hg hw hs _ ih =>
    obtain ⟨m, hm, hprefix⟩ := ih
    rw [List.append_assoc]
    exact ⟨_, .token hg hw (stopsBefore_line hs) hm, List.cons_prefix_cons.mpr ⟨rfl, hprefix⟩⟩

lemma Unclosed.escaped (h : Unclosed text) : Escaped (text ++ ['\n']) := by
  rcases h.split with hall | ⟨body, rfl, hbody⟩
  · exact hall.append (.plain (by decide) (by decide) .nil)
  · rw [List.append_assoc]
    exact hbody.append (.pair '\n' .nil)

lemma Covers.close (h : Covers line text l) (hq : l.unclosed = some quote) :
    ∃ body last, ∀ more m, Covers last more m →
      Covers line (text ++ '\n' :: '"' :: more) ⟨l.tokens ++ ⟨.string body, quote⟩ :: m.tokens, m.unclosed⟩ := by
  induction h with
  | last => cases hq
  | @unclosed line gap rest hg hu =>
    cases hq
    refine ⟨rest ++ ['\n'], line + newlines (gap ++ (Lexeme.string (rest ++ ['\n'])).text.toList), ?_⟩
    intro more m hm
    have hw : (Lexeme.string (rest ++ ['\n'])).WellFormed := hu.escaped
    have hs : (Lexeme.string (rest ++ ['\n'])).StopsBefore more := trivial
    simpa [Lexeme.text] using Covers.token hg hw hs hm
  | @token line gap rest lexeme l hg hw hs _ ih =>
    obtain ⟨body, last, hclose⟩ := ih hq
    refine ⟨body, last, fun more m hm => ?_⟩
    rw [List.append_assoc]
    exact .token hg hw (stopsBefore_line hs) (hclose more m hm)

lemma covers_closing (line : Nat) (outer : List Bracket) :
    Covers line (outer.flatMap fun b => b.closing.toList) ⟨outer.map fun b => ⟨.closing b, line⟩, none⟩ := by
  induction outer with
  | nil => exact .last (.inl .nil)
  | cons b outer ih =>
    have hline : line + newlines ([] ++ (Lexeme.closing b).text.toList) = line := by cases b <;> rfl
    have hw : (Lexeme.closing b).WellFormed := trivial
    have hs : (Lexeme.closing b).StopsBefore (outer.flatMap fun b => b.closing.toList) := trivial
    exact .token .nil hw hs (by rwa [hline])

lemma Covers.exists_completion (h : Covers line text l)
    (ho : openAfter [] (l.tokens.map Token.lexeme) = some outer) :
    ∃ more added, Covers line (text ++ '\n' :: more) ⟨l.tokens ++ added, none⟩ ∧
      (∀ t ∈ added, t.lexeme.change ≤ 0) ∧ Sentence ((l.tokens ++ added).map Token.lexeme) := by
  have hclosing : ∀ last, ∀ t ∈ outer.map fun b => (⟨.closing b, last⟩ : Token), t.lexeme.change ≤ 0 := by
    simp [Lexeme.change]
  have hsentence : ∀ added : List Token, openAfter outer (added.map Token.lexeme) = some [] →
      Sentence ((l.tokens ++ added).map Token.lexeme) := by
    intro added hadded
    rw [sentence_iff, List.map_append, openAfter_append, ho]
    exact hadded
  cases hq : l.unclosed with
  | none =>
    refine ⟨_, _, h.lines hq (covers_closing _ outer), hclosing _, hsentence _ ?_⟩
    rw [List.map_map]
    exact openAfter_closing outer
  | some quote =>
    obtain ⟨body, last, hclose⟩ := h.close hq
    refine ⟨_, _, hclose _ _ (covers_closing last outer), ?_, hsentence _ ?_⟩
    · exact List.forall_mem_cons.mpr ⟨Int.le_refl 0, hclosing last⟩
    · rw [List.map_cons, List.map_map]
      exact openAfter_closing outer

end Lexer

open Lexer

variable {limit : Nat} {text : String} {tokens added : List Token}

lemma toList_lines (text more : String) :
    (text ++ "\n" ++ more).toList = text.toList ++ '\n' :: more.toList := by
  simp

lemma prefix_lex_lines (text more : String) : (lex text).tokens <+: (lex (text ++ "\n" ++ more)).tokens := by
  obtain ⟨m, hm, hprefix⟩ := (covers_lex text).prefix_lines more.toList
  rw [← toList_lines] at hm
  rwa [lex_eq_iff.mpr hm]

lemma NestsWithin.shorter {others : List Token} (h : NestsWithin limit others) (hp : tokens <+: others) :
    NestsWithin limit tokens :=
  fun before hbefore hv => h before (hbefore.trans hp) hv

lemma bracketBalance_nonpos (h : ∀ t ∈ tokens, t.lexeme.change ≤ 0) : bracketBalance tokens ≤ 0 := by
  induction tokens with
  | nil => exact Int.le_refl 0
  | cons t rest ih =>
    obtain ⟨ht, hrest⟩ := List.forall_mem_cons.mp h
    have hsum := bracketBalance_append [t] rest
    rw [bracketBalance_singleton, List.singleton_append] at hsum
    have := ih hrest
    omega

lemma NestsWithin.append (h : NestsWithin limit tokens) (hv : Viable (tokens.map Token.lexeme))
    (ha : ∀ t ∈ added, t.lexeme.change ≤ 0) : NestsWithin limit (tokens ++ added) := by
  intro before hp hbefore
  rcases List.prefix_or_prefix_of_prefix hp (List.prefix_append tokens added) with hp | ⟨first, rfl⟩
  · exact h before hp hbefore
  · have hfirst : bracketBalance first ≤ 0 := by
      refine bracketBalance_nonpos fun t ht => ha t ?_
      exact ((List.prefix_append_right_inj tokens).mp hp).subset ht
    have htokens : bracketBalance tokens ≤ limit := h tokens (List.prefix_refl tokens) hv
    rw [bracketBalance_append]
    omega

lemma parse_readable_iff {source : String} :
    (∃ form, parse limit source = .ok form) ↔
      NestsWithin limit (lex source).tokens ∧ (lex source).unclosed = none ∧
        Sentence ((lex source).tokens.map Token.lexeme) := by
  rw [← parseProgram_readable_iff, parse]
  cases parseProgram limit source <;> simp [Except.map]

lemma parse_eq_error_iff {source : String} {e : ReadError} :
    parse limit source = .error e ↔ Outcome limit (lex source) (.error e) := by
  rw [← parseProgram_eq_iff, parse]
  cases parseProgram limit source <;> simp [Except.map]

def Completable (limit : Nat) (text : String) : Prop :=
  ∃ more form, parse limit (text ++ "\n" ++ more) = .ok form

theorem completable_iff :
    Completable limit text ↔
      NestsWithin limit (lex text).tokens ∧ Viable ((lex text).tokens.map Token.lexeme) := by
  constructor
  · rintro ⟨more, h⟩
    obtain ⟨hn, -, hs⟩ := parse_readable_iff.mp h
    obtain ⟨added, hadded⟩ := prefix_lex_lines text more
    refine ⟨hn.shorter ⟨added, hadded⟩, ?_⟩
    rw [← hadded, List.map_append] at hs
    exact hs.viable.of_append
  · rintro ⟨hn, hv⟩
    obtain ⟨outer, ho⟩ := viable_iff.mp hv
    obtain ⟨more, added, hm, ha, hs⟩ := (covers_lex text).exists_completion ho
    refine ⟨String.ofList more, parse_readable_iff.mpr ?_⟩
    rw [← String.toList_ofList (l := more), ← toList_lines] at hm
    rw [lex_eq_iff.mpr hm]
    exact ⟨hn.append hv ha, rfl, hs⟩

def SyntaxProblem.AtEnd : SyntaxProblem → Prop
  | unclosedString | unexpectedEnd _ => True
  | unexpectedToken _ => False

lemma FirstProblem.atEnd_iff {l : Lexed} {p : SyntaxError} (h : FirstProblem l p) :
    p.problem.AtEnd ↔ Viable (l.tokens.map Token.lexeme) := by
  cases h with
  | unexpected ht _ hn => exact iff_of_false not_false (not_viable_of_split ht hn)
  | unclosed _ hv => exact iff_of_true trivial hv
  | unfinished _ ht hv hi _ =>
    obtain ⟨outer, hopen⟩ := openAfter_inside ht hv hi
    exact iff_of_true trivial (viable_iff.mpr ⟨_, hopen⟩)

lemma Outcome.persists {l m : Lexed} {e : ReadError} (h : Outcome limit l (.error e))
    (hstuck : ¬ (NestsWithin limit l.tokens ∧ Viable (l.tokens.map Token.lexeme)))
    (hp : l.tokens <+: m.tokens) : Outcome limit m (.error e) := by
  cases e with
  | tooDeep => exact fun hn => h (hn.shorter hp)
  | unreadable p =>
    obtain ⟨hn, hproblem⟩ := h
    have hv : ¬ Viable (l.tokens.map Token.lexeme) := fun hv => hstuck ⟨hn, hv⟩
    cases hproblem with
    | @unexpected before after t ht hbefore ht' =>
      obtain ⟨added, hm⟩ := hp
      rw [ht, List.append_assoc] at hm
      refine ⟨?_, .unexpected hm.symm hbefore ht'⟩
      rw [← hm]
      exact (hn.shorter ⟨_, ht.symm⟩).of_not_viable ht'
    | unclosed _ hv' => exact (hv hv').elim
    | unfinished _ ht hbefore hi _ =>
      obtain ⟨outer, hopen⟩ := openAfter_inside ht hbefore hi
      exact (hv (viable_iff.mpr ⟨_, hopen⟩)).elim

lemma needsMoreInput_eq_false_iff (hv : Viable ((lex text).tokens.map Token.lexeme)) :
    needsMoreInput text = false ↔
      (lex text).unclosed = none ∧ Sentence ((lex text).tokens.map Token.lexeme) := by
  obtain ⟨outer, ho⟩ := viable_iff.mp hv
  rw [sentence_iff, ho]
  simp [needsMoreInput, bracketBalance_eq_length ho]

lemma parse_stays {e : ReadError} (hneeds : needsMoreInput text = false) (hr : parse limit text = .error e)
    (more : String) : parse limit (text ++ "\n" ++ more) = .error e := by
  -- Were a sentence to go on with the text, the text would be one, as no bracket is open.
  have hstuck : ¬ (NestsWithin limit (lex text).tokens ∧ Viable ((lex text).tokens.map Token.lexeme)) := by
    rintro ⟨hn, hv⟩
    obtain ⟨form, hform⟩ := parse_readable_iff.mpr ⟨hn, (needsMoreInput_eq_false_iff hv).mp hneeds⟩
    cases hr.symm.trans hform
  exact parse_eq_error_iff.mpr ((parse_eq_error_iff.mp hr).persists hstuck (prefix_lex_lines text more))

theorem parse_needsMoreInput (hneeds : needsMoreInput text = true) :
    ∃ e, parse limit text = .error e ∧ (NestsWithin limit (lex text).tokens → ∃ p, e = .unreadable p) := by
  cases hr : parse limit text with
  | ok form =>
    obtain ⟨-, hs⟩ := parse_readable_iff.mp ⟨form, hr⟩
    rw [(needsMoreInput_eq_false_iff hs.2.viable).mpr hs] at hneeds
    cases hneeds
  | error e =>
    refine ⟨e, rfl, fun hn => ?_⟩
    cases e with
    | unreadable p => exact ⟨p, rfl⟩
    | tooDeep => exact (parse_eq_error_iff.mp hr hn).elim

lemma atEnd_iff_completable :
    (∃ p, parse limit text = .error (.unreadable p) ∧ p.problem.AtEnd) ↔
      (∀ form, parse limit text ≠ .ok form) ∧ Completable limit text := by
  constructor
  · rintro ⟨p, hp, hend⟩
    obtain ⟨hn, hproblem⟩ := parse_eq_error_iff.mp hp
    refine ⟨fun form hform => ?_, completable_iff.mpr ⟨hn, hproblem.atEnd_iff.mp hend⟩⟩
    cases hp.symm.trans hform
  · rintro ⟨hunread, hmore⟩
    obtain ⟨hn, hv⟩ := completable_iff.mp hmore
    cases hr : parse limit text with
    | ok form => exact (hunread form hr).elim
    | error e =>
      have houtcome := parse_eq_error_iff.mp hr
      cases e with
      | unreadable p => exact ⟨p, rfl, houtcome.2.atEnd_iff.mpr hv⟩
      | tooDeep => exact (houtcome hn).elim

theorem needsMoreInput_exact (limit : Nat) (text : String) :
    (needsMoreInput text = false → (∃ form, parse limit text = .ok form) ∨
      ∃ e, parse limit text = .error e ∧ ∀ more, parse limit (text ++ "\n" ++ more) = .error e) ∧
    (needsMoreInput text = true → ∃ e, parse limit text = .error e ∧
      (NestsWithin limit (lex text).tokens → ∃ p, e = .unreadable p)) ∧
    ((∃ p, parse limit text = .error (.unreadable p) ∧ p.problem.AtEnd) ↔
      (∀ form, parse limit text ≠ .ok form) ∧ Completable limit text) ∧
    ((∃ p, parse limit text = .error (.unreadable p) ∧ p.problem.AtEnd) → needsMoreInput text = true) := by
  refine ⟨fun hneeds => ?_, parse_needsMoreInput, atEnd_iff_completable, fun hend => ?_⟩
  · cases hr : parse limit text with
    | ok form => exact .inl ⟨form, rfl⟩
    | error e => exact .inr ⟨e, rfl, parse_stays hneeds hr⟩
  · obtain ⟨-, more, form, hform⟩ := atEnd_iff_completable.mp hend
    obtain ⟨p, hp, -⟩ := hend
    cases hneeds : needsMoreInput text with
    | true => rfl
    | false => cases (parse_stays hneeds hp more).symm.trans hform

theorem needsMoreInput_exact_samples :
    (∃ e, ∀ more, parse 9 ("(\x7d" ++ "\n" ++ more) = .error e) ∧
    (Completable 9 "(f \x7b\"a\\" ∧ needsMoreInput "(f \x7b\"a\\" = true) := by
  constructor
  · obtain ⟨hstays, -⟩ := needsMoreInput_exact 9 "(\x7d"
    obtain h | ⟨e, -, h⟩ := hstays (by decide +kernel)
    · exact absurd (parse_readable_iff.mp h).2.2 (by decide +kernel)
    · exact ⟨e, h⟩
  · obtain ⟨-, -, hcomplete, hneeds⟩ := needsMoreInput_exact 9 "(f \x7b\"a\\"
    have hend : ∃ p, parse 9 "(f \x7b\"a\\" = .error (.unreadable p) ∧ p.problem.AtEnd := by
      have hquote : (lex "(f \x7b\"a\\").unclosed = some 1 := by decide +kernel
      refine ⟨⟨.unclosedString, 1⟩, parse_eq_error_iff.mpr ⟨by decide +kernel, .unclosed hquote ?_⟩, trivial⟩
      decide +kernel
    exact ⟨(hcomplete.mp hend).2, hneeds hend⟩

end CurriedLisp
