import CurriedLisp.Proofs.Syntax.Layout
import CurriedLisp.Proofs.Syntax.Parsing
import CurriedLisp.Proofs.Value.Typed

namespace CurriedLisp

open Lexer Text

def Lexeme.isAtom : Lexeme → Bool
  | atom _ => true
  | opening _ | closing _ | string _ => false

namespace Lexer

structure Placed where
  gap : List Char
  lexeme : Lexeme

def Placed.text (p : Placed) : List Char := p.gap ++ p.lexeme.text.toList

/-- The text in which the lexemes stand, with a gap after the last one. Only between atoms there must be something. -/
structure LaidOut (placed : List Placed) (last text : List Char) : Prop where
  text_eq : text = placed.flatMap Placed.text ++ last
  gaps : ∀ p ∈ placed, Gap p.gap
  last : LastGap last
  wellFormed : ∀ p ∈ placed, p.lexeme.WellFormed
  apart : placed.IsChain fun p q => p.lexeme.isAtom → q.lexeme.isAtom → q.gap ≠ []

def Shows (lexemes : List Lexeme) (text : List Char) : Prop :=
  ∃ placed last, LaidOut placed last text ∧ placed.map Placed.lexeme = lexemes

variable {gap text last : List Char} {c : Char} {line : Nat} {placed : List Placed} {p : Placed}
  {lexemes : List Lexeme}

lemma Gap.head (h : Gap gap) : ∀ c ∈ gap.head?, isBlank c ∨ isDelimiter c := by
  cases h with
  | nil => nofun
  | blank hc _ =>
    rintro _ ⟨⟩
    exact .inl hc
  | comment =>
    rintro _ ⟨⟩
    exact .inr rfl

lemma LastGap.head (h : LastGap gap) : ∀ c ∈ gap.head?, isBlank c ∨ isDelimiter c := by
  rcases h with h | ⟨before, comment, rfl, h, -⟩
  · exact h.head
  · cases before with
    | nil =>
      rintro _ ⟨⟩
      exact .inr rfl
    | cons d rest => exact h.head

lemma head_of_not_isAtom {lexeme : Lexeme} (h : lexeme.isAtom = false) (rest : List Char) :
    ∀ c ∈ (lexeme.text.toList ++ rest).head?, isBlank c ∨ isDelimiter c := by
  cases lexeme with
  | opening b => cases b <;> (rintro _ ⟨⟩; exact .inr rfl)
  | closing b => cases b <;> (rintro _ ⟨⟩; exact .inr rfl)
  | string body =>
    rw [Lexeme.text, String.toList_ofList]
    rintro _ ⟨⟩
    exact .inr rfl
  | atom text => cases h

lemma LaidOut.stopsBefore (h : LaidOut (p :: placed) last text) :
    p.lexeme.StopsBefore (placed.flatMap Placed.text ++ last) := by
  cases hp : p.lexeme with
  | atom text =>
    cases placed with
    | nil => exact h.last.head
    | cons q placed =>
      rw [List.flatMap_cons, Placed.text, List.append_assoc, List.append_assoc]
      have hgap := h.gaps q (by simp)
      cases hq : q.gap with
      | cons c gap =>
        rw [hq] at hgap
        exact hgap.head
      | nil =>
        refine head_of_not_isAtom ?_ _
        by_contra hatom
        exact (List.isChain_cons_cons.mp h.apart).1 (by rw [hp]; rfl) (by simpa using hatom) hq
  | _ => trivial

lemma LaidOut.tail (h : LaidOut (p :: placed) last text) :
    LaidOut placed last (placed.flatMap Placed.text ++ last) where
  text_eq := rfl
  gaps := fun q hq => h.gaps q (List.mem_cons_of_mem p hq)
  last := h.last
  wellFormed := fun q hq => h.wellFormed q (List.mem_cons_of_mem p hq)
  apart := h.apart.tail

lemma LaidOut.covers (h : LaidOut placed last text) (line : Nat) :
    ∃ l, Covers line text l ∧ l.tokens.map Token.lexeme = placed.map Placed.lexeme ∧ l.unclosed = none := by
  induction placed generalizing text line with
  | nil =>
    rw [h.text_eq]
    exact ⟨⟨[], none⟩, .last h.last, rfl, rfl⟩
  | cons p placed ih =>
    obtain ⟨l, hl, hlexemes, hclosed⟩ := ih h.tail (line + newlines (p.gap ++ p.lexeme.text.toList))
    have htext : text = p.gap ++ p.lexeme.text.toList ++ (placed.flatMap Placed.text ++ last) := by
      rw [h.text_eq, List.flatMap_cons, List.append_assoc]
      rfl
    have hcovers := Covers.token (h.gaps p List.mem_cons_self) (h.wellFormed p List.mem_cons_self) h.stopsBefore hl
    rw [← htext] at hcovers
    refine ⟨_, hcovers, ?_, hclosed⟩
    rw [List.map_cons, List.map_cons, hlexemes]

end Lexer

theorem lex_of_shows {source : String} {lexemes : List Lexeme} (h : Shows lexemes source.toList) :
    (lex source).tokens.map Token.lexeme = lexemes ∧ (lex source).unclosed = none := by
  obtain ⟨placed, last, hlaid, rfl⟩ := h
  obtain ⟨l, hl, hlexemes, hclosed⟩ := hlaid.covers 1
  rw [lex_eq_iff.mpr hl]
  exact ⟨hlexemes, hclosed⟩

inductive SameButLines {α : Type} : Except ReadError α → Except ReadError α → Prop
  | ok (a : α) : SameButLines (.ok a) (.ok a)
  | unreadable (problem : SyntaxProblem) (line other : Nat) :
    SameButLines (.error (.unreadable ⟨problem, line⟩)) (.error (.unreadable ⟨problem, other⟩))
  | tooDeep : SameButLines (.error .tooDeep) (.error .tooDeep)

variable {α β : Type} {limit : Nat} {tokens others before after : List Token} {t : Token} {forms : List Form}
  {l m : Lexed} {e : SyntaxError}

lemma value_ofAtom (line other : Nat) (text : List Char) :
    (Form.ofAtom line text).value = (Form.ofAtom other text).value := by
  unfold Form.ofAtom
  split <;> rfl

lemma exists_split_of_lexemes (h : (before ++ t :: after).map Token.lexeme = others.map Token.lexeme) :
    ∃ before' t' after', others = before' ++ t' :: after' ∧
      before.map Token.lexeme = before'.map Token.lexeme ∧ t.lexeme = t'.lexeme ∧
        after.map Token.lexeme = after'.map Token.lexeme := by
  rw [List.map_append, List.map_cons] at h
  obtain ⟨before', rest, rfl, hbefore, hrest⟩ := List.map_eq_append_iff.mp h.symm
  obtain ⟨t', after', rfl, ht, hafter⟩ := List.map_eq_cons_iff.mp hrest
  exact ⟨before', t', after', rfl, hbefore.symm, ht.symm, hafter.symm⟩

lemma Spells.relined (h : Spells forms tokens) (hsame : tokens.map Token.lexeme = others.map Token.lexeme) :
    ∃ more, Spells more others ∧ forms.map Form.value = more.map Form.value := by
  induction h generalizing others with
  | nil =>
    obtain rfl := List.map_eq_nil_iff.mp hsame.symm
    exact ⟨[], .nil, rfl⟩
  | atom line text _ ih =>
    obtain ⟨⟨_, other⟩, rest, rfl, rfl, hrest⟩ := List.map_eq_cons_iff.mp hsame.symm
    obtain ⟨more, hmore, hvalues⟩ := ih hrest.symm
    refine ⟨_, .atom other text hmore, ?_⟩
    rw [List.map_cons, List.map_cons, hvalues, value_ofAtom line other]
  | string line body _ ih =>
    obtain ⟨⟨_, other⟩, rest, rfl, rfl, hrest⟩ := List.map_eq_cons_iff.mp hsame.symm
    obtain ⟨more, hmore, hvalues⟩ := ih hrest.symm
    refine ⟨_, .string other body hmore, ?_⟩
    rw [List.map_cons, List.map_cons, hvalues]
    rfl
  | list b line last _ _ ihi ih =>
    obtain ⟨⟨_, other⟩, rest, rfl, rfl, hrest⟩ := List.map_eq_cons_iff.mp hsame.symm
    obtain ⟨inside, ⟨_, end'⟩, rest, rfl, hinside, ⟨⟩, hafter⟩ := exists_split_of_lexemes hrest.symm
    obtain ⟨items, hitems, hvalues⟩ := ihi hinside
    obtain ⟨more, hmore, hothers⟩ := ih hafter
    refine ⟨_, .list b other end' hitems hmore, ?_⟩
    rw [List.map_cons, List.map_cons, hothers, Form.value, Form.value, Form.values_eq_map, Form.values_eq_map,
      hvalues]

lemma nestsWithin_iff : NestsWithin limit tokens ↔
    ∀ before, before <+: tokens.map Token.lexeme → Viable before → changes before ≤ limit := by
  constructor
  · rintro h _ hp hv
    obtain ⟨before, hbefore, rfl⟩ := List.prefix_map_iff.mp hp
    rw [← bracketBalance_eq_changes]
    exact h before hbefore hv
  · intro h before hp hv
    rw [bracketBalance_eq_changes]
    exact h _ (hp.map Token.lexeme) hv

lemma FirstProblem.relined (h : FirstProblem l e)
    (htokens : l.tokens.map Token.lexeme = m.tokens.map Token.lexeme) (hl : l.unclosed = none)
    (hm : m.unclosed = none) : ∃ line, FirstProblem m ⟨e.problem, line⟩ := by
  cases h with
  | unexpected ht hv hn =>
    rw [ht] at htokens
    obtain ⟨before, t, after, hother, hbefore, hlexeme, -⟩ := exists_split_of_lexemes htokens
    refine ⟨t.line, ?_⟩
    rw [hbefore] at hv
    rw [List.map_append, hbefore, List.map_singleton, hlexeme, ← List.map_singleton, ← List.map_append] at hn
    rw [hlexeme]
    exact .unexpected hother hv hn
  | unclosed hquote _ => cases hl.symm.trans hquote
  | @unfinished before inside b line last _ ht hv hi _ =>
    rw [ht] at htokens
    obtain ⟨before, ⟨_, other⟩, inside, hother, hbefore, ⟨⟩, hinside⟩ := exists_split_of_lexemes htokens
    rw [hbefore] at hv
    rw [hinside] at hi
    obtain ⟨last, hlast⟩ : ∃ last, m.tokens.getLast? = some last := by
      rw [hother]
      simp [List.getLast?_append, List.getLast?_cons]
    exact ⟨last.line, .unfinished hm hother hv hi hlast⟩

lemma Outcome.relined {r : Except ReadError (List Form)} (h : Outcome limit l r)
    (htokens : l.tokens.map Token.lexeme = m.tokens.map Token.lexeme) (hl : l.unclosed = none)
    (hm : m.unclosed = none) :
    ∃ r', Outcome limit m r' ∧ SameButLines (r.map (List.map Form.value)) (r'.map (List.map Form.value)) := by
  have hnests : NestsWithin limit l.tokens ↔ NestsWithin limit m.tokens := by
    rw [nestsWithin_iff, nestsWithin_iff, htokens]
  match r with
  | .ok forms =>
    obtain ⟨hn, -, hs⟩ := h
    obtain ⟨more, hmore, hvalues⟩ := hs.relined htokens
    refine ⟨.ok more, ⟨hnests.mp hn, hm, hmore⟩, ?_⟩
    rw [Except.map, Except.map, hvalues]
    exact .ok _
  | .error (.unreadable e) =>
    obtain ⟨hn, hp⟩ := h
    obtain ⟨line, hline⟩ := hp.relined htokens hl hm
    exact ⟨.error (.unreadable ⟨e.problem, line⟩), ⟨hnests.mp hn, hline⟩, .unreadable e.problem e.line line⟩
  | .error .tooDeep => exact ⟨.error .tooDeep, mt hnests.mpr h, .tooDeep⟩

lemma SameButLines.bind {x y : Except ReadError α} (h : SameButLines x y) (f : α → Except ReadError β)
    (hf : ∀ a, SameButLines (f a) (f a)) : SameButLines (x >>= f) (y >>= f) := by
  cases h with
  | ok a => exact hf a
  | unreadable problem line other => exact .unreadable problem line other
  | tooDeep => exact .tooDeep

lemma SameButLines.refl (x : Except ReadError α) : SameButLines x x := by
  match x with
  | .ok a => exact .ok a
  | .error (.unreadable e) => exact .unreadable e.problem e.line e.line
  | .error .tooDeep => exact .tooDeep

lemma readProgram_eq_bind (room : Nat) (source : String) : readProgram room source =
    (parseProgram (Reading.parserLimit room) source).map (List.map Form.value) >>= Reading.within room := by
  unfold readProgram
  cases parseProgram (Reading.parserLimit room) source <;> rfl

lemma read_eq_bind (room : Nat) (source : String) : read room source =
    (parseProgram (Reading.parserLimit room) source).map (List.map Form.value) >>= fun values =>
      (Reading.within room [Value.single values]).map fun _ => Value.single values := by
  unfold read parse
  cases parseProgram (Reading.parserLimit room) source with
  | ok forms =>
    show (Reading.within room [(Form.single forms).value] >>= fun _ => .ok (Form.single forms).value) =
      (Reading.within room [Value.single (forms.map Form.value)]).map fun _ => Value.single (forms.map Form.value)
    rw [Form.value_single]
    cases Reading.within room [Value.single (forms.map Form.value)] <;> rfl
  | error e => rfl

theorem layout_free {lexemes : List Lexeme} {source other : String} (hs : Shows lexemes source.toList)
    (ho : Shows lexemes other.toList) :
    ((lex source).tokens.map Token.lexeme = lexemes ∧ (lex source).unclosed = none) ∧
    ((lex other).tokens.map Token.lexeme = lexemes ∧ (lex other).unclosed = none) ∧
    ∀ room, SameButLines (read room source) (read room other) ∧
      SameButLines (readProgram room source) (readProgram room other) := by
  obtain ⟨htokens, hclosed⟩ := lex_of_shows hs
  obtain ⟨hothers, hother⟩ := lex_of_shows ho
  refine ⟨⟨htokens, hclosed⟩, ⟨hothers, hother⟩, fun room => ?_⟩
  obtain ⟨r, hr, hsame⟩ := (parseProgram_outcome (Reading.parserLimit room) source).relined
    (htokens.trans hothers.symm) hclosed hother
  rw [← parseProgram_eq_iff.mpr hr] at hsame
  constructor
  · rw [read_eq_bind, read_eq_bind]
    exact hsame.bind _ fun _ => .refl _
  · rw [readProgram_eq_bind, readProgram_eq_bind]
    exact hsame.bind _ fun _ => .refl _

theorem layout_free_unfinished :
    ∃ lexemes, Shows lexemes "(f\"(;\"b".toList ∧ Shows lexemes "\n;(\n( f \"(;\";\"\nb\t; )".toList ∧
      ∀ room, SameButLines (read room "(f\"(;\"b") (read room "\n;(\n( f \"(;\";\"\nb\t; )") := by
  have hatoms : (Lexeme.atom ['f']).WellFormed ∧ (Lexeme.atom ['b']).WellFormed :=
    ⟨⟨List.cons_ne_nil _ _, List.forall_mem_singleton.mpr (by decide)⟩,
      List.cons_ne_nil _ _, List.forall_mem_singleton.mpr (by decide)⟩
  have hstring : (Lexeme.string ['(', ';']).WellFormed :=
    .plain (by decide) (by decide) (.plain (by decide) (by decide) .nil)
  have htight : Shows [.opening .round, .atom ['f'], .string ['(', ';'], .atom ['b']] "(f\"(;\"b".toList := by
    refine ⟨[⟨[], .opening .round⟩, ⟨[], .atom ['f']⟩, ⟨[], .string ['(', ';']⟩, ⟨[], .atom ['b']⟩], [], ?_, rfl⟩
    exact ⟨by decide +kernel, by simp [Gap.nil], .inl .nil, by simp [hatoms, hstring]; trivial,
      by simp [Lexeme.isAtom]⟩
  have hloose : Shows [.opening .round, .atom ['f'], .string ['(', ';'], .atom ['b']]
      "\n;(\n( f \"(;\";\"\nb\t; )".toList := by
    refine ⟨[⟨['\n', ';', '(', '\n'], .opening .round⟩, ⟨[' '], .atom ['f']⟩, ⟨[' '], .string ['(', ';']⟩,
      ⟨[';', '"', '\n'], .atom ['b']⟩], ['\t', ';', ' ', ')'], ?_, rfl⟩
    have hblank : Gap [' '] := .blank (by decide) .nil
    have hfirst : Gap ['\n', ';', '(', '\n'] := .blank (by decide) (@Gap.comment ['('] [] (by decide) .nil)
    have hinner : Gap [';', '"', '\n'] := @Gap.comment ['"'] [] (by decide) .nil
    have hlast : LastGap ['\t', ';', ' ', ')'] := .inr ⟨['\t'], [' ', ')'], rfl, .blank (by decide) .nil, by decide⟩
    exact ⟨by decide +kernel, by simp [hblank, hfirst, hinner], hlast, by simp [hatoms, hstring]; trivial, by simp⟩
  exact ⟨_, htight, hloose, fun room => ((layout_free htight hloose).2.2 room).1⟩

end CurriedLisp
