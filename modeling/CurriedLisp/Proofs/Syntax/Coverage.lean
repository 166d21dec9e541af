import CurriedLisp.Proofs.Syntax.Lexing

/-! Where the tokens of a text stand in it. White space and comments lie between them, and nothing else
does: what is left over is either a gap at the end or begins with a quote that is never closed. -/

namespace CurriedLisp

open Text

namespace Lexer

def newlines (text : List Char) : Nat := text.count '\n'

inductive Escaped : List Char → Prop
  | nil : Escaped []
  | plain {c : Char} {rest : List Char} : c ≠ '"' → c ≠ '\\' → Escaped rest → Escaped (c :: rest)
  | pair (c : Char) {rest : List Char} : Escaped rest → Escaped ('\\' :: c :: rest)

def Unclosed (text : List Char) : Prop := ∀ body after, Escaped body → text ≠ body ++ '"' :: after

inductive Gap : List Char → Prop
  | nil : Gap []
  | blank {c : Char} {rest : List Char} : isBlank c → Gap rest → Gap (c :: rest)
  | comment {text rest : List Char} : '\n' ∉ text → Gap rest → Gap (';' :: text ++ '\n' :: rest)

def LastGap (text : List Char) : Prop :=
  Gap text ∨ ∃ before comment, text = before ++ ';' :: comment ∧ Gap before ∧ '\n' ∉ comment

end Lexer

namespace Lexeme

open Lexer

def WellFormed : Lexeme → Prop
  | opening _ | closing _ => True
  | string body => Escaped body
  | atom text => text ≠ [] ∧ ∀ c ∈ text, isAtomChar c

def StopsBefore : Lexeme → List Char → Prop
  | atom _, rest => ∀ c ∈ rest.head?, isBlank c ∨ isDelimiter c
  | opening _, _ | closing _, _ | string _, _ => True

lemma text_ne_nil {lexeme : Lexeme} (h : lexeme.WellFormed) : lexeme.text.toList ≠ [] := by
  cases lexeme with
  | opening b => cases b <;> exact List.cons_ne_nil _ _
  | closing b => cases b <;> exact List.cons_ne_nil _ _
  | string body => simp [text]
  | atom chars =>
    rw [text, String.toList_ofList]
    exact h.1

end Lexeme

namespace Lexer

/-- From the given line on, a text consists of gaps and of these tokens. -/
inductive Covers : Nat → List Char → Lexed → Prop
  | last {line : Nat} {gap : List Char} : LastGap gap → Covers line gap ⟨[], none⟩
  | unclosed {line : Nat} {gap rest : List Char} : Gap gap → Unclosed rest →
    Covers line (gap ++ '"' :: rest) ⟨[], some (line + newlines gap)⟩
  | token {line : Nat} {gap rest : List Char} {lexeme : Lexeme} {l : Lexed} : Gap gap → lexeme.WellFormed →
    lexeme.StopsBefore rest → Covers (line + newlines (gap ++ lexeme.text.toList)) rest l →
    Covers line (gap ++ lexeme.text.toList ++ rest) ⟨⟨lexeme, line + newlines gap⟩ :: l.tokens, l.unclosed⟩

variable {line : Nat} {done : List Token} {text rest body gap : List Char} {c : Char} {l : Lexed}

lemma newlines_append (xs ys : List Char) : newlines (xs ++ ys) = newlines xs + newlines ys :=
  List.count_append

lemma newlines_eq_zero (h : '\n' ∉ text) : newlines text = 0 := List.count_eq_zero_of_not_mem h

lemma start_line (s : State) (c : Char) : (start s c).line = s.line := by
  simp only [start, apply_ite State.line, ite_self]

lemma consume_line (s : State) (c : Char) : (consume s c).line = s.line := by
  unfold consume
  split
  · exact start_line s c
  · simp only [apply_ite State.line, ite_self]
  · simp only [apply_ite State.line, ite_self]
  · rfl
  · simp only [apply_ite State.line, start_line, ite_self]

lemma step_eq (s : State) (c : Char) : step s c = { consume s c with line := s.line + newlines [c] } := by
  rw [← consume_line s c]
  unfold step
  by_cases h : c = '\n' <;> simp [h, newlines]

lemma step_gap_blank (h : isBlank c) :
    step ⟨.gap, line, done⟩ c = ⟨.gap, line + newlines [c], done⟩ := by
  rw [step_eq]
  simp [consume, start_of_blank h]

lemma foldl_comment (h : '\n' ∉ text) :
    text.foldl step ⟨.comment, line, done⟩ = ⟨.comment, line, done⟩ := by
  induction text with
  | nil => rfl
  | cons c rest ih =>
    rw [List.mem_cons, not_or] at h
    have hstep : step ⟨.comment, line, done⟩ c = ⟨.comment, line, done⟩ := by
      simp [step, consume, Ne.symm h.1]
    rw [List.foldl_cons, hstep, ih h.2]

lemma foldl_gap (h : Gap gap) :
    gap.foldl step ⟨.gap, line, done⟩ = ⟨.gap, line + newlines gap, done⟩ := by
  induction h generalizing line with
  | nil => rfl
  | @blank c rest hc _ ih =>
    rw [List.foldl_cons, step_gap_blank hc, ih, Nat.add_assoc, ← newlines_append, List.singleton_append]
  | @comment text rest ht _ ih =>
    have hopen : step ⟨.gap, line, done⟩ ';' = ⟨.comment, line, done⟩ := rfl
    have hclose : step ⟨.comment, line, done⟩ '\n' = ⟨.gap, line + 1, done⟩ := rfl
    have hcount : newlines (';' :: text ++ '\n' :: rest) = 1 + newlines rest := by
      have hcomment : newlines (';' :: text) = 0 := newlines_eq_zero (by simpa using ht)
      rw [newlines_append, hcomment, Nat.zero_add, ← List.singleton_append, newlines_append]
      rfl
    rw [List.cons_append, List.foldl_cons, hopen, List.foldl_append, foldl_comment ht, List.foldl_cons, hclose,
      ih, ← List.cons_append, hcount, Nat.add_assoc]

lemma finish_lastGap (h : LastGap gap) :
    (gap.foldl step ⟨.gap, line, done⟩).finish = ⟨done.reverse, none⟩ := by
  rcases h with h | ⟨before, comment, rfl, h, hc⟩
  · rw [foldl_gap h]
    rfl
  · have hopen : ∀ line, step ⟨.gap, line, done⟩ ';' = ⟨.comment, line, done⟩ := fun _ => rfl
    rw [List.foldl_append, foldl_gap h, List.foldl_cons, hopen, foldl_comment hc]
    rfl

lemma foldl_escaped {first : Nat} (h : Escaped text) :
    text.foldl step ⟨.string first body, line, done⟩ =
      ⟨.string first (text.reverse ++ body), line + newlines text, done⟩ := by
  induction h generalizing line body with
  | nil => rfl
  | @plain c rest hq hb _ ih =>
    have hstep : step ⟨.string first body, line, done⟩ c =
        ⟨.string first (c :: body), line + newlines [c], done⟩ := by
      rw [step_eq]
      simp [consume, hq, hb]
    rw [List.foldl_cons, hstep, ih, Nat.add_assoc, ← newlines_append, List.singleton_append,
      List.reverse_cons, List.append_assoc, List.singleton_append]
  | @pair c rest _ ih =>
    have hescape : step ⟨.string first body, line, done⟩ '\\' = ⟨.escape first body, line, done⟩ := rfl
    have hstep : step ⟨.escape first body, line, done⟩ c =
        ⟨.string first (c :: '\\' :: body), line + newlines [c], done⟩ := by
      rw [step_eq]
      rfl
    have hcount : newlines ('\\' :: c :: rest) = newlines [c] + newlines rest := by
      rw [← newlines_append]
      exact List.count_cons_of_ne (by decide)
    rw [List.foldl_cons, hescape, List.foldl_cons, hstep, ih, hcount, Nat.add_assoc]
    simp

lemma Escaped.append {xs ys : List Char} (hx : Escaped xs) (hy : Escaped ys) : Escaped (xs ++ ys) := by
  induction hx with
  | nil => exact hy
  | plain hq hb _ ih => exact .plain hq hb ih
  | pair c _ ih => exact .pair c ih

lemma Unclosed.split (h : Unclosed text) : Escaped text ∨ ∃ body, text = body ++ ['\\'] ∧ Escaped body := by
  -- Decoding takes a text apart as the judgment does, a backslash together with the character after it.
  fun_induction StringLiteral.decode text with
  | case1 c rest ih =>
    have hrest : Unclosed rest := by
      rintro xs after hx rfl
      exact h _ _ (.pair c hx) rfl
    rcases ih hrest with hr | ⟨body, rfl, hr⟩
    · exact .inl (.pair c hr)
    · exact .inr ⟨'\\' :: c :: body, rfl, .pair c hr⟩
  | case2 c rest hc ih =>
    by_cases hb : c = '\\'
    · cases rest with
      | nil => exact .inr ⟨[], by rw [hb]; rfl, .nil⟩
      | cons d rest => exact (hc d rest hb rfl).elim
    · have hq : c ≠ '"' := by
        rintro rfl
        exact h [] rest .nil rfl
      have hrest : Unclosed rest := by
        rintro xs after hx rfl
        exact h _ _ (.plain hq hb hx) rfl
      rcases ih hrest with hr | ⟨body, rfl, hr⟩
      · exact .inl (.plain hq hb hr)
      · exact .inr ⟨c :: body, rfl, .plain hq hb hr⟩
  | case3 => exact .inl .nil

lemma finish_unclosed {first : Nat} (h : Unclosed text) :
    (text.foldl step ⟨.string first body, line, done⟩).finish = ⟨done.reverse, some first⟩ := by
  rcases h.split with hall | ⟨before, rfl, hbefore⟩
  · rw [foldl_escaped hall]
    rfl
  · rw [List.foldl_append, foldl_escaped hbefore]
    rfl

lemma foldl_atom {first : Nat} (h : ∀ c ∈ text, isAtomChar c) :
    text.foldl step ⟨.atom first body, line, done⟩ = ⟨.atom first (text.reverse ++ body), line, done⟩ := by
  induction text generalizing body with
  | nil => rfl
  | cons c rest ih =>
    have hc : isAtomChar c := h c List.mem_cons_self
    have hstep : step ⟨.atom first body, line, done⟩ c = ⟨.atom first (c :: body), line, done⟩ := by
      have hnewline : c ≠ '\n' := by
        rintro rfl
        exact absurd hc (by decide)
      rw [step_eq, newlines_eq_zero (by simpa using hnewline.symm)]
      simp [consume, hc]
    rw [List.foldl_cons, hstep, ih fun d hd => h d (List.mem_cons_of_mem c hd), List.reverse_cons,
      List.append_assoc, List.singleton_append]

lemma isAtomChar_eq_false_iff : isAtomChar c = false ↔ isBlank c ∨ isDelimiter c := by
  unfold isAtomChar
  cases isBlank c <;> cases isDelimiter c <;> simp

lemma finish_atom {first : Nat} (h : ∀ c ∈ rest.head?, isBlank c ∨ isDelimiter c) :
    (rest.foldl step ⟨.atom first body, line, done⟩).finish =
      (rest.foldl step ⟨.gap, line, ⟨.atom body.reverse, first⟩ :: done⟩).finish := by
  cases rest with
  | nil => rfl
  | cons c rest =>
    -- The character that ends the atom is consumed as if the atom had ended before.
    have hc : isAtomChar c = false := isAtomChar_eq_false_iff.mpr (h c rfl)
    have hconsume : consume ⟨.atom first body, line, done⟩ c =
        consume ⟨.gap, line, ⟨.atom body.reverse, first⟩ :: done⟩ c := by
      simp only [consume, hc]
      rfl
    rw [List.foldl_cons, List.foldl_cons, step_eq, step_eq, hconsume]

lemma finish_token {lexeme : Lexeme} (hw : lexeme.WellFormed) (hs : lexeme.StopsBefore rest) :
    ((lexeme.text.toList ++ rest).foldl step ⟨.gap, line, done⟩).finish =
      (rest.foldl step ⟨.gap, line + newlines lexeme.text.toList, ⟨lexeme, line⟩ :: done⟩).finish := by
  rw [List.foldl_append]
  cases lexeme with
  | opening b => cases b <;> rfl
  | closing b => cases b <;> rfl
  | string body =>
    have hopen : step ⟨.gap, line, done⟩ '"' = ⟨.string line [], line, done⟩ := rfl
    have hclose : ∀ next, step ⟨.string line body.reverse, next, done⟩ '"' =
        ⟨.gap, next, ⟨.string body, line⟩ :: done⟩ := by
      intro next
      simp [step, consume]
    have hcount : newlines ('"' :: body ++ ['"']) = newlines body := by
      simp [newlines]
    rw [Lexeme.text, String.toList_ofList, hcount, List.cons_append, List.foldl_cons, hopen, List.foldl_append,
      foldl_escaped hw, List.append_nil, List.foldl_cons, List.foldl_nil, hclose]
  | atom text =>
    obtain ⟨c, more, rfl⟩ := List.exists_cons_of_ne_nil hw.1
    have hc : isAtomChar c := hw.2 c List.mem_cons_self
    have hnewline : '\n' ∉ c :: more := fun h => absurd (hw.2 _ h) (by decide)
    have hfirst : step ⟨.gap, line, done⟩ c = ⟨.atom line [c], line, done⟩ := by
      rw [step_eq, newlines_eq_zero (by simp_all)]
      simp [consume, start_of_atomChar hc]
    rw [Lexeme.text, String.toList_ofList, newlines_eq_zero hnewline, List.foldl_cons, hfirst,
      foldl_atom fun d hd => hw.2 d (List.mem_cons_of_mem c hd), finish_atom hs]
    simp

lemma Covers.finish (h : Covers line text l) :
    (text.foldl step ⟨.gap, line, done⟩).finish = ⟨done.reverse ++ l.tokens, l.unclosed⟩ := by
  induction h generalizing done with
  | last hg => rw [finish_lastGap hg, List.append_nil]
  | @unclosed line gap rest hg hr =>
    have hopen : ∀ next, step ⟨.gap, next, done⟩ '"' = ⟨.string next [], next, done⟩ := fun _ => rfl
    rw [List.foldl_append, foldl_gap hg, List.foldl_cons, hopen, finish_unclosed hr, List.append_nil]
  | token hg hw hs _ ih =>
    rw [List.append_assoc, List.foldl_append, foldl_gap hg, finish_token hw hs, Nat.add_assoc,
      ← newlines_append, ih, List.reverse_cons, List.append_assoc, List.singleton_append]

lemma Gap.append {xs ys : List Char} (hx : Gap xs) (hy : Gap ys) : Gap (xs ++ ys) := by
  induction hx with
  | nil => exact hy
  | blank hc _ ih => exact .blank hc ih
  | comment ht _ ih =>
    rw [List.append_assoc, List.cons_append]
    exact .comment ht ih

lemma LastGap.after {xs ys : List Char} (hx : Gap xs) (hy : LastGap ys) : LastGap (xs ++ ys) := by
  rcases hy with hy | ⟨before, comment, rfl, hy, hc⟩
  · exact .inl (hx.append hy)
  · exact .inr ⟨xs ++ before, comment, (List.append_assoc _ _ _).symm, hx.append hy, hc⟩

lemma exists_gap (text : List Char) :
    ∃ gap rest, text = gap ++ rest ∧ Gap gap ∧
      (LastGap rest ∨ ∃ c more, rest = c :: more ∧ isBlank c = false ∧ c ≠ ';') := by
  induction h : text.length using Nat.strongRecOn generalizing text with
  | ind n ih =>
    subst h
    cases text with
    | nil => exact ⟨[], [], rfl, .nil, .inl (.inl .nil)⟩
    | cons c rest =>
      by_cases hb : isBlank c
      · obtain ⟨gap, more, rfl, hg, hmore⟩ := ih rest.length (by simp) rest rfl
        exact ⟨c :: gap, more, rfl, .blank hb hg, hmore⟩
      by_cases hc : c = ';'
      · subst hc
        by_cases hn : '\n' ∈ rest
        · obtain ⟨comment, later, rfl, hcomment⟩ := List.eq_append_cons_of_mem hn
          obtain ⟨gap, more, rfl, hg, hmore⟩ := ih later.length (by simp; omega) later rfl
          exact ⟨';' :: comment ++ '\n' :: gap, more, by simp, .comment hcomment hg, hmore⟩
        · exact ⟨[], ';' :: rest, rfl, .nil, .inl (.inr ⟨[], rest, rfl, .nil, hn⟩)⟩
      · exact ⟨[], c :: rest, rfl, .nil, .inr ⟨c, rest, rfl, by simpa using hb, hc⟩⟩

lemma begins (h : isBlank c = false) :
    c = ';' ∨ c = '"' ∨ isAtomChar c ∨ ∃ b : Bracket, b.opening.toList = [c] ∨ b.closing.toList = [c] := by
  by_cases hd : isDelimiter c
  · simp only [isDelimiter, Bool.or_eq_true, decide_eq_true_eq] at hd
    obtain ((((rfl | rfl) | rfl) | rfl) | rfl) | rfl := hd
    · exact .inr (.inr (.inr ⟨.round, .inl rfl⟩))
    · exact .inr (.inr (.inr ⟨.round, .inr rfl⟩))
    · exact .inr (.inr (.inr ⟨.curly, .inl rfl⟩))
    · exact .inr (.inr (.inr ⟨.curly, .inr rfl⟩))
    · exact .inr (.inl rfl)
    · exact .inl rfl
  · exact .inr (.inr (.inl (by simp [isAtomChar, h, hd])))

lemma exists_lexeme (hb : isBlank c = false) (hc : c ≠ ';') (more : List Char) :
    (∃ (lexeme : Lexeme) (rest : List Char), c :: more = lexeme.text.toList ++ rest ∧ lexeme.WellFormed ∧
      lexeme.StopsBefore rest) ∨ c = '"' ∧ Unclosed more := by
  rcases begins hb with h | rfl | h | ⟨b, h | h⟩
  · exact (hc h).elim
  · by_cases hu : Unclosed more
    · exact .inr ⟨rfl, hu⟩
    · simp only [Unclosed, Classical.not_forall, Classical.not_not] at hu
      obtain ⟨body, after, hbody, rfl⟩ := hu
      exact .inl ⟨.string body, after, by simp [Lexeme.text], hbody, trivial⟩
  · have hall := List.all_eq_true.mp (List.all_takeWhile (p := isAtomChar) (l := c :: more))
    have hstop := List.head?_dropWhile_not isAtomChar (c :: more)
    refine .inl ⟨.atom ((c :: more).takeWhile isAtomChar), (c :: more).dropWhile isAtomChar, ?_, ⟨?_, hall⟩, ?_⟩
    · rw [Lexeme.text, String.toList_ofList, List.takeWhile_append_dropWhile]
    · simp [h]
    · intro d hd
      rw [Option.mem_def] at hd
      rw [hd] at hstop
      exact isAtomChar_eq_false_iff.mp hstop
  · exact .inl ⟨.opening b, more, by rw [Lexeme.text, h]; rfl, trivial, trivial⟩
  · exact .inl ⟨.closing b, more, by rw [Lexeme.text, h]; rfl, trivial, trivial⟩

lemma exists_covers (line : Nat) (text : List Char) : ∃ l, Covers line text l := by
  induction h : text.length using Nat.strongRecOn generalizing line text with
  | ind n ih =>
    obtain ⟨gap, rest, rfl, hg, hlast | ⟨c, more, rfl, hb, hc⟩⟩ := exists_gap text
    · exact ⟨_, .last (hlast.after hg)⟩
    obtain ⟨lexeme, rest, heq, hw, hs⟩ | ⟨rfl, hu⟩ := exists_lexeme hb hc more
    · have hlength : rest.length < n := by
        have hpos := List.length_pos_iff.mpr (Lexeme.text_ne_nil hw)
        rw [← h, heq, List.length_append, List.length_append]
        omega
      obtain ⟨l, hl⟩ := ih rest.length hlength (line + newlines (gap ++ lexeme.text.toList)) rest rfl
      rw [heq, ← List.append_assoc]
      exact ⟨_, .token hg hw hs hl⟩
    · exact ⟨_, .unclosed hg hu⟩

end Lexer

open Lexer

theorem lex_eq_iff {source : String} {l : Lexed} : lex source = l ↔ Covers 1 source.toList l := by
  have hfinish : ∀ {l : Lexed}, Covers 1 source.toList l → lex source = l := by
    intro l h
    exact h.finish
  constructor
  · rintro rfl
    obtain ⟨l, hl⟩ := exists_covers 1 source.toList
    rw [hfinish hl]
    exact hl
  · exact hfinish

lemma covers_lex (source : String) : Covers 1 source.toList (lex source) := lex_eq_iff.mp rfl

end CurriedLisp
