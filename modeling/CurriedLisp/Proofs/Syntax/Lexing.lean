import CurriedLisp.Syntax.Lexer
import CurriedLisp.Syntax.StringLiteral
import Mathlib.Tactic.Lemma

namespace CurriedLisp

open Text

namespace Lexer

def State.Between (s : State) : Prop :=
  match s.mode with
  | .gap | .atom .. => True
  | .comment | .string .. | .escape .. => False

def State.lexemes (s : State) : List Lexeme :=
  match s.mode with
  | .atom _ text => (s.done.map Token.lexeme).reverse ++ [.atom text.reverse]
  | .gap | .comment | .string .. | .escape .. => (s.done.map Token.lexeme).reverse

variable {s : State} {c : Char} {line : Nat} {text body : List Char}

lemma between_of_gap (h : s.mode = .gap) : s.Between := by
  simp [State.Between, h]

lemma lexemes_of_gap (h : s.mode = .gap) : s.lexemes = (s.done.map Token.lexeme).reverse := by
  simp [State.lexemes, h]

lemma finish_of_between (h : s.Between) :
    s.finish.tokens.map Token.lexeme = s.lexemes ∧ s.finish.unclosed = none := by
  unfold State.Between at h
  unfold State.finish State.lexemes
  split at h
  · next hm => simp [hm]
  · next hm => simp [hm]
  all_goals contradiction

lemma step_mode (s : State) (c : Char) : (step s c).mode = (consume s c).mode := by
  unfold step
  split <;> rfl

lemma step_done (s : State) (c : Char) : (step s c).done = (consume s c).done := by
  unfold step
  split <;> rfl

lemma step_lexemes (s : State) (c : Char) : (step s c).lexemes = (consume s c).lexemes := by
  unfold State.lexemes
  rw [step_mode, step_done]

lemma consume_of_not_atomChar (hs : s.Between) (hc : isAtomChar c = false) :
    ∃ done, consume s c = start { s with done := done } c ∧ (done.map Token.lexeme).reverse = s.lexemes := by
  unfold State.Between at hs
  unfold consume State.lexemes
  split at hs
  · next hm =>
    simp only [hm]
    exact ⟨s.done, rfl, rfl⟩
  · next line text hm =>
    simp only [hm, hc]
    exact ⟨⟨.atom text.reverse, line⟩ :: s.done, rfl, List.reverse_cons⟩
  all_goals contradiction

lemma start_of_blank (h : isBlank c) : start s c = { s with mode := .gap } := by
  have hne : ∀ d, isBlank d = false → c ≠ d := by
    rintro d hd rfl
    rw [h] at hd
    cases hd
  simp [start, hne '(' (by decide), hne ')' (by decide), hne '\x7b' (by decide), hne '\x7d' (by decide),
    hne '"' (by decide), hne ';' (by decide), h]

lemma start_of_atomChar (h : isAtomChar c) : start s c = { s with mode := .atom s.line [c] } := by
  simp only [isAtomChar, isDelimiter, Bool.and_eq_true, Bool.not_eq_true', Bool.or_eq_false_iff,
    decide_eq_false_iff_not] at h
  simp [start, h]

lemma step_blank (hs : s.Between) (hc : isBlank c) :
    (step s c).mode = .gap ∧ (step s c).lexemes = s.lexemes := by
  have hatom : isAtomChar c = false := by simp [isAtomChar, hc]
  obtain ⟨done, hstep, hdone⟩ := consume_of_not_atomChar hs hatom
  rw [step_mode, step_lexemes, hstep, start_of_blank hc]
  exact ⟨rfl, hdone⟩

lemma step_single (c : Char) {lexeme : Lexeme} (hs : s.Between) (hc : isAtomChar c = false)
    (hstart : ∀ t : State, start t c = { t with mode := .gap, done := ⟨lexeme, t.line⟩ :: t.done }) :
    (step s c).mode = .gap ∧ (step s c).lexemes = s.lexemes ++ [lexeme] := by
  obtain ⟨done, hstep, hdone⟩ := consume_of_not_atomChar hs hc
  rw [step_mode, step_lexemes, hstep, hstart, ← hdone]
  exact ⟨rfl, List.reverse_cons⟩

lemma foldl_opening (hs : s.Between) (b : Bracket) :
    (b.opening.toList.foldl step s).mode = .gap ∧
      (b.opening.toList.foldl step s).lexemes = s.lexemes ++ [.opening b] := by
  cases b with
  | round => exact step_single '(' hs (by decide) fun _ => rfl
  | curly => exact step_single '\x7b' hs (by decide) fun _ => rfl

lemma foldl_closing (hs : s.Between) (b : Bracket) :
    (b.closing.toList.foldl step s).mode = .gap ∧
      (b.closing.toList.foldl step s).lexemes = s.lexemes ++ [.closing b] := by
  cases b with
  | round => exact step_single ')' hs (by decide) fun _ => rfl
  | curly => exact step_single '\x7d' hs (by decide) fun _ => rfl

lemma foldl_atomChars (hm : s.mode = .atom line body) (ht : ∀ c ∈ text, isAtomChar c) :
    (text.foldl step s).mode = .atom line (text.reverse ++ body) ∧ (text.foldl step s).done = s.done := by
  induction text generalizing s body with
  | nil => exact ⟨hm, rfl⟩
  | cons c rest ih =>
    have hstep : consume s c = { s with mode := .atom line (c :: body) } := by
      simp only [consume, hm, ht c List.mem_cons_self, if_true]
    have hmode : (step s c).mode = .atom line (c :: body) := by rw [step_mode, hstep]
    obtain ⟨hrest, hdone⟩ := ih hmode fun d hd => ht d (List.mem_cons_of_mem c hd)
    refine ⟨?_, ?_⟩
    · rw [List.foldl_cons, hrest, List.reverse_cons, List.append_assoc, List.singleton_append]
    · rw [List.foldl_cons, hdone, step_done, hstep]

lemma foldl_escape (hm : s.mode = .string line body) (c : Char) :
    ((StringLiteral.escape c).foldl step s).mode = .string line ((StringLiteral.escape c).reverse ++ body) ∧
      ((StringLiteral.escape c).foldl step s).done = s.done := by
  have hbackslash : consume s '\\' = { s with mode := .escape line body } := by
    simp [consume, hm]
  have hpair : ∀ d, ((['\\', d] : List Char).foldl step s).mode = .string line (d :: '\\' :: body) ∧
      ((['\\', d] : List Char).foldl step s).done = s.done := by
    intro d
    have hmode : (step s '\\').mode = .escape line body := by rw [step_mode, hbackslash]
    have hnext : consume (step s '\\') d =
        { step s '\\' with mode := .string line (d :: '\\' :: body) } := by
      simp only [consume, hmode]
    simp only [List.foldl_cons, List.foldl_nil]
    rw [step_mode, step_done, hnext, step_done, hbackslash]
    exact ⟨rfl, rfl⟩
  unfold StringLiteral.escape
  split
  · exact hpair _
  split
  · exact hpair _
  split
  · exact hpair _
  split
  · exact hpair _
  · next hb hq _ _ =>
    have hplain : consume s c = { s with mode := .string line (c :: body) } := by
      simp [consume, hm, hb, hq]
    simp only [List.foldl_cons, List.foldl_nil]
    rw [step_mode, step_done, hplain]
    exact ⟨rfl, rfl⟩

lemma foldl_encode (hm : s.mode = .string line body) (text : List Char) :
    ((StringLiteral.encode text).foldl step s).mode =
        .string line ((StringLiteral.encode text).reverse ++ body) ∧
      ((StringLiteral.encode text).foldl step s).done = s.done := by
  induction text generalizing s body with
  | nil => exact ⟨hm, rfl⟩
  | cons c rest ih =>
    have hsplit : StringLiteral.encode (c :: rest) =
        StringLiteral.escape c ++ StringLiteral.encode rest := rfl
    obtain ⟨hmode, hdone⟩ := foldl_escape hm c
    obtain ⟨hrest, hrestDone⟩ := ih hmode
    rw [hsplit, List.foldl_append, hrest, hrestDone, hdone, List.reverse_append, List.append_assoc]
    exact ⟨rfl, rfl⟩

def Reads (text : List Char) (lexemes : List Lexeme) : Prop :=
  ∀ s : State, s.mode = .gap →
    (text.foldl step s).Between ∧ (text.foldl step s).lexemes = s.lexemes ++ lexemes

namespace Reads

variable {xs ys : List Char} {ls ms : List Lexeme}

lemma nil : Reads [] [] := by
  intro s hs
  exact ⟨between_of_gap hs, (List.append_nil _).symm⟩

lemma atom (hne : text ≠ []) (ht : ∀ c ∈ text, isAtomChar c) : Reads text [.atom text] := by
  intro s hs
  obtain ⟨c, rest, rfl⟩ := List.exists_cons_of_ne_nil hne
  have hstep : consume s c = { s with mode := .atom s.line [c] } := by
    simp only [consume, hs]
    exact start_of_atomChar (ht c List.mem_cons_self)
  have hmode : (step s c).mode = .atom s.line [c] := by rw [step_mode, hstep]
  obtain ⟨hrest, hdone⟩ := foldl_atomChars hmode fun d hd => ht d (List.mem_cons_of_mem c hd)
  rw [step_done, hstep] at hdone
  rw [List.foldl_cons, lexemes_of_gap hs]
  simp [State.Between, State.lexemes, hrest, hdone]

lemma string (text : List Char) :
    Reads ('"' :: StringLiteral.encode text ++ ['"']) [.string (StringLiteral.encode text)] := by
  intro s hs
  have hopen : consume s '"' = { s with mode := .string s.line [] } := by
    simp only [consume, hs]
    rfl
  have hmode : (step s '"').mode = .string s.line [] := by rw [step_mode, hopen]
  obtain ⟨hbody, hdone⟩ := foldl_encode hmode text
  rw [step_done, hopen] at hdone
  rw [List.cons_append, List.foldl_cons, List.foldl_append, List.foldl_cons, List.foldl_nil]
  generalize (StringLiteral.encode text).foldl step (step s '"') = t at hbody hdone
  have hclose : consume t '"' =
      { t with mode := .gap, done := ⟨.string (StringLiteral.encode text), s.line⟩ :: s.done } := by
    simp [consume, hbody, hdone]
  have hgap : (step t '"').mode = .gap := by rw [step_mode, hclose]
  refine ⟨between_of_gap hgap, ?_⟩
  rw [lexemes_of_gap hgap, lexemes_of_gap hs, step_done, hclose]
  exact List.reverse_cons

lemma separated {c : Char} (hx : Reads xs ls) (hc : isBlank c) (hy : Reads ys ms) :
    Reads (xs ++ c :: ys) (ls ++ ms) := by
  intro s hs
  obtain ⟨hb, hl⟩ := hx s hs
  obtain ⟨hgap, hsame⟩ := step_blank hb hc
  obtain ⟨hb', hm⟩ := hy _ hgap
  rw [List.foldl_append, List.foldl_cons]
  refine ⟨hb', ?_⟩
  rw [hm, hsame, hl, List.append_assoc]

lemma bracketed (b : Bracket) (hx : Reads xs ls) :
    Reads (b.opening.toList ++ xs ++ b.closing.toList) (.opening b :: ls ++ [.closing b]) := by
  intro s hs
  obtain ⟨hgap, hopen⟩ := foldl_opening (between_of_gap hs) b
  obtain ⟨hb, hl⟩ := hx _ hgap
  obtain ⟨hgap', hclose⟩ := foldl_closing hb b
  rw [List.foldl_append, List.foldl_append]
  refine ⟨between_of_gap hgap', ?_⟩
  rw [hclose, hl, hopen, List.append_assoc, List.append_assoc]
  rfl

lemma intercalate {α : Type} {separator : String} {c : Char} (hs : separator.toList = [c])
    (hc : isBlank c) (f : α → String) (g : α → List Lexeme) {items : List α}
    (h : ∀ a ∈ items, Reads (f a).toList (g a)) :
    Reads (separator.intercalate (items.map f)).toList (items.flatMap g) := by
  induction items with
  | nil =>
    rw [List.map_nil, String.intercalate_nil]
    exact nil
  | cons a rest ih =>
    have ha := h a List.mem_cons_self
    cases rest with
    | nil => simpa using ha
    | cons b more =>
      have hrest := ih fun x hx => h x (List.mem_cons_of_mem a hx)
      have htext : (separator.intercalate ((a :: b :: more).map f)).toList =
          (f a).toList ++ c :: (separator.intercalate ((b :: more).map f)).toList := by
        rw [List.map_cons, List.map_cons, String.intercalate_cons_cons, String.toList_append,
          String.toList_append, hs, List.append_assoc, List.singleton_append]
      rw [htext, List.flatMap_cons]
      exact ha.separated hc hrest

end Reads

end Lexer

lemma lex_of_reads {source : String} {lexemes : List Lexeme} (h : Lexer.Reads source.toList lexemes) :
    (lex source).tokens.map Token.lexeme = lexemes ∧ (lex source).unclosed = none := by
  obtain ⟨hb, hl⟩ := h {} rfl
  obtain ⟨htokens, hclosed⟩ := Lexer.finish_of_between hb
  rw [hl] at htokens
  exact ⟨htokens, hclosed⟩

end CurriedLisp
