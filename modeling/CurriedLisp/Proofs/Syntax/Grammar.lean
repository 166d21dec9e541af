import CurriedLisp.Syntax.Read
import Mathlib.Tactic.Lemma

/-! The grammar of bracketed expressions. The lexemes that begin some sentence are those after which the
brackets left open are known, and they are a sentence if there are none. -/

namespace CurriedLisp

/-- A sequence of expressions. An expression is an atom, a string, or a sequence between two brackets of one
kind. -/
inductive Sentence : List Lexeme → Prop
  | nil : Sentence []
  | atom (text : List Char) {rest : List Lexeme} : Sentence rest → Sentence (.atom text :: rest)
  | string (body : List Char) {rest : List Lexeme} : Sentence rest → Sentence (.string body :: rest)
  | list (b : Bracket) {inside rest : List Lexeme} : Sentence inside → Sentence rest →
    Sentence (.opening b :: inside ++ .closing b :: rest)

def Viable (lexemes : List Lexeme) : Prop := ∃ more, Sentence (lexemes ++ more)

/-- The brackets open after the lexemes, innermost first, if those open before are `outer` and each bracket
is closed by one of its kind. -/
def openAfter : List Bracket → List Lexeme → Option (List Bracket)
  | outer, [] => some outer
  | outer, .opening b :: rest => openAfter (b :: outer) rest
  | [], .closing _ :: _ => none
  | b :: outer, .closing c :: rest => if b = c then openAfter outer rest else none
  | outer, .string _ :: rest => openAfter outer rest
  | outer, .atom _ :: rest => openAfter outer rest

variable {xs ys : List Lexeme} {b c : Bracket} {outer : List Bracket} {tokens : List Token}

lemma openAfter_append (outer : List Bracket) (xs ys : List Lexeme) :
    openAfter outer (xs ++ ys) = (openAfter outer xs).bind fun inner => openAfter inner ys := by
  fun_induction openAfter outer xs with
  | case1 => rfl
  | case2 outer b rest ih => exact ih
  | case3 => rfl
  | case4 outer c rest ih =>
    rw [List.cons_append, openAfter, if_pos rfl]
    exact ih
  | case5 outer b c rest hne => rw [List.cons_append, openAfter, if_neg hne, Option.bind_none]
  | case6 outer body rest ih => exact ih
  | case7 outer text rest ih => exact ih

lemma Sentence.openAfter (h : Sentence xs) (outer : List Bracket) : openAfter outer xs = some outer := by
  induction h generalizing outer with
  | nil => rfl
  | atom text _ ih => exact ih outer
  | string body _ ih => exact ih outer
  | list b _ _ ihi ihr =>
    rw [List.cons_append, CurriedLisp.openAfter, openAfter_append, ihi, Option.bind_some,
      CurriedLisp.openAfter, if_pos rfl, ihr]

inductive Closes : List Bracket → List Lexeme → Prop
  | nil {rest : List Lexeme} : Sentence rest → Closes [] rest
  | cons {b : Bracket} {outer : List Bracket} {inside rest : List Lexeme} : Sentence inside →
    Closes outer rest → Closes (b :: outer) (inside ++ .closing b :: rest)

lemma Closes.before {e : List Lexeme} (he : ∀ {rest}, Sentence rest → Sentence (e ++ rest))
    (h : Closes outer xs) : Closes outer (e ++ xs) := by
  cases h with
  | nil hr => exact .nil (he hr)
  | cons hi hr =>
    rw [← List.append_assoc]
    exact .cons (he hi) hr

lemma closes_of_openAfter (h : openAfter outer xs = some []) : Closes outer xs := by
  fun_induction openAfter outer xs with
  | case1 outer =>
    cases h
    exact .nil .nil
  | case2 outer b rest ih =>
    -- The bracket and what closes it are one expression in front of the rest.
    cases ih h with
    | @cons _ _ inside later hi hr =>
      have hlist : ∀ {more}, Sentence more → Sentence (.opening b :: inside ++ [.closing b] ++ more) := by
        intro more hm
        rw [List.append_assoc]
        exact .list b hi hm
      have hclosed := hr.before hlist
      rwa [List.append_assoc] at hclosed
  | case3 => cases h
  | case4 outer c rest ih => exact .cons .nil (ih h)
  | case5 => cases h
  | case6 outer body rest ih => exact (ih h).before (e := [.string body]) fun hr => .string body hr
  | case7 outer text rest ih => exact (ih h).before (e := [.atom text]) fun hr => .atom text hr

lemma sentence_iff : Sentence xs ↔ openAfter [] xs = some [] := by
  constructor
  · intro h
    exact h.openAfter []
  · intro h
    cases closes_of_openAfter h with
    | nil hs => exact hs

lemma openAfter_closing (outer : List Bracket) : openAfter outer (outer.map .closing) = some [] := by
  induction outer with
  | nil => rfl
  | cons b outer ih =>
    rw [List.map_cons, openAfter, if_pos rfl]
    exact ih

lemma viable_iff : Viable xs ↔ ∃ outer, openAfter [] xs = some outer := by
  constructor
  · rintro ⟨more, h⟩
    have hopen := h.openAfter []
    rw [openAfter_append] at hopen
    obtain ⟨outer, hx, -⟩ := Option.bind_eq_some_iff.mp hopen
    exact ⟨outer, hx⟩
  · rintro ⟨outer, h⟩
    refine ⟨outer.map .closing, sentence_iff.mpr ?_⟩
    rw [openAfter_append, h]
    exact openAfter_closing outer

instance : DecidablePred Sentence := fun _ => decidable_of_iff' _ sentence_iff

instance : DecidablePred Viable := fun xs =>
  decidable_of_iff (openAfter [] xs).isSome (by rw [viable_iff, Option.isSome_iff_exists])

lemma Viable.of_append (h : Viable (xs ++ ys)) : Viable xs := by
  obtain ⟨more, h⟩ := h
  rw [List.append_assoc] at h
  exact ⟨ys ++ more, h⟩

lemma Sentence.viable (h : Sentence xs) : Viable xs := ⟨[], by rwa [List.append_nil]⟩

def Lexeme.change : Lexeme → Int
  | opening _ => 1
  | closing _ => -1
  | string _ | atom _ => 0

def changes : List Lexeme → Int
  | [] => 0
  | lexeme :: rest => lexeme.change + changes rest

lemma changes_append (xs ys : List Lexeme) : changes (xs ++ ys) = changes xs + changes ys := by
  induction xs with
  | nil => exact (Int.zero_add _).symm
  | cons lexeme rest ih => rw [List.cons_append, changes, changes, ih, Int.add_assoc]

lemma bracketBalance_eq_changes (tokens : List Token) :
    bracketBalance tokens = changes (tokens.map Token.lexeme) := by
  have hfold : ∀ n : Int, tokens.foldl (fun n t =>
      match t.lexeme with
      | .opening _ => n + 1
      | .closing _ => n - 1
      | .string _ | .atom _ => n) n = n + changes (tokens.map Token.lexeme) := by
    induction tokens with
    | nil => exact fun n => (Int.add_zero n).symm
    | cons t rest ih =>
      intro n
      rw [List.foldl_cons, ih, List.map_cons, changes]
      cases t.lexeme <;> simp only [Lexeme.change] <;> omega
  exact (hfold 0).trans (Int.zero_add _)

lemma bracketBalance_append (xs ys : List Token) :
    bracketBalance (xs ++ ys) = bracketBalance xs + bracketBalance ys := by
  simp only [bracketBalance_eq_changes, List.map_append, changes_append]

lemma bracketBalance_singleton (t : Token) : bracketBalance [t] = t.lexeme.change := by
  rw [bracketBalance_eq_changes]
  exact Int.add_zero _

lemma length_openAfter {inner : List Bracket} (h : openAfter outer xs = some inner) :
    (inner.length : Int) = outer.length + changes xs := by
  fun_induction openAfter outer xs with
  | case1 outer =>
    cases h
    exact (Int.add_zero _).symm
  | case2 outer b rest ih =>
    rw [ih h, changes, List.length_cons]
    simp only [Lexeme.change]
    omega
  | case3 => cases h
  | case4 outer c rest ih =>
    rw [ih h, changes, List.length_cons]
    simp only [Lexeme.change]
    omega
  | case5 => cases h
  | case6 outer body rest ih => rw [ih h, changes, Lexeme.change, Int.zero_add]
  | case7 outer text rest ih => rw [ih h, changes, Lexeme.change, Int.zero_add]

lemma bracketBalance_eq_length (h : openAfter [] (tokens.map Token.lexeme) = some outer) :
    bracketBalance tokens = outer.length := by
  rw [bracketBalance_eq_changes, length_openAfter h]
  exact (Int.zero_add _).symm

end CurriedLisp
