import CurriedLisp.Eval.Contract
import Mathlib.Tactic.Lemma

namespace CurriedLisp

lemma bind_eq_ok {ε α β : Type} {x : Except ε α} {f : α → Except ε β} {b : β} :
    (x >>= f) = .ok b ↔ ∃ a, x = .ok a ∧ f a = .ok b := by
  cases x with
  | error e => simp [bind, Except.bind]
  | ok a => simp [bind, Except.bind]

namespace Contract

variable {op : String} {position : Nat} {args : List Value} {v : Value}

lemma one_eq_ok {a : Value} : one op args = .ok a ↔ args = [a] := by
  unfold one
  split <;> simp_all

lemma two_eq_ok {p : Value × Value} : two op args = .ok p ↔ args = [p.1, p.2] := by
  unfold two
  split
  · simp [Prod.ext_iff]
  · next h =>
    simp only [reduceCtorEq, false_iff]
    rintro rfl
    exact h _ _ rfl

lemma nonEmpty_eq_ok {p : Value × List Value} : nonEmpty op args = .ok p ↔ args = p.1 :: p.2 := by
  cases args <;> simp [nonEmpty, Prod.ext_iff]

lemma items_eq_ok {l : List Value} : items op position v = .ok l ↔ v = .qexpr l := by
  cases v with
  | list b l' => cases b <;> simp [items]
  | _ => simp [items]

lemma someItems_eq_ok {p : Value × List Value} :
    someItems op position v = .ok p ↔ v = .qexpr (p.1 :: p.2) := by
  simp only [someItems, bind_eq_ok, items_eq_ok]
  constructor
  · rintro ⟨l, rfl, h⟩
    cases l <;> simp_all [Prod.ext_iff]
  · rintro rfl
    exact ⟨_, rfl, rfl⟩

lemma each_eq_ok {α : Type} {contract : Nat → Value → Except Complaint α} {shape : α → Value}
    (h : ∀ i v a, contract i v = .ok a ↔ v = shape a) {l : List α} :
    each contract position args = .ok l ↔ args = l.map shape := by
  induction args generalizing position l with
  | nil => cases l <;> simp [each]
  | cons v rest ih =>
    simp only [each, bind_eq_ok, h, ih]
    constructor
    · rintro ⟨a, rfl, l', rfl, ⟨⟩⟩
      rfl
    · intro he
      cases l with
      | nil => simp at he
      | cons a l' =>
        simp only [List.map_cons, List.cons.injEq] at he
        exact ⟨a, he.1, l', he.2, rfl⟩

lemma each_items_eq_ok {ls : List (List Value)} :
    each (items op) position args = .ok ls ↔ args = ls.map .qexpr :=
  each_eq_ok fun _ _ _ => items_eq_ok

lemma symbolNames_eq_ok {complaint : Value → Complaint} {names : List String} :
    symbolNames complaint args = .ok names ↔ args = names.map .symbol := by
  induction args generalizing names with
  | nil => cases names <;> simp [symbolNames]
  | cons v rest ih =>
    cases v with
    | symbol name =>
      simp only [symbolNames, bind_eq_ok, ih]
      constructor
      · rintro ⟨others, rfl, ⟨⟩⟩
        rfl
      · intro he
        cases names with
        | nil => simp at he
        | cons other others =>
          simp only [List.map_cons, List.cons.injEq, Value.symbol.injEq] at he
          exact ⟨others, he.2, by rw [he.1]⟩
    | _ => cases names <;> simp [symbolNames]

end Contract

end CurriedLisp
