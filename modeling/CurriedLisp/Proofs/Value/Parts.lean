import CurriedLisp.Value.Basic
import Mathlib.Tactic.Lemma

namespace CurriedLisp.Value

def children : Value → List Value
  | list _ items => items
  | lambda _ body own _ => body ++ own.map Prod.snd
  | _ => []

inductive PartOf : Value → Value → Prop
  | refl (v : Value) : PartOf v v
  | child {w u v : Value} : u ∈ v.children → PartOf w u → PartOf w v

def Every (p : Value → Prop) (v : Value) : Prop := ∀ w, w.PartOf v → p w

/-- Values that evaluate to themselves, errors apart: numbers, strings, quoted lists, functions, builtins
and the empty expression. -/
def Settled : Value → Prop
  | error _ | symbol _ | sexpr (_ :: _) => False
  | _ => True

lemma Settled.isError {v : Value} (h : v.Settled) : v.isError = false := by
  cases v <;> first | rfl | cases h

def captured : Value → Option FrameId
  | lambda _ _ _ frame => frame
  | _ => none

def own : Value → Bindings
  | lambda _ _ own _ => own
  | _ => []

lemma every_iff {p : Value → Prop} {v : Value} : v.Every p ↔ p v ∧ ∀ u ∈ v.children, u.Every p := by
  constructor
  · intro h
    exact ⟨h v (.refl v), fun u hu w hw => h w (.child hu hw)⟩
  · rintro ⟨hv, hc⟩ w hw
    cases hw with
    | refl => exact hv
    | child hu hw => exact hc _ hu w hw

lemma Every.self {p : Value → Prop} {v : Value} (h : v.Every p) : p v := h v (.refl v)

lemma Every.mono {p q : Value → Prop} {v : Value} (h : v.Every p) (hpq : ∀ w, p w → q w) : v.Every q :=
  fun w hw => hpq w (h w hw)

lemma every_list {p : Value → Prop} {b : Bracket} {items : List Value} :
    (list b items).Every p ↔ p (list b items) ∧ ∀ v ∈ items, v.Every p := every_iff

lemma every_lambda {p : Value → Prop} {formals : List String} {body : List Value}
    {own : List (String × Value)} {frame : Option FrameId} :
    (lambda formals body own frame).Every p ↔
      p (lambda formals body own frame) ∧ (∀ v ∈ body, v.Every p) ∧ ∀ b ∈ own, b.2.Every p := by
  rw [every_iff]
  simp only [children, List.mem_append, List.mem_map, or_imp, forall_and, forall_exists_index, and_imp,
    forall_apply_eq_imp_iff₂]

lemma every_of_children_nil {p : Value → Prop} {v : Value} (h : v.children = []) : v.Every p ↔ p v := by
  rw [every_iff, h]
  simp

lemma sizeOf_lt_of_mem_children {u v : Value} (h : u ∈ v.children) : sizeOf u < sizeOf v := by
  cases v with
  | list b items =>
    have hitem := List.sizeOf_lt_of_mem (show u ∈ items from h)
    simp only [list.sizeOf_spec]
    omega
  | lambda formals body own frame =>
    simp only [lambda.sizeOf_spec]
    rcases List.mem_append.mp h with h | h
    · have hitem := List.sizeOf_lt_of_mem h
      omega
    · obtain ⟨⟨name, w⟩, hb, rfl⟩ := List.mem_map.mp h
      have hbound := List.sizeOf_lt_of_mem hb
      simp only [Prod.mk.sizeOf_spec] at hbound
      simp only
      omega
  | _ => cases h

@[elab_as_elim]
lemma induction_children {p : Value → Prop} (h : ∀ v : Value, (∀ u ∈ v.children, p u) → p v) (v : Value) :
    p v :=
  h v fun u hu =>
    have : sizeOf u < sizeOf v := sizeOf_lt_of_mem_children hu
    induction_children h u
termination_by sizeOf v

def Plain (v : Value) : Prop := v.Every fun w => w.kind ≠ .error ∧ w.kind ≠ .function ∧ w.kind ≠ .builtin

lemma plain_list {b : Bracket} {items : List Value} : (list b items).Plain ↔ ∀ v ∈ items, v.Plain := by
  unfold Plain
  rw [every_list]
  cases b <;> simp [kind]

lemma plain_number (n : Number) : (number n).Plain :=
  (every_of_children_nil rfl).2 (by simp [kind])

lemma plain_symbol (name : String) : (symbol name).Plain :=
  (every_of_children_nil rfl).2 (by simp [kind])

lemma plain_string (text : String) : (string text).Plain :=
  (every_of_children_nil rfl).2 (by simp [kind])

end CurriedLisp.Value
