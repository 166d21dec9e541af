import CurriedLisp.Proofs.Eval.Equations
import CurriedLisp.Proofs.Eval.Room

namespace CurriedLisp

open Eval Evaluator

structure Surround where
  left : List Value
  right : List Value

def plug : List Surround → Value → Value
  | [], e => e
  | around :: rest, e => .sexpr (around.left ++ plug rest e :: around.right)

inductive EvaluateAll (self : Evaluator) (env : FrameId) : List Value → State → State → Prop where
  | nil (s : State) : EvaluateAll self env [] s s
  | cons {item v : Value} {rest : List Value} {s t : State} : result (self env item) s = .ok v →
    v.isError = false → EvaluateAll self env rest (final (self env item) s) t →
    EvaluateAll self env (item :: rest) s t

/-- On the way inwards through nested calls, their items on the left evaluate to no errors. The way leads from
the room for the outermost call and a state to the room that is left inside and another state. -/
inductive Approaches (files : Files) (env : FrameId) : List (List Value) → Nat → State → Nat → State → Prop where
  | here (room : Nat) (s : State) : Approaches files env [] room s room s
  | inward {left : List Value} {rest : List (List Value)} {room inner : Nat} {s t u : State} :
    EvaluateAll (evaluate files room) env left s t → Approaches files env rest room t inner u →
    Approaches files env (left :: rest) (room + 2) s inner u

def evaluateIn (files : Files) (env : FrameId) (applied : Nat → List Value → Eval Value) (e : Value) :
    Nat → List Surround → Eval Value
  | room, [] => evaluate files room env e
  | 0, _ :: _ => throw .tooDeep
  | room + 1, around :: rest =>
    (evaluate files (room - 1)).withValues env around.left fun before =>
      evaluateIn files env applied e (room - 1) rest >>= fun v => unlessError v fun v =>
        (evaluate files (room - 1)).withValues env around.right fun after => applied room (before ++ v :: after)

variable {files : Files} {env : FrameId} {e : Value} {message : String} {room inner : Nat} {s t : State}
  {applied : Nat → List Value → Eval Value} {lefts : List (List Value)} {c : List Surround}

lemma evaluateIn_evaluateValues (files : Files) (env : FrameId) (e : Value) (room : Nat) (c : List Surround) :
    evaluateIn files env (evaluateValues files env) e room c = evaluate files room env (plug c e) := by
  induction c generalizing room with
  | nil => simp [evaluateIn, plug]
  | cons around rest ih =>
    cases room with
    | zero => rfl
    | succ room =>
      rw [evaluateIn, plug, evaluate_sexpr, withValues_append]
      simp only [ih, withValues_cons]
      rfl

lemma EvaluateAll.withValues {self : Evaluator} {l : List Value} (h : EvaluateAll self env l s t) :
    ∃ vs, ∀ k, result (self.withValues env l k) s = result (k vs) t ∧
      final (self.withValues env l k) s = final (k vs) t := by
  induction h with
  | nil s => exact ⟨[], fun k => ⟨rfl, rfl⟩⟩
  | @cons item v rest s t hv hne _ ih =>
    obtain ⟨vs, ih⟩ := ih
    refine ⟨v :: vs, fun k => ?_⟩
    obtain ⟨hresult, hfinal⟩ := bind_of_ok (f := fun v => unlessError v fun v =>
      self.withValues env rest fun vs => k (v :: vs)) hv
    rw [withValues_cons, hresult, hfinal, unlessError_eq hne]
    exact ih _

lemma evaluateIn_error (h : Approaches files env lefts room s inner t)
    (he : result (evaluate files inner env e) t = .ok (.error message)) (hc : c.map Surround.left = lefts) :
    result (evaluateIn files env applied e room c) s = .ok (.error message) ∧
      final (evaluateIn files env applied e room c) s = final (evaluate files inner env e) t := by
  -- At the end of the way inwards there is the error. Each call on the way back hands it on.
  induction h generalizing c with
  | here room s =>
    obtain rfl := List.map_eq_nil_iff.mp hc
    rw [evaluateIn]
    exact ⟨he, rfl⟩
  | @inward left rest room inner s t u hleft _ ih =>
    obtain ⟨around, others, rfl, rfl, hothers⟩ := List.map_eq_cons_iff.mp hc
    obtain ⟨before, hbefore⟩ := hleft.withValues
    obtain ⟨hr, hf⟩ := ih he hothers
    rw [evaluateIn, Nat.add_sub_cancel, (hbefore _).1, (hbefore _).2]
    obtain ⟨hresult, hfinal⟩ := bind_of_ok (f := fun v => unlessError v fun v =>
      (evaluate files room).withValues env around.right fun after => applied (room + 1) (before ++ v :: after)) hr
    exact ⟨hresult, hfinal.trans hf⟩

/-- The calls may have any items on the right, and whatever they would do with their items, they do nothing. -/
theorem error_propagates (h : Approaches files env lefts room s inner t)
    (he : result (evaluate files inner env e) t = .ok (.error message)) :
    ∀ c : List Surround, c.map Surround.left = lefts →
      (result (evaluate files room env (plug c e)) s = .ok (.error message) ∧
        final (evaluate files room env (plug c e)) s = final (evaluate files inner env e) t) ∧
      evaluateIn files env (evaluateValues files env) e room c = evaluate files room env (plug c e) ∧
      (∀ applied, result (evaluateIn files env applied e room c) s = .ok (.error message) ∧
        final (evaluateIn files env applied e room c) s = final (evaluate files inner env e) t) ∧
      ∀ larger, room ≤ larger → result (evaluate files larger env (plug c e)) s = .ok (.error message) ∧
        (final (evaluate files larger env (plug c e)) s).Alike (final (evaluate files inner env e) t) := by
  intro c hc
  have hsame := evaluateIn_evaluateValues files env e room c
  have hreal : result (evaluateIn files env (evaluateValues files env) e room c) s = .ok (.error message) ∧
      final (evaluateIn files env (evaluateValues files env) e room c) s = final (evaluate files inner env e) t :=
    evaluateIn_error h he hc
  rw [hsame] at hreal
  refine ⟨hreal, hsame, fun applied => evaluateIn_error h he hc, fun larger hroom => ?_⟩
  rcases evaluate_refines files hroom s s env (plug c e) (.refl s) with hcut | ⟨hresult, halike⟩
  · cases hcut.symm.trans hreal.1
  · exact ⟨hresult.symm.trans hreal.1, hreal.2 ▸ halike.symm⟩

theorem error_propagates_given :
    result (evaluate .none 7 0 (.sexpr [.sexpr [.ofBuiltin .println, .string "x"],
      .sexpr [.sexpr [.ofBuiltin .define, .qexpr [.symbol "a"], .string "y"],
        .sexpr [.ofBuiltin .head, .symbol "a"], .symbol "unbound"],
      .sexpr [.ofBuiltin .println, .string "z"]]))
      { store := (Store.empty.withGlobal (some .dynamic)).2 } =
        .ok (.error "head called with wrong type for argument 1: expected q-expression, got string") := by
  have hx : EvaluateAll (evaluate .none 5) 0 [.sexpr [.ofBuiltin .println, .string "x"]]
      { store := (Store.empty.withGlobal (some .dynamic)).2 } _ := .cons rfl rfl (.nil _)
  have hy : ∀ s, EvaluateAll (evaluate .none 3) 0 [.sexpr [.ofBuiltin .define, .qexpr [.symbol "a"], .string "y"]]
      s _ := fun s => .cons rfl rfl (.nil _)
  exact (error_propagates (.inward hx (.inward (hy _) (.here 3 _))) rfl
    [⟨_, [.sexpr [.ofBuiltin .println, .string "z"]]⟩, ⟨_, [.symbol "unbound"]⟩] rfl).1.1

end CurriedLisp
