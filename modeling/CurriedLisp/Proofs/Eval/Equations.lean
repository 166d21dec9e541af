import CurriedLisp.Eval.Evaluator
import CurriedLisp.Proofs.Eval.Runs
import CurriedLisp.Proofs.Value.Parts
import Mathlib.Data.List.Forall2

namespace CurriedLisp

open Eval

namespace Evaluator

def unlessError (v : Value) (k : Value → Eval Value) : Eval Value :=
  match v with
  | .error message => return .error message
  | v => k v

def withValues (self : Evaluator) (env : FrameId) (l : List Value) (k : List Value → Eval Value) :
    Eval Value := do
  match ← self.items env l with
  | .error message => return .error message
  | .ok vs => k vs

def applyValues (files : Files) (room : Nat) (below : Nat → Evaluator) (env : FrameId) :
    List Value → Eval Value
  | [] => return .nothing
  | [v] => return v
  | head :: args => apply files room below env args head

variable {self : Evaluator} {files : Files} {room : Nat} {below : Nat → Evaluator} {s : State} {env : FrameId}
  {l : List Value} {item : Value} {k : List Value → Eval Value} {own : Bindings} {formals : List String}
  {args body : List Value} {captured : Option FrameId}

lemma call_eq (program : List Value) :
    call files room below env program =
      (below Part.item.levels).withValues env program (applyValues files room below env) := by
  unfold call withValues
  refine bind_congr fun r => ?_
  cases r with
  | error message => rfl
  | ok vs =>
    match vs with
    | [] => rfl
    | [v] => rfl
    | head :: a :: args => rfl

lemma withValues_cons (rest : List Value) :
    self.withValues env (item :: rest) k = self env item >>= fun v =>
      unlessError v fun v => self.withValues env rest fun vs => k (v :: vs) := by
  simp only [withValues, items, bind_assoc]
  refine bind_congr fun v => ?_
  have hrest : ((items self env rest >>= fun r => pure (r.map (v :: ·))) >>=
      fun r : Except String (List Value) => match r with
      | .error message => pure (.error message)
      | .ok vs => k vs) = self.withValues env rest fun vs => k (v :: vs) := by
    rw [bind_assoc]
    refine bind_congr fun r => ?_
    rw [pure_bind]
    cases r <;> rfl
  cases v <;> first | exact hrest | simp [unlessError]

theorem withValues_append (l m : List Value) (k : List Value → Eval Value) :
    self.withValues env (l ++ m) k =
      self.withValues env l fun vs => self.withValues env m fun ws => k (vs ++ ws) := by
  induction l generalizing k with
  | nil => simp [withValues, items]
  | cons item rest ih =>
    rw [List.cons_append, withValues_cons, withValues_cons]
    simp only [ih, List.cons_append]

lemma withValues_bind {g : Value → Eval Value}
    (hg : ∀ message, g (.error message) = pure (.error message)) :
    self.withValues env l k >>= g = self.withValues env l fun vs => k vs >>= g := by
  unfold withValues
  rw [bind_assoc]
  refine bind_congr fun r => ?_
  cases r with
  | error message => rw [pure_bind, hg]
  | ok vs => rfl

lemma unlessError_eq {v : Value} (h : v.isError = false) (k : Value → Eval Value) : unlessError v k = k v := by
  cases v <;> first | rfl | cases h

lemma withValues_still {vs : List Value}
    (h : List.Forall₂ (fun item v => self env item s = (pure v : Eval Value) s ∧ v.isError = false) l vs) :
    self.withValues env l k s = k vs s := by
  induction h generalizing k with
  | nil => rfl
  | @cons item v l vs hv _ ih =>
    obtain ⟨hrun, hne⟩ := hv
    have hfirst : (self env item >>= fun v => unlessError v fun v => self.withValues env l fun vs => k (v :: vs)) s =
        ((pure v : Eval Value) >>= fun v => unlessError v fun v => self.withValues env l fun vs => k (v :: vs)) s :=
      bind_at hrun fun _ _ => rfl
    rw [withValues_cons, hfirst, pure_bind, unlessError_eq hne]
    exact ih

lemma items_eq_ok {rest vs : List Value} (h : result (self.items env (item :: rest)) s = .ok (.ok vs)) :
    ∃ v ws, result (self env item) s = .ok v ∧
      result (self.items env rest) (final (self env item) s) = .ok (.ok ws) ∧ vs = v :: ws := by
  obtain ⟨v, hv, h⟩ := bind_eq_ok_iff.mp h
  refine ⟨v, ?_⟩
  split at h
  · cases h
  · obtain ⟨r, hr, h⟩ := bind_eq_ok_iff.mp h
    cases r with
    | error message => cases h
    | ok ws =>
      cases h
      exact ⟨ws, hv, hr, rfl⟩

lemma applyValues_lambda (ha : args ≠ []) :
    applyValues files room below env (.lambda formals body own captured :: args) =
      applyLambda below env formals body own captured args := by
  cases args with
  | nil => exact (ha rfl).elim
  | cons a args => rfl

lemma length_items {vs : List Value} (h : result (self.items env l) s = .ok (.ok vs)) :
    vs.length = l.length := by
  induction l generalizing s vs with
  | nil =>
    cases h
    rfl
  | cons item rest ih =>
    obtain ⟨v, ws, -, hws, rfl⟩ := items_eq_ok h
    rw [List.length_cons, List.length_cons, ih hws]

end Evaluator

open Evaluator

def evaluateValues (files : Files) (env : FrameId) (room : Nat) : List Value → Eval Value :=
  applyValues files room (fun less => evaluate files (room - less)) env

lemma evaluate_eq_pure (files : Files) (room : Nat) (env : FrameId)
    (h : v.Settled ∨ v.isError = true) : evaluate files (room + 1) env v = pure v := by
  rw [evaluate_succ]
  cases v with
  | symbol name => simp [Value.Settled, Value.isError] at h
  | list b items =>
    cases b with
    | curly => rfl
    | round =>
      cases items with
      | nil => rfl
      | cons item rest => simp [Value.Settled, Value.isError] at h
  | _ => rfl

lemma evaluate_symbol {files : Files} {room : Nat} {env : FrameId} {s : State} (name : String) :
    result (evaluate files (room + 1) env (.symbol name)) s =
        .ok ((s.store.get? env name).getD (Complaint.unbound name).value) ∧
      final (evaluate files (room + 1) env (.symbol name)) s = s := by
  rw [evaluate_succ]
  exact ⟨rfl, rfl⟩

lemma evaluate_sexpr (files : Files) (room : Nat) (env : FrameId) (program : List Value) :
    evaluate files (room + 1) env (.sexpr program) =
      (evaluate files (room - 1)).withValues env program
        (applyValues files room (fun less => evaluate files (room - less)) env) := by
  have hcall : evaluate files (room + 1) env (.sexpr program) =
      call files room (fun less => evaluate files (room - less)) env program := by
    rw [evaluate_succ]
    rfl
  rw [hcall, call_eq]
  rfl

end CurriedLisp
