import CurriedLisp.Proofs.Eval.Currying
import CurriedLisp.Proofs.Eval.Recapture
import CurriedLisp.Proofs.Store.Twins

/-! Evaluation under a watch for all that may come out differently where functions keep the frames in which
they were created: functions created anywhere but in the outermost frame, and names that are found, for
whatever purpose, in a frame between the present and the outermost one. -/

namespace CurriedLisp

open Eval

namespace Store

def looksUpNear (s : Store) (env : FrameId) (name : String) : Bool :=
  s.answersNear env fun b => (b.find? name).isSome

def displaysNear (s : Store) (env : FrameId) (v : Value) : Bool :=
  v.shownBuiltins.all fun op => s.answersNear env fun b => (b.nameOf? (.ofBuiltin op)).isSome

/-- Functions are created in the outermost frame, and other operations display names as they are there or in
the present frame. -/
def callsNear (s : Store) (env : FrameId) (args : List Value) : Builtin → Bool
  | .lambda | .function => env == s.root env
  | op => (op.displays args).all (s.displaysNear env)

variable {s d l : Store} {g env : FrameId} {op : Builtin} {args : List Value} {v : Value}

lemma answersNear_of_root (he : s.EndsIn env g) (hroot : env = s.root env) (answers : Bindings → Bool) :
    s.answersNear env answers = true := by
  obtain ⟨f, hf, ho⟩ := he.global
  obtain rfl : env = g := hroot.trans he.root
  unfold answersNear
  rw [chain_of_frame? s hf, ho]
  cases hanswers : answers (s.bindings env) <;> simp [hanswers]

lemma displaysNear_of_root (he : s.EndsIn env g) (hroot : env = s.root env) (v : Value) :
    s.displaysNear env v = true :=
  List.all_eq_true.mpr fun _ _ => answersNear_of_root he hroot _

lemma callsNear_of_root (he : s.EndsIn env g) (hroot : env = s.root env) : s.callsNear env args op = true := by
  unfold callsNear
  split
  · exact decide_eq_true hroot
  · exact decide_eq_true hroot
  · exact List.all_eq_true.mpr fun v _ => displaysNear_of_root he hroot v

lemma displaysNear_of_callsNear (he : s.EndsIn env g) (hnear : s.callsNear env args op = true)
    (hv : v ∈ op.displays args) : s.displaysNear env v = true := by
  unfold callsNear at hnear
  split at hnear
  · exact displaysNear_of_root he (of_decide_eq_true hnear) v
  · exact displaysNear_of_root he (of_decide_eq_true hnear) v
  · exact List.all_eq_true.mp hnear v hv

lemma Twins.display_eq (h : Twins g d l) (he : env < d.frames.size) (hnear : d.displaysNear env v = true) :
    v.display (l.builtinName? env) = v.display (d.builtinName? env) :=
  Value.display_congr fun op hop => h.builtinName?_eq he (List.all_eq_true.mp hnear op hop)

lemma Twins.created (h : Twins g d l) (he : env < d.frames.size) (hnear : d.callsNear env args op = true)
    (hop : op = .lambda ∨ op = .function) : (if l.scoping env = .lexical then some env else none) = some g := by
  have hroot : env = d.root env := by
    rcases hop with rfl | rfl <;> exact of_decide_eq_true hnear
  rw [if_pos (h.scoping_lexical he), hroot, (h.endsIn he).root]

lemma Twins.action_eq (h : Twins g d l) (he : env < d.frames.size) (hnear : d.callsNear env args op = true) :
    op.action l env (args.map (Value.recapture (some g))) =
      Action.recapture (some g) <$> op.action d env args :=
  Builtin.action_recapture (h.created he hnear) fun _ hv =>
    h.display_eq he (displaysNear_of_callsNear (h.endsIn he) hnear hv)

lemma Twins.action_bare (h : Twins g d l) (he : env < d.frames.size)
    (hargs : args.map (Value.recapture none) = args) {a : Action} (ha : op.action d env args = .ok a) :
    a.recapture none = a := by
  have hnew : (if d.scoping env = .lexical then some env else none) = none := by
    rw [h.scoping_dynamic he]
    rfl
  have hsame : op.action d env (args.map (Value.recapture none)) = Action.recapture none <$> op.action d env args :=
    Builtin.action_recapture (fun _ => hnew) fun _ _ => rfl
  rw [hargs, ha] at hsame
  exact (Except.ok.inj hsame).symm

end Store

namespace Watched

def guard {α : Type} (p : Store → Bool) (x : Eval α) : Eval α := do
  if p (← Eval.store) then x else throw .tooDeep

section

variable (files : Files) (room : Nat) (below : Nat → Evaluator) (env : FrameId)

def applyValues : List Value → Eval Value
  | .builtin op name :: a :: args =>
    guard (fun s => s.callsNear env (a :: args) op)
      (Evaluator.applyValues files room below env (.builtin op name :: a :: args))
  | values => Evaluator.applyValues files room below env values

def step : Value → Eval Value
  | .symbol name => guard (fun s => s.looksUpNear env name) (Evaluator.step files room below env (.symbol name))
  | .sexpr program =>
    (below Evaluator.Part.item.levels).withValues env program (applyValues files room below env)
  | v => return v

end

def evaluators (files : Files) : (room less : Nat) → Evaluator
  | 0, _ => fun _ _ => throw .tooDeep
  | room + 1, 0 => step files room (evaluators files room)
  | room + 1, less + 1 => evaluators files room less

def evaluate (files : Files) (room : Nat) : Evaluator := evaluators files room 0

variable {α : Type} {files : Files} {room : Nat} {below above : Nat → Evaluator} {env : FrameId} {s t : State}

lemma guard_run (p : Store → Bool) (x : Eval α) (s : State) :
    result (guard p x) s = (if p s.store then result x s else .error .tooDeep) ∧
      final (guard p x) s = if p s.store then final x s else s := by
  have hstore : result Eval.store s = .ok s.store := rfl
  obtain ⟨hresult, hfinal⟩ := bind_of_ok (f := fun t => if p t then x else throw .tooDeep) hstore
  unfold guard
  rw [hresult, hfinal]
  cases p s.store <;> exact ⟨rfl, rfl⟩

lemma guard_at {p : Store → Bool} {x : Eval α} (hp : p s.store = true) : guard p x s = x s := by
  obtain ⟨hresult, hfinal⟩ := guard_run p x s
  rw [if_pos hp] at hresult hfinal
  exact Prod.ext hresult hfinal

lemma guard_ok {p : Store → Bool} {x : Eval α} {a : α} (h : result (guard p x) s = .ok a) :
    p s.store = true ∧ result x s = .ok a ∧ final (guard p x) s = final x s := by
  obtain ⟨hresult, hfinal⟩ := guard_run p x s
  rw [hresult] at h
  rw [hfinal]
  cases hp : p s.store with
  | true => exact ⟨rfl, by simpa [hp] using h, rfl⟩
  | false => simp [hp] at h

lemma guard_follows {p : Store → Bool} {x y : Eval α} (h : Follows s t x y) : Follows s t (guard p x) y := by
  unfold Follows at h ⊢
  obtain ⟨hresult, hfinal⟩ := guard_run p x s
  rw [hresult, hfinal]
  cases p s.store with
  | true => exact h
  | false => exact .inl rfl

section Refines

variable (hb : ∀ less, (below less).Refines (above less))
include hb

lemma values_follows (hs : s.Alike t) (values : List Value) :
    Follows s t (Evaluator.applyValues files room below env values)
      (Evaluator.applyValues files room above env values) := by
  rcases values with _ | ⟨head, _ | ⟨a, args⟩⟩
  · exact .pure hs _
  · exact .pure hs _
  · exact Evaluator.apply_follows hb le_rfl hs _ _

lemma applyValues_follows (hs : s.Alike t) (values : List Value) :
    Follows s t (applyValues files room below env values) (Evaluator.applyValues files room above env values) := by
  unfold applyValues
  split
  · exact guard_follows (values_follows hb hs _)
  · exact values_follows hb hs _

lemma step_refines : Evaluator.Refines (step files room below) (Evaluator.step files room above) := by
  intro s t env v hs
  cases v with
  | symbol name => exact guard_follows ((Follows.store hs).bind fun st s t hs => .pure hs _)
  | list b program =>
    cases b with
    | curly => exact .pure hs _
    | round =>
      have hcall : Evaluator.step files room above env (.sexpr program) =
          Evaluator.call files room above env program := rfl
      rw [hcall, Evaluator.call_eq]
      exact (hb _).withValues hs fun vs _ s t hs => applyValues_follows hb hs vs
  | _ => exact .pure hs _

end Refines

lemma evaluators_refines (files : Files) (room less : Nat) :
    (evaluators files room less).Refines (CurriedLisp.evaluators files room less) := by
  induction room generalizing less with
  | zero => exact fun s t env v _ => .of_tooDeep rfl
  | succ room ih =>
    cases less with
    | zero => exact step_refines ih
    | succ less => exact ih less

theorem evaluate_refines (files : Files) (room : Nat) :
    (evaluate files room).Refines (CurriedLisp.evaluate files room) := evaluators_refines files room 0

end Watched

end CurriedLisp
