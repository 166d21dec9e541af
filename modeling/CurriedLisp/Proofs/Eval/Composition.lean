import CurriedLisp.Eval.Evaluator
import CurriedLisp.Proofs.Eval.Runs

namespace CurriedLisp

inductive Files.Misread (files : Files) : Fault → Prop
  | embeddedNul : Misread files .embeddedNul
  | undecodable {path : String} {bytes : List UInt8} {problem : Text.Utf8.Problem} :
    files.read path = .ok bytes → Text.Utf8.decode bytes = .error problem →
      Misread files (.undecodable problem)

structure Composable (files : Files) (P : {α : Type} → Eval α → Prop) : Prop where
  protected pure : ∀ {α : Type} (a : α), P (Pure.pure a : Eval α)
  protected bind : ∀ {α β : Type} {x : Eval α} {f : α → Eval β}, P x → (∀ a, P (f a)) → P (x >>= f)
  protected throw : ∀ {α : Type} {e : Fault}, e = .tooDeep ∨ files.Misread e → P (MonadExcept.throw e : Eval α)
  record : ∀ e, P (Eval.record e)
  store : P Eval.store
  changeStore : ∀ change, P (Eval.changeStore change)
  newFrame : ∀ f, P (Eval.newFrame f)
  newNumber : ∀ n, P (Eval.newNumber n)

namespace Composable

open Evaluator

variable {files : Files} {P : {α : Type} → Eval α → Prop} {self : Evaluator} {room : Nat}
  {below : Nat → Evaluator} {env : FrameId} {sink : Sink}

section Parts

variable (h : Composable files P) (hself : ∀ env v, P (self env v))
include h hself

lemma items (l : List Value) : P (self.items env l) := by
  induction l with
  | nil => exact h.pure _
  | cons item rest ih =>
    refine h.bind (hself env item) fun v => ?_
    split
    · exact h.pure _
    · exact h.bind ih fun r => h.pure _

lemma forms (l : List Value) : P (self.forms env sink l) := by
  induction l with
  | nil => exact h.pure _
  | cons form rest ih =>
    refine h.bind (hself env form) fun v => ?_
    cases v.isError with
    | true => exact h.bind h.store fun _ => h.bind (h.record _) fun _ => ih
    | false => exact ih

lemma loadForms (name : String) (l : List Value) : P (self.loadForms env sink name l) :=
  h.bind (h.record _) fun _ => h.bind (forms h hself l) fun _ => h.pure _

lemma loadSource (name source : String) : P (self.loadSource room env sink name source) := by
  unfold Evaluator.loadSource
  split
  · exact loadForms h hself name _
  · exact h.pure _
  · exact h.throw (.inl rfl)

lemma loadFile (name path : String) : P (self.loadFile files room env sink name path) := by
  have guarded : ∀ {x : Eval Value}, P x → P (do
      if Path.hasNul path then throw .embeddedNul
      x) := by
    intro x hx
    cases Path.hasNul path with
    | true => exact h.bind (h.throw (.inr .embeddedNul)) fun _ => hx
    | false => exact hx
  unfold Evaluator.loadFile
  split
  · exact guarded (h.bind (h.record _) fun _ => h.pure _)
  · next hbytes =>
    split
    · next hproblem =>
      exact guarded (h.bind (h.record _) fun _ => h.throw (.inr (.undecodable hbytes hproblem)))
    · exact guarded (h.bind (h.record _) fun _ => loadSource h hself name _)

end Parts

variable (h : Composable files P) (hbelow : ∀ less env v, P (below less env v))
include h hbelow

lemma perform (a : Action) : P (perform files room below env a) := by
  cases a with
  | give v => exact h.pure v
  | compute n => exact h.newNumber n
  | bind target new => exact h.bind (h.changeStore _) fun _ => h.pure _
  | print line => exact h.bind (h.record _) fun _ => h.pure _
  | call items => exact hbelow _ env _
  | load path => exact loadFile h (hbelow _) path path

lemma applyLambda (formals : List String) (body : List Value) (own : Bindings) (captured : Option FrameId)
    (args : List Value) : P (applyLambda below env formals body own captured args) := by
  unfold Evaluator.applyLambda
  split
  · exact h.pure _
  · exact h.bind (h.record _) fun _ => h.pure _
  · exact h.bind (h.newFrame _) fun frame => hbelow _ frame _

lemma applyBuiltin (op : Builtin) (args : List Value) :
    P (applyBuiltin files room below env op args) := by
  unfold Evaluator.applyBuiltin
  refine h.bind h.store fun s => ?_
  split
  · exact h.pure _
  · exact perform h hbelow _

lemma apply (args : List Value) (head : Value) : P (apply files room below env args head) := by
  unfold Evaluator.apply
  split
  · exact applyBuiltin h hbelow _ args
  · exact applyLambda h hbelow _ _ _ _ args
  · exact h.pure _

lemma call (program : List Value) : P (call files room below env program) := by
  refine h.bind (items h (hbelow _) program) fun r => ?_
  split
  · exact h.pure _
  · exact h.pure _
  · exact h.pure _
  · exact apply h hbelow _ _

lemma step (v : Value) : P (step files room below env v) := by
  unfold Evaluator.step
  split
  · exact h.bind h.store fun s => h.pure _
  · exact call h hbelow _
  · exact h.pure _

omit hbelow in
lemma evaluate (room : Nat) (env : FrameId) (v : Value) : P (CurriedLisp.evaluate files room env v) := by
  induction room using Nat.strongRecOn generalizing env v with
  | ind room ih =>
    cases room with
    | zero => exact h.throw (.inl rfl)
    | succ room =>
      rw [evaluate_succ]
      exact step h (fun less => ih _ (by omega)) v

end Composable

end CurriedLisp
