import CurriedLisp.Eval.Action
import CurriedLisp.Eval.Bind
import CurriedLisp.Eval.State
import CurriedLisp.Files.Basic
import CurriedLisp.Files.Path
import CurriedLisp.Text.Newline
import CurriedLisp.Value.Read

/-! The evaluator. Each part of it takes the evaluator of nested expressions as an argument; `evaluate`
ties the knot and counts the levels for which there is room. -/

namespace CurriedLisp

abbrev Evaluator := FrameId → Value → Eval Value

namespace Evaluator

variable (self : Evaluator)

def items (env : FrameId) : List Value → Eval (Except String (List Value))
  | [] => return .ok []
  | item :: rest => do
    match ← self env item with
    | .error message => return .error message
    | v => return (← items env rest).map (v :: ·)

def forms (env : FrameId) (sink : Sink) : List Value → Eval Unit
  | [] => return ()
  | form :: rest => do
    let v ← self env form
    if v.isError then
      Eval.write sink (v.display ((← Eval.store).builtinName? env) ++ "\n")
    forms env sink rest

def loadForms (env : FrameId) (sink : Sink) (name : String) (program : List Value) : Eval Value := do
  Eval.log (.loading program.length name)
  self.forms env sink program
  return .nothing

def loadSource (room : Nat) (env : FrameId) (sink : Sink) (name source : String) : Eval Value := do
  match readProgram room source with
  | .ok program => self.loadForms env sink name program
  | .error (.unreadable e) => return (Complaint.notLoaded (e.message name)).value
  | .error .tooDeep => throw .tooDeep

def loadFile (files : Files) (room : Nat) (env : FrameId) (sink : Sink) (name path : String) :
    Eval Value := do
  if Path.hasNul path then throw .embeddedNul
  Eval.record (.opened (Path.normalize path))
  match files.read (Path.normalize path) with
  | .error problem => return (Complaint.notLoaded (name ++ ": " ++ problem.text)).value
  | .ok bytes =>
    match Text.Utf8.decode bytes with
    | .error problem => throw (.undecodable problem)
    | .ok text => self.loadSource room env sink name (String.ofList (Text.unifyNewlines text.toList))

/-- Levels between an evaluation and those inside it: of the items of a call, of the body of a function, of
what an operation has evaluated, and of the forms of a file. -/
inductive Part where
  | item
  | body
  | operand
  | form

def Part.levels : Part → Nat
  | item => 1
  | body => 3
  | operand => 5
  | form => 7

variable (files : Files) (room : Nat) (below : Nat → Evaluator)

def perform (env : FrameId) : Action → Eval Value
  | .give v => return v
  | .compute n => Eval.newNumber n
  | .bind target new => do
    Eval.changeStore fun s =>
      s.update (match target with | .global => s.root env | .caller => env) (·.putAll new)
    return .nothing
  | .print line => do
    Eval.write .standard (line ++ "\n")
    return .nothing
  | .call items => below Part.operand.levels env (.sexpr items)
  | .load path =>
    (below Part.form.levels).loadFile files (room - Part.form.levels) env .standard path path

def applyLambda (env : FrameId) (formals : List String) (body : List Value) (own : Bindings)
    (captured : Option FrameId) (args : List Value) : Eval Value := do
  match bindFormals own formals args with
  | .refused complaint => return complaint.value
  | .waiting remaining own =>
    Eval.log (.partialApplication (formals.length - remaining.length) formals.length)
    return .lambda remaining body own captured
  | .complete own => do
    let frame ← Eval.newFrame { bindings := own, outer := some (captured.getD env) }
    below Part.body.levels frame (.sexpr body)

def applyBuiltin (env : FrameId) (op : Builtin) (args : List Value) : Eval Value := do
  match op.action (← Eval.store) env args with
  | .error complaint => return complaint.value
  | .ok action => perform files room below env action

def apply (env : FrameId) (args : List Value) : Value → Eval Value
  | .builtin op _ => applyBuiltin files room below env op args
  | .lambda formals body own captured => applyLambda below env formals body own captured args
  | _ => return Complaint.notFunction.value

def call (env : FrameId) (program : List Value) : Eval Value := do
  match ← (below Part.item.levels).items env program with
  | .error message => return .error message
  | .ok [] => return .nothing
  | .ok [v] => return v
  | .ok (head :: args) => apply files room below env args head

def step (env : FrameId) : Value → Eval Value
  | .symbol name => return ((← Eval.store).get? env name).getD (Complaint.unbound name).value
  | .sexpr program => call files room below env program
  | v => return v

end Evaluator

/-- The evaluators for `room` levels less one, less two and so on. -/
def evaluators (files : Files) : (room less : Nat) → Evaluator
  | 0, _ => fun _ _ => throw .tooDeep
  | room + 1, 0 => Evaluator.step files room (evaluators files room)
  | room + 1, less + 1 => evaluators files room less

def evaluate (files : Files) (room : Nat) : Evaluator := evaluators files room 0

theorem evaluators_eq_evaluate (files : Files) (room less : Nat) :
    evaluators files room less = evaluate files (room - less) := by
  induction less generalizing room with
  | zero => rfl
  | succ less ih =>
    cases room with
    | zero => simp [evaluate, evaluators]
    | succ room => simp [evaluators, ih]

theorem evaluate_succ (files : Files) (room : Nat) :
    evaluate files (room + 1) =
      Evaluator.step files room (fun less => evaluate files (room - less)) := by
  rw [← funext (evaluators_eq_evaluate files room)]
  rfl

end CurriedLisp
