import CurriedLisp.Eval.Log
import CurriedLisp.Files.Basic
import CurriedLisp.Session.Setting
import CurriedLisp.Syntax.Problem
import CurriedLisp.Text.Utf8

/-! What evaluation changes, and what stops it. Everything a program lets out is kept in one transcript,
in the order in which it happened. The transcript takes any text; a device it is printed on may refuse what
its encoding has no bytes for, and then the program ends there. -/

namespace CurriedLisp

inductive Fault where
  | tooDeep
  | embeddedNul
  | inaccessible (problem : FileProblem) (path : String)
  | undecodable (problem : Text.Utf8.Problem)
  | unreadable (error : SyntaxError) (source : String)
  | setting (problem : SettingProblem)
  deriving DecidableEq

namespace Fault

def message : Fault → String
  | tooDeep => "maximum recursion depth exceeded"
  | embeddedNul => "embedded null byte"
  | inaccessible problem path => problem.report path
  | undecodable problem => problem.message
  | unreadable error source => error.message source
  | setting problem => problem.message

end Fault

/-- Where text goes: reports on the forms of a loaded file may be kept apart. -/
inductive Sink where
  | standard
  | report
  deriving DecidableEq

inductive Event where
  | wrote (sink : Sink) (text : String)
  | prompted (text : String)
  | logged (record : LogRecord)
  | opened (path : String)
  deriving DecidableEq

structure State where
  store : Store := .empty
  marks : Nat := 0
  transcript : Array Event := #[]

instance : Inhabited State := ⟨{}⟩

/-- A fault leaves the state as it is when it happens. -/
abbrev Eval (α : Type) := ExceptT Fault (StateM State) α

namespace Eval

def record (e : Event) : Eval Unit := modify fun s => { s with transcript := s.transcript.push e }

def log (r : LogRecord) : Eval Unit := record (.logged r)

def write (sink : Sink) (text : String) : Eval Unit := record (.wrote sink text)

def store : Eval Store := do return (← get).store

def changeStore (change : Store → Store) : Eval Unit :=
  modify fun s => { s with store := change s.store }

def newFrame (f : Frame) : Eval FrameId :=
  modifyGet fun s =>
    let (id, store) := s.store.alloc f
    (id, { s with store })

/-- A new number, which gets a mark of its own if it is `nan`. -/
def newNumber (n : Number) : Eval Value :=
  modifyGet fun s =>
    if n.isNan then (.number (n.marked s.marks), { s with marks := s.marks + 1 }) else (.number n, s)

end Eval

namespace State

def textOf (s : State) (part : Event → String) : String :=
  s.transcript.foldl (fun text e => text ++ part e) ""

def printed (s : State) : String :=
  s.textOf fun
    | .wrote .standard text => text
    | _ => ""

def reported (s : State) : String :=
  s.textOf fun
    | .wrote .report text => text
    | _ => ""

def screen (s : State) : String :=
  s.textOf fun
    | .wrote _ text | .prompted text => text
    | _ => ""

def prompts (s : State) : List String :=
  s.transcript.toList.filterMap fun
    | .prompted text => some text
    | _ => none

def logLines (s : State) (level : LogLevel) : List String :=
  s.transcript.toList.filterMap fun
    | .logged r => if level.rank ≤ r.level.rank then some r.line else none
    | _ => none

def openedPaths (s : State) : List String :=
  s.transcript.toList.filterMap fun
    | .opened path => some path
    | _ => none

end State

end CurriedLisp
