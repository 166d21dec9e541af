import CurriedLisp.Eval.Evaluator
import CurriedLisp.Session.Prelude

/-! Sessions. A session evaluates everything in one global frame, the first of its store. -/

namespace CurriedLisp

/-- Levels for what surrounds reading and evaluating, and for the smallest parts of both. -/
def reservedLevels : Nat := 16

/-- Above this a limit changes nothing. -/
def highestLimit : Nat := 30000

def roomOf (limit : Nat) : Nat := min limit highestLimit - reservedLevels

structure World where
  files : Files := .none
  vars : Variables := fun _ => none
  room : Nat := roomOf Setting.defaultLimit

inductive PreludeUnit where
  | bundled
  | file (path : String)
  deriving DecidableEq

namespace PreludeUnit

def path : PreludeUnit → String
  | bundled => Prelude.path
  | file path => path

end PreludeUnit

namespace World

/-- The sources in a directory, sorted by name. There are none for those who may not see its names. -/
def sourcesIn (w : World) (directory : String) : Except Fault (List String) :=
  match w.files.entries directory with
  | .ok names =>
    .ok (((names.filter (·.endsWith ".mlisp")).mergeSort fun a b => !(b < a)).map (Path.join directory))
  | .error problem =>
    if problem.isRefusal then .ok [] else .error (.inaccessible problem directory)

def preludeFiles (w : World) (path : String) : Except Fault (List String) :=
  match w.files.isDirectory path with
  | .ok true => w.sourcesIn path
  | .ok false => .ok [path]
  | .error problem =>
    if problem.isAbsence then .ok [path] else .error (.inaccessible problem path)

/-- All paths are looked at before any file is loaded. -/
def preludeUnits (w : World) : Except Fault (List PreludeUnit) :=
  match Setting.nonEmpty w.vars "MLISP_PRELUDE_PATH" with
  | none => .ok [.bundled]
  | some _ => do
    let files ← (Setting.paths w.vars "MLISP_PRELUDE_PATH" []).mapM w.preludeFiles
    .ok (files.flatten.map .file)

def evaluate (w : World) : Evaluator := CurriedLisp.evaluate w.files w.room

end World

namespace Session

def inputName : String := "<input>"

def globalFrame : FrameId := 0

def reading {α : Type} (source : String) : Except ReadError α → Eval α
  | .ok a => return a
  | .error (.unreadable e) => throw (.unreadable e source)
  | .error .tooDeep => throw .tooDeep

def loadUnit (w : World) : PreludeUnit → Eval Value
  | .bundled => do
    let program ← reading Prelude.path (Reading.within w.room Prelude.program)
    w.evaluate.loadForms globalFrame .standard Prelude.path program
  | .file path => w.evaluate.loadFile w.files w.room globalFrame .standard path path

def loadUnits (w : World) : List PreludeUnit → Eval Unit
  | [] => return ()
  | unit :: rest => do
    match ← loadUnit w unit with
    | .error message => Eval.log (.preludeNotLoaded message)
    | _ => pure ()
    loadUnits w rest

def start (w : World) (scoping : Option Scoping) (prelude : Bool) : Eval Unit := do
  let scoping ←
    match scoping with
    | some s => pure s
    | none =>
      match Setting.scoping w.vars with
      | .ok s => pure s
      | .error problem => throw (.setting problem)
  Eval.changeStore fun _ => (Store.empty.withGlobal (some scoping)).2
  Eval.log (.created scoping)
  if prelude then loadUnits w (← ofExcept w.preludeUnits)

def evaluate (w : World) (v : Value) : Eval Value := w.evaluate globalFrame v

def eval (w : World) (code : String) : Eval Value := do
  evaluate w (← reading inputName (read w.room code))

def evaluateEach (w : World) : List Value → Eval (List Value)
  | [] => return []
  | v :: rest => do
    let first ← evaluate w v
    return first :: (← evaluateEach w rest)

def evalAll (w : World) (code : String) : Eval (List Value) := do
  evaluateEach w (← reading inputName (readProgram w.room code))

def loadFile (w : World) (sink : Sink) (path : String) : Eval Value :=
  w.evaluate.loadFile w.files w.room globalFrame sink path path

def loadSource (w : World) (name source : String) : Eval Value :=
  w.evaluate.loadSource w.room globalFrame .standard name source

def display (v : Value) : Eval String := do
  return v.display ((← Eval.store).builtinName? globalFrame)

def names (s : State) : List String := (s.store.bindings globalFrame).names

end Session

end CurriedLisp
