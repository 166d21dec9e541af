import CurriedLisp.CommandLine

/-! The program. Evaluation looks at files through a snapshot of the disk, so whenever it asked for a
file that the snapshot lacks, the file is added and the same evaluation is made again. Nothing is printed
before the snapshot holds all that was asked for. -/

namespace CurriedLisp

structure Snapshot where
  contents : List (String × Except FileProblem (List UInt8)) := []
  kinds : List (String × Except FileProblem Bool) := []
  listings : List (String × Except FileProblem (List String)) := []

namespace Snapshot

def files (s : Snapshot) : Files where
  read path := (s.contents.lookup path).getD (.error .missing)
  isDirectory path := (s.kinds.lookup path).getD (.error .missing)
  entries path := (s.listings.lookup path).getD (.error .missing)

def unread (s : Snapshot) (paths : List String) : List String :=
  paths.filter fun path => (s.contents.lookup path).isNone

end Snapshot

/-- Some calls report the number of a problem with its sign turned around. -/
def problemNumber (code : UInt32) : Nat :=
  if code.toNat < 2 ^ 31 then code.toNat else 2 ^ 32 - code.toNat

def problemOf : IO.Error → FileProblem
  | .noFileOrDirectory _ code text | .inappropriateType _ code text | .invalidArgument _ code text
  | .permissionDenied _ code text | .resourceExhausted _ code text | .noSuchThing _ code text =>
    .ofNumber (problemNumber code) text
  | e => .other 0 (toString e)

def looking {α : Type} (look : IO α) : IO (Except FileProblem α) := do
  try return .ok (← look)
  catch e => return .error (problemOf e)

def isDirectory (path : String) : IO (Except FileProblem Bool) :=
  looking do return (← ((← IO.currentDir) / path).metadata).type == .dir

def listDirectory (path : String) : IO (Except FileProblem (List String)) :=
  looking do return (← ((← IO.currentDir) / path).readDir).toList.map (·.fileName)

def readBytes (path : String) : IO (Except FileProblem (List UInt8)) := do
  match ← isDirectory path with
  | .ok true => return .error .isDirectory
  | _ => looking do return (← IO.FS.readBinFile path).toList

structure Terminal where
  vars : Variables
  room : Nat
  level : LogLevel
  disk : Snapshot := {}
  state : State := {}

namespace Terminal

def world (t : Terminal) : World := ⟨t.disk.files, t.vars, t.room⟩

def put (level : LogLevel) : Event → IO Unit
  | .wrote _ text | .prompted text => do
    let out ← IO.getStdout
    out.putStr text
    out.flush
  | .logged r => if level.rank ≤ r.level.rank then IO.eprintln r.line else pure ()
  | .opened _ => pure ()

partial def run {α : Type} (t : Terminal) (action : World → Eval α) :
    IO (Except Fault α × Terminal) := do
  let (result, state) := (action t.world).run.run { t.state with transcript := #[] }
  match t.disk.unread state.openedPaths with
  | [] =>
    state.transcript.forM (put t.level)
    return (result, { t with state })
  | paths =>
    let new ← paths.mapM fun path => return (path, ← readBytes path)
    run { t with disk := { t.disk with contents := new ++ t.disk.contents } } action

/-- The loop over the lines of the standard input. Every line sees the disk as it is then. -/
partial def converse (t : Terminal) (input : IO.FS.Stream) (pending : Option String) :
    IO (Except Fault Unit) := do
  put t.level (.prompted (Repl.prompt pending))
  let line ← input.getLine
  let t := { t with disk := { t.disk with contents := [] } }
  if line.isEmpty then return (← t.run fun _ => Repl.endOfInput).1
  else
    let text := if line.endsWith "\n" then (line.dropEnd 1).toString else line
    let (result, t) ← t.run fun w => Repl.feed w pending text
    match result with
    | .error fault => return .error fault
    | .ok .ended => return .ok ()
    | .ok (.waiting pending) => converse t input pending

def interact (t : Terminal) : IO (Except Fault Unit) := do
  let (result, t) ← t.run fun w => do
    Session.start w none true
    Eval.write .standard Repl.banner
  match result with
  | .error fault => return .error fault
  | .ok () => t.converse (← IO.getStdin) none

end Terminal

def settingNames : List String :=
  ["MLISP_SCOPING", "MLISP_PRELUDE_PATH", "MLISP_LOG_LEVEL", "MLISP_RECURSION_LIMIT"]

def fail (message : String) : IO UInt32 := do
  IO.eprintln message
  return 1

end CurriedLisp

open CurriedLisp in
def main (args : List String) : IO UInt32 := do
  let values ← settingNames.mapM fun name => return (name, ← IO.getEnv name)
  let vars : Variables := fun name => (values.lookup name).join
  match CommandLine.configure vars with
  | .error fault => fail fault.message
  | .ok config =>
    let paths := Setting.paths vars "MLISP_PRELUDE_PATH" []
    let kinds ← paths.mapM fun path => return (path, ← isDirectory path)
    let listings ← paths.mapM fun path => return (path, ← listDirectory path)
    let t : Terminal := { vars, room := config.room, level := config.level, disk := { kinds, listings } }
    if args.isEmpty then
      match ← t.interact with
      | .ok () => return 0
      | .error fault => fail fault.message
    else
      match (← t.run fun w => CommandLine.runFiles w 0 args).1 with
      | .ok status => return status.toUInt32
      | .error fault => fail fault.message
