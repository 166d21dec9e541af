import CurriedLisp.Repl

/-! The command line: with file names as arguments each file is loaded into a session of its own, without
arguments the interactive loop runs. -/

namespace CurriedLisp.CommandLine

def runFiles (w : World) (status : Nat) : List String → Eval Nat
  | [] => return status
  | path :: rest => do
    Session.start w none true
    let result ←
      try some <$> Session.loadFile w .standard path
      catch
        | .tooDeep => do
          Eval.write .standard ("Error: " ++ Fault.tooDeep.message ++ " in " ++ path ++ "\n")
          pure none
        | fault => throw fault
    match result with
    | none => return 1
    | some v =>
      if v.isError then
        Eval.write .standard ((← Session.display v) ++ "\n")
        runFiles w 1 rest
      else runFiles w status rest

def maxLimit : Int := 2 ^ 31 - 1

structure Config where
  level : LogLevel
  room : Nat

/-- A limit that leaves no room is exceeded from the start. -/
def configure (vars : Variables) : Except Fault Config := do
  let name := Setting.logLevelName vars
  match LogLevel.ofName? name with
  | none => .error (.setting (.unknownLogLevel name))
  | some level =>
    let limit ← (Setting.recursionLimit vars).mapError .setting
    if maxLimit < limit ∨ limit < -maxLimit - 1 then .error (.setting .limitTooHigh)
    else if limit < 1 then .error (.setting .limitTooLow)
    else if roomOf limit.toNat = 0 then .error .tooDeep
    else .ok ⟨level, roomOf limit.toNat⟩

def run (w : World) (args lines : List String) : Eval Nat := do
  if args.isEmpty then
    Session.start w none true
    Repl.run w lines
    return 0
  else runFiles w 0 args

structure Outcome where
  status : Except Fault Nat
  screen : String := ""
  logLines : List String := []

def execute (w : World) (args lines : List String) : Outcome :=
  match configure w.vars with
  | .error fault => { status := .error fault }
  | .ok config =>
    let (status, state) := (run { w with room := config.room } args lines).run.run {}
    { status, screen := state.screen, logLines := state.logLines config.level }

end CurriedLisp.CommandLine
