import CurriedLisp.Session.Basic

/-! The interactive loop. Lines are put together until no bracket and no quote is open, and each input
put together in this way is evaluated once. -/

namespace CurriedLisp.Repl

def banner : String := "MLisp Version 0.1.0\nEnter 'quit' to exit\n\n"

def farewell : String := "Exiting...\n"

def quitWord : String := "quit"

def prompt : Option String → String
  | none => "> "
  | some _ => ". "

def extend (pending : Option String) (line : String) : String :=
  match pending with
  | none => line
  | some text => text ++ "\n" ++ line

def answer (w : World) (input : String) : Eval Unit := do
  let result ←
    try some <$> Session.eval w input
    catch
      | .unreadable e source => do
        Eval.write .standard ("Error: " ++ e.message source ++ "\n")
        pure none
      | .tooDeep => do
        Eval.log (.tooDeep input)
        Eval.write .standard ("Error: " ++ Fault.tooDeep.message ++ "\n")
        pure none
      | fault => throw fault
  match result with
  | none | some (.sexpr []) => return ()
  | some v => Eval.write .standard ((← Session.display v) ++ "\n")

inductive Status where
  | waiting (pending : Option String)
  | ended

def feed (w : World) (pending : Option String) (line : String) : Eval Status := do
  let input := extend pending line
  if needsMoreInput input then return .waiting (some input)
  else if Text.strip input = quitWord then
    Eval.write .standard farewell
    return .ended
  else
    answer w input
    return .waiting none

def endOfInput : Eval Unit := do
  Eval.write .standard "\n"
  Eval.write .standard farewell

def converse (w : World) (pending : Option String) : List String → Eval Unit
  | [] => do
    Eval.record (.prompted (prompt pending))
    endOfInput
  | line :: rest => do
    Eval.record (.prompted (prompt pending))
    match ← feed w pending line with
    | .waiting pending => converse w pending rest
    | .ended => return ()

def run (w : World) (lines : List String) : Eval Unit := do
  Eval.write .standard banner
  converse w none lines

end CurriedLisp.Repl
