import CurriedLisp.Number.Layout
import CurriedLisp.Value.Basic

namespace CurriedLisp

def spaced (texts : List String) : String := " ".intercalate texts

namespace Value

mutual

/-- What a builtin is called is told by `names`, and `shown` has the displayed forms of values that stand
for symbols: in the body of a function, those of its own bindings. -/
def displayWith (names : Builtin → Option String) (shown : List (String × String)) : Value → String
  | number n => n.text
  | error message => "Error: " ++ message
  | symbol name => (shown.lookup name).getD name
  | string text => String.ofList ('"' :: StringLiteral.encode text.toList ++ ['"'])
  | list b items => b.opening ++ spaced (displayEach names shown items) ++ b.closing
  | lambda formals body own _ =>
    "\\ " ++ Bracket.curly.opening ++ spaced formals ++ Bracket.curly.closing ++ " " ++
      Bracket.curly.opening ++ spaced (displayEach names (displayBindings names own) body) ++
      Bracket.curly.closing
  | builtin op _ => (names op).getD "<function>"

def displayEach (names : Builtin → Option String) (shown : List (String × String)) :
    List Value → List String
  | [] => []
  | v :: rest => displayWith names shown v :: displayEach names shown rest

def displayBindings (names : Builtin → Option String) :
    List (String × Value) → List (String × String)
  | [] => []
  | (name, v) :: rest => (name, displayWith names [] v) :: displayBindings names rest

end

def display (names : Builtin → Option String) (v : Value) : String := displayWith names [] v

def displayAnonymous (v : Value) : String := v.display fun _ => none

def output (names : Builtin → Option String) : Value → String
  | string text => text
  | v => v.display names

end Value

def outputLine (names : Builtin → Option String) (values : List Value) : String :=
  spaced (values.map (Value.output names))

end CurriedLisp
