import CurriedLisp.Number.Layout
import CurriedLisp.Text.Quoted
import CurriedLisp.Value.Basic

namespace CurriedLisp

namespace Kind

def label : Kind → String
  | number => "Number"
  | error => "Error"
  | symbol => "Symbol"
  | string => "String"
  | sexpr => "SExpr"
  | qexpr => "QExpr"
  | function => "Lambda"
  | builtin => "Builtin"

end Kind

def listed (texts : List String) : String := ", ".intercalate texts

def inspectSymbol (name : String) : String := "Symbol(" ++ Text.quoted name ++ ")"

namespace Value

mutual

def inspect : Value → String
  | number n => "Number(" ++ n.exactText ++ ")"
  | error message => "Error(" ++ Text.quoted message ++ ")"
  | symbol name => inspectSymbol name
  | string text => "String(" ++ Text.quoted text ++ ")"
  | list .round items => "SExpr([" ++ listed (inspectEach items) ++ "])"
  | list .curly items => "QExpr([" ++ listed (inspectEach items) ++ "])"
  | lambda formals body own _ =>
    "Lambda([" ++ listed (formals.map inspectSymbol) ++ "], [" ++ listed (inspectEach body) ++
      "], env=\x7b" ++ listed (inspectBindings own) ++ "\x7d)"
  | builtin _ name => "Builtin(" ++ Text.quoted name ++ ")"

def inspectEach : List Value → List String
  | [] => []
  | v :: rest => inspect v :: inspectEach rest

def inspectBindings : List (String × Value) → List String
  | [] => []
  | (name, v) :: rest => (name ++ ": " ++ inspect v) :: inspectBindings rest

end

end Value

def inspectFrame (bindings : Bindings) : String :=
  "\x7b" ++ listed (Value.inspectBindings bindings) ++ "\x7d"

end CurriedLisp
