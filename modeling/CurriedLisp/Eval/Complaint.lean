import CurriedLisp.Value.Basic

/-! What an operation finds wrong with its arguments. A complaint is an ordinary result, an error value
with the complaint's text. -/

namespace CurriedLisp

inductive Arity where
  | exactly (n : Nat)
  | atLeast (n : Nat)
  | atMost (n : Nat)
  deriving DecidableEq

inductive Complaint where
  | argumentCount (op : String) (expected : Arity) (got : Nat)
  | wrongKind (op : String) (position : Nat) (expected got : Kind)
  | emptyList (op : String)
  | nonSymbolFormal (shown : String)
  | nonSymbolName (shown : String)
  | symbolCount (op : String) (symbols values : Nat)
  | divisionByZero
  | tooManyArguments
  | invalidFormals
  | unbound (name : String)
  | notFunction
  | notLoaded (reason : String)
  | raised (message : String)
  deriving DecidableEq

namespace Arity

def text : Arity → String
  | exactly n => n.repr
  | atLeast n => "at least " ++ n.repr
  | atMost n => "at most " ++ n.repr

def fault (expected : Arity) (got : Nat) : String :=
  match expected with
  | exactly n => if got < n then "few" else "many"
  | atLeast _ => "few"
  | atMost _ => "many"

end Arity

namespace Complaint

def message : Complaint → String
  | argumentCount op expected got =>
    op ++ " called with too " ++ expected.fault got ++ " arguments: expected " ++ expected.text ++
      ", got " ++ got.repr
  | wrongKind op position expected got =>
    op ++ " called with wrong type for argument " ++ position.repr ++ ": expected " ++ expected.name ++
      ", got " ++ got.name
  | emptyList op => op ++ " called with empty list"
  | nonSymbolFormal shown => "cannot use non-symbol as argument: " ++ shown
  | nonSymbolName shown => "cannot define non-symbol: " ++ shown
  | symbolCount op symbols values =>
    op ++ " called with number of symbols (" ++ symbols.repr ++ ") != number of values (" ++
      values.repr ++ ")"
  | divisionByZero => "division by zero!"
  | tooManyArguments => "too many arguments"
  | invalidFormals => "invalid function arguments"
  | unbound name => "unbound symbol: " ++ name
  | notFunction => "first element is not a function"
  | notLoaded reason => "could not load file: " ++ reason
  | raised message => message

def value (c : Complaint) : Value := .error c.message

end Complaint

end CurriedLisp
