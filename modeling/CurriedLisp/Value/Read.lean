import CurriedLisp.Syntax.Read
import CurriedLisp.Value.Basic

/-! Reading of values. Room for reading and evaluating is counted in levels: each bracket takes some while
it is parsed, and more while its form becomes a value. -/

namespace CurriedLisp

namespace Value

mutual

def nesting : Value → Nat
  | list _ items => nestingOfItems items + 1
  | _ => 0

def nestingOfItems : List Value → Nat
  | [] => 0
  | v :: rest => max v.nesting (nestingOfItems rest)

end

end Value

namespace Reading

def parserLevels : Nat := 2

def bracketLevels : Nat := 4

def parserLimit (room : Nat) : Nat := room / parserLevels

def within (room : Nat) (values : List Value) : Except ReadError (List Value) :=
  if values.all fun v => bracketLevels * v.nesting ≤ room then .ok values else .error .tooDeep

end Reading

def readProgram (room : Nat) (source : String) : Except ReadError (List Value) := do
  let forms ← parseProgram (Reading.parserLimit room) source
  Reading.within room (forms.map Form.value)

def read (room : Nat) (source : String) : Except ReadError Value := do
  let form ← parse (Reading.parserLimit room) source
  let _ ← Reading.within room [form.value]
  .ok form.value

end CurriedLisp
