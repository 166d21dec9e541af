import CurriedLisp.Value.Equality
import CurriedLisp.Value.Inspect

namespace CurriedLisp

inductive Content where
  | values
  | number
  | symbol
  deriving DecidableEq

structure ConversionError where
  wanted : Content
  value : Value

namespace ConversionError

def message (e : ConversionError) : String :=
  let wanted :=
    match e.wanted with
    | .values => ".as_values(self="
    | .number => ".as_num(self="
    | .symbol => ".as_sym(self="
  e.value.kind.label ++ wanted ++ e.value.inspect ++ ")"

end ConversionError

namespace Value

def toItems : Value → Except ConversionError (List Value)
  | list _ items => .ok items
  | v => .error ⟨.values, v⟩

def toNumber : Value → Except ConversionError Number
  | number n => .ok n
  | v => .error ⟨.number, v⟩

def toSymbolName : Value → Except ConversionError String
  | symbol name => .ok name
  | v => .error ⟨.symbol, v⟩

def isKey : Value → Bool
  | list .. | lambda .. => false
  | _ => true

/-- The values without later copies of earlier ones, or the first that cannot be told apart by a set;
`seen` holds those kept so far, newest first. -/
def distinctFrom (seen : List Value) : List Value → Except Value (List Value)
  | [] => .ok seen.reverse
  | v :: rest =>
    if !v.isKey then .error v
    else if seen.any (·.same v) then distinctFrom seen rest
    else distinctFrom (v :: seen) rest

def distinct (values : List Value) : Except Value (List Value) := distinctFrom [] values

def notKeyMessage (v : Value) : String := "unhashable type: '" ++ v.kind.label ++ "'"

end Value

end CurriedLisp
