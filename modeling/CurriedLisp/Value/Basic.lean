import CurriedLisp.Syntax.Form
import CurriedLisp.Value.Builtin

/-! Values. A function owns the bindings that partial application has made so far and may have captured
the frame in which it was created. -/

namespace CurriedLisp

/-- Frames of a store are numbered in the order of their creation. -/
abbrev FrameId := Nat

inductive Value where
  | number (n : Number)
  | error (message : String)
  | symbol (name : String)
  | string (text : String)
  | list (bracket : Bracket) (items : List Value)
  | lambda (formals : List String) (body : List Value) (own : List (String × Value))
      (captured : Option FrameId)
  | builtin (op : Builtin) (name : String)

abbrev Bindings := List (String × Value)

/-- The formal that stands before the one which takes all remaining arguments. -/
def variadicMarker : String := "..."

inductive Kind where
  | number
  | error
  | symbol
  | string
  | sexpr
  | qexpr
  | function
  | builtin
  deriving DecidableEq

namespace Kind

def name : Kind → String
  | number => "number"
  | error => "error"
  | symbol => "symbol"
  | string => "string"
  | sexpr => "s-expression"
  | qexpr => "q-expression"
  | function => "function"
  | builtin => "builtin function"

end Kind

namespace Value

@[match_pattern]
abbrev sexpr (items : List Value) : Value := .list .round items

@[match_pattern]
abbrev qexpr (items : List Value) : Value := .list .curly items

abbrev nothing : Value := .sexpr []

instance : Inhabited Value := ⟨nothing⟩

def kind : Value → Kind
  | number _ => .number
  | error _ => .error
  | symbol _ => .symbol
  | string _ => .string
  | list .round _ => .sexpr
  | list .curly _ => .qexpr
  | lambda .. => .function
  | builtin .. => .builtin

def isError : Value → Bool
  | error _ => true
  | _ => false

def ofBuiltin (op : Builtin) : Value := .builtin op op.name

end Value

namespace Form

mutual

def value : Form → Value
  | number _ n => .number n
  | symbol _ name => .symbol name
  | string _ text => .string text
  | list _ bracket items => .list bracket (values items)

def values : List Form → List Value
  | [] => []
  | form :: rest => form.value :: values rest

end

theorem values_eq_map (forms : List Form) : values forms = forms.map value := by
  induction forms with
  | nil => rfl
  | cons form rest ih => simp [values, ih]

end Form

end CurriedLisp
