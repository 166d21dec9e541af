import CurriedLisp.Value.Inspect

/-! Nodes that come from elsewhere than a source, with anything in them that is no node. -/

namespace CurriedLisp

inductive Datum where
  | none
  | truth (value : Bool)
  | integer (value : Int)
  | number (value : Number)
  | text (value : String)
  | list (items : List Datum)

namespace Datum

mutual

def inspect : Datum → String
  | none => "None"
  | truth b => if b then "True" else "False"
  | integer n => toString n
  | number n => n.exactText
  | text s => Text.quoted s
  | list items => "[" ++ listed (inspectEach items) ++ "]"

def inspectEach : List Datum → List String
  | [] => []
  | d :: rest => inspect d :: inspectEach rest

end

def notNodeMessage (d : Datum) : String := "Not a syntax tree node: " ++ d.inspect

end Datum

inductive Node where
  | number (value : Number)
  | symbol (name : String)
  | string (text : String)
  | list (bracket : Bracket) (children : List Node)
  | datum (d : Datum)

namespace Node

mutual

def value : Node → Except Datum Value
  | number n => .ok (.number n)
  | symbol name => .ok (.symbol name)
  | string text => .ok (.string text)
  | list bracket children => do .ok (.list bracket (← values children))
  | datum d => .error d

def values : List Node → Except Datum (List Value)
  | [] => .ok []
  | node :: rest => do .ok ((← node.value) :: (← values rest))

end

end Node

end CurriedLisp
