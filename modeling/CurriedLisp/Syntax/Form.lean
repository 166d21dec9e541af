import CurriedLisp.Number.Numeral
import CurriedLisp.Syntax.StringLiteral
import CurriedLisp.Syntax.Token

namespace CurriedLisp

inductive Form where
  | number (line : Nat) (value : Number)
  | symbol (line : Nat) (name : String)
  | string (line : Nat) (text : String)
  | list (line : Nat) (bracket : Bracket) (items : List Form)

namespace Form

def line : Form → Nat
  | number l _ | symbol l _ | string l _ | list l _ _ => l

def ofAtom (line : Nat) (text : List Char) : Form :=
  match Numeral.read? text with
  | some d => .number line d.toNumber
  | none => .symbol line (String.ofList text)

def ofString (line : Nat) (body : List Char) : Form :=
  .string line (String.ofList (StringLiteral.decode body))

end Form

def location (source : String) (line : Nat) : String := source ++ ":" ++ line.repr

end CurriedLisp
