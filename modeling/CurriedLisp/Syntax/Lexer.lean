import CurriedLisp.Syntax.Token
import CurriedLisp.Text.Blank

/-! The lexer reads one character at a time, and what it has to know of the characters before is its
mode. Comments and white space leave no tokens. -/

namespace CurriedLisp

namespace Lexer

/-- Unfinished texts are kept in reverse, with the line on which they start. -/
inductive Mode where
  | gap
  | comment
  | string (line : Nat) (body : List Char)
  | escape (line : Nat) (body : List Char)
  | atom (line : Nat) (text : List Char)

structure State where
  mode : Mode := .gap
  line : Nat := 1
  done : List Token := []

def isDelimiter (c : Char) : Bool :=
  c = '(' || c = ')' || c = '{' || c = '}' || c = '"' || c = ';'

def isAtomChar (c : Char) : Bool := !Text.isBlank c && !isDelimiter c

def start (s : State) (c : Char) : State :=
  let single (lexeme : Lexeme) : State := { s with mode := .gap, done := ⟨lexeme, s.line⟩ :: s.done }
  if c = ';' then { s with mode := .comment }
  else if c = '(' then single (.opening .round)
  else if c = ')' then single (.closing .round)
  else if c = '{' then single (.opening .curly)
  else if c = '}' then single (.closing .curly)
  else if c = '"' then { s with mode := .string s.line [] }
  else if Text.isBlank c then { s with mode := .gap }
  else { s with mode := .atom s.line [c] }

def consume (s : State) (c : Char) : State :=
  match s.mode with
  | .gap => start s c
  | .comment => if c = '\n' then { s with mode := .gap } else s
  | .string line body =>
    if c = '"' then { s with mode := .gap, done := ⟨.string body.reverse, line⟩ :: s.done }
    else if c = '\\' then { s with mode := .escape line body }
    else { s with mode := .string line (c :: body) }
  | .escape line body => { s with mode := .string line (c :: '\\' :: body) }
  | .atom line text =>
    if isAtomChar c then { s with mode := .atom line (c :: text) }
    else start { s with done := ⟨.atom text.reverse, line⟩ :: s.done } c

def step (s : State) (c : Char) : State :=
  let next := consume s c
  if c = '\n' then { next with line := next.line + 1 } else next

end Lexer

structure Lexed where
  tokens : List Token
  unclosed : Option Nat := none
  deriving DecidableEq

def Lexer.State.finish (s : Lexer.State) : Lexed :=
  match s.mode with
  | .gap | .comment => ⟨s.done.reverse, none⟩
  | .string line _ | .escape line _ => ⟨s.done.reverse, some line⟩
  | .atom line text => ⟨(⟨.atom text.reverse, line⟩ :: s.done).reverse, none⟩

def lex (source : String) : Lexed := (source.toList.foldl Lexer.step {}).finish

end CurriedLisp
