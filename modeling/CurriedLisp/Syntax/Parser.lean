import CurriedLisp.Syntax.Lexer
import CurriedLisp.Syntax.Problem

/-! The parser keeps the groups that are open and moves one token at a time: a token either leaves groups
open or completes a form. -/

namespace CurriedLisp

structure Group where
  bracket : Bracket
  line : Nat
  items : List Form

namespace Group

def form (g : Group) : Form := .list g.line g.bracket g.items.reverse

end Group

inductive Progress where
  | within (groups : List Group)
  | complete (form : Form)

namespace Parser

def settle (form : Form) : List Group → Progress
  | [] => .complete form
  | g :: outer => .within ({ g with items := form :: g.items } :: outer)

def unexpected (t : Token) : ReadError := .unreadable ⟨.unexpectedToken t.lexeme, t.line⟩

def shift (limit : Nat) (groups : List Group) (t : Token) : Except ReadError Progress :=
  match t.lexeme with
  | .atom text => .ok (settle (.ofAtom t.line text) groups)
  | .string body => .ok (settle (.ofString t.line body) groups)
  | .opening b =>
    if limit ≤ groups.length then .error .tooDeep
    else .ok (.within (⟨b, t.line, []⟩ :: groups))
  | .closing b =>
    match groups with
    | [] => .error (unexpected t)
    | g :: outer => if g.bracket = b then .ok (settle g.form outer) else .error (unexpected t)

def missing (unclosed : Option Nat) (groups : List Group) (line : Nat) : Option SyntaxError :=
  match unclosed, groups with
  | some quote, _ => some ⟨.unclosedString, quote⟩
  | none, [] => none
  | none, g :: _ => some ⟨.unexpectedEnd g.bracket, line⟩

end Parser

end CurriedLisp
