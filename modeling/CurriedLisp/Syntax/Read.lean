import CurriedLisp.Syntax.TokenStream

namespace CurriedLisp

def parseProgram (limit : Nat) (source : String) : Except ReadError (List Form) :=
  ((TokenStream.ofSource source).parseAll limit).1

/-- Any number of forms but one is read as a call that holds them. -/
def Form.single : List Form → Form
  | [form] => form
  | forms => .list 1 .round forms

def parse (limit : Nat) (source : String) : Except ReadError Form :=
  (parseProgram limit source).map Form.single

def bracketBalance (tokens : List Token) : Int :=
  tokens.foldl (fun n t =>
    match t.lexeme with
    | .opening _ => n + 1
    | .closing _ => n - 1
    | .string _ | .atom _ => n) 0

def needsMoreInput (text : String) : Bool :=
  let lexed := lex text
  lexed.unclosed.isSome || 0 < bracketBalance lexed.tokens

end CurriedLisp
