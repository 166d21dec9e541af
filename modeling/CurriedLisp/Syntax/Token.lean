namespace CurriedLisp

/-- Round brackets hold calls, curly ones hold data. -/
inductive Bracket where
  | round
  | curly
  deriving DecidableEq

namespace Bracket

def opening : Bracket → String
  | round => "("
  | curly => "\x7b"

def closing : Bracket → String
  | round => ")"
  | curly => "\x7d"

end Bracket

inductive Lexeme where
  | opening (bracket : Bracket)
  | closing (bracket : Bracket)
  /-- What stands between the quotes, with its escapes. -/
  | string (body : List Char)
  | atom (text : List Char)
  deriving DecidableEq

namespace Lexeme

def text : Lexeme → String
  | opening b => b.opening
  | closing b => b.closing
  | string body => String.ofList ('"' :: body ++ ['"'])
  | atom text => String.ofList text

end Lexeme

structure Token where
  lexeme : Lexeme
  line : Nat
  deriving DecidableEq

end CurriedLisp
