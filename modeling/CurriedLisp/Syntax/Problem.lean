import CurriedLisp.Syntax.Form

namespace CurriedLisp

inductive SyntaxProblem where
  | unclosedString
  | unexpectedToken (lexeme : Lexeme)
  | unexpectedEnd (expected : Bracket)
  deriving DecidableEq

namespace SyntaxProblem

def text : SyntaxProblem → String
  | unclosedString => "unterminated string"
  | unexpectedToken lexeme => "unexpected token: `" ++ lexeme.text ++ "`"
  | unexpectedEnd expected => "unexpected end of input: expected `" ++ expected.closing ++ "`"

end SyntaxProblem

structure SyntaxError where
  problem : SyntaxProblem
  line : Nat
  deriving DecidableEq

def SyntaxError.message (e : SyntaxError) (source : String) : String :=
  e.problem.text ++ " at " ++ location source e.line

/-- Why reading stops. Brackets nested beyond the limit are no matter of syntax. -/
inductive ReadError where
  | unreadable (error : SyntaxError)
  | tooDeep
  deriving DecidableEq

end CurriedLisp
