import CurriedLisp.Text.Blank
import CurriedLisp.Text.Digit

namespace CurriedLisp.Text

inductive WholeProblem where
  | malformed
  | tooLong (digits : Nat)
  deriving DecidableEq

/-- White space that may surround a whole number: the information separators may not. -/
def isMargin (c : Char) : Bool := isBlank c && !(0x1c ≤ c.toNat && c.toNat ≤ 0x1f)

def spanDigits : List Char → List Char × List Char
  | '_' :: c :: rest =>
    if isDigit c then
      let (digits, after) := spanDigits rest
      (c :: digits, after)
    else ([], '_' :: c :: rest)
  | c :: rest =>
    if isDigit c then
      let (digits, after) := spanDigits rest
      (c :: digits, after)
    else ([], c :: rest)
  | [] => ([], [])

def splitSign : List Char → Bool × List Char
  | '-' :: rest => (true, rest)
  | '+' :: rest => (false, rest)
  | text => (false, text)

def maxWholeDigits : Nat := 4300

def readWhole (text : String) : Except WholeProblem Int :=
  let (negative, body) := splitSign (trimBy isMargin text.toList)
  if body.head? = some '_' then .error .malformed
  else
    let (digits, rest) := spanDigits body
    if rest.head? = some '_' then .error .malformed
    else if maxWholeDigits < digits.length then .error (.tooLong digits.length)
    else if digits.isEmpty || !rest.isEmpty then .error .malformed
    else
      let value : Int := digitsValue digits
      .ok (if negative then -value else value)

end CurriedLisp.Text
