import CurriedLisp.Value.Basic

/-! Equality of values. Functions are equal if their formals, bodies and own bindings are, in whatever
order bound; builtins if they are the same operation, under whatever name. -/

namespace CurriedLisp.Value

mutual

def same : Value → Value → Bool
  | number a, number b => a.same b
  | error m, error n => m == n
  | symbol m, symbol n => m == n
  | string s, string t => s == t
  | list b xs, list c ys => b == c && sameItems xs ys
  | lambda f xs own _, lambda g ys others _ =>
    f == g && sameItems xs ys && own.length == others.length && sameBindings own others
  | builtin p _, builtin q _ => p == q
  | _, _ => false

def sameItems : List Value → List Value → Bool
  | [], [] => true
  | x :: xs, y :: ys => same x y && sameItems xs ys
  | _, _ => false

def sameBindings : List (String × Value) → List (String × Value) → Bool
  | [], _ => true
  | (name, x) :: rest, others =>
    (match others.lookup name with
      | some y => same x y
      | none => false) && sameBindings rest others

end

/-- Equality of two values that are compared themselves: here `nan` equals nothing. -/
def equal : Value → Value → Bool
  | number a, number b => a.equal b
  | a, b => same a b

end CurriedLisp.Value
