import CurriedLisp.Number.Decimal

namespace CurriedLisp.Number

def magnitude (quanta : Nat) : Int :=
  ((quanta * 10 ^ 400 / one).repr.length : Int) - 400

/-- The decimals of the grid `10^exponent` on either side of `quanta`, the nearer one first and of two
equally near ones the even one. -/
def neighbours (negative : Bool) (quanta : Nat) (exponent : Int) : List Decimal :=
  let num := quanta * 10 ^ (-exponent).toNat
  let den := one * 10 ^ exponent.toNat
  let below : Decimal := ⟨negative, num / den, exponent⟩
  let above : Decimal := ⟨negative, num / den + 1, exponent⟩
  let nearest := divideToEven num den
  if nearest = num / den then [below, above] else [above, below]

/-- All digits of a number: `2^-1074` is `5^1074` in units of `10^-1074`. -/
def exactDecimal (negative : Bool) (quanta : Nat) : Decimal := ⟨negative, quanta * 5 ^ 1074, -1074⟩

def withPlaces? (negative : Bool) (quanta : Nat) (fits : FitsBinary64 quanta) (places : Nat) :
    Option Decimal :=
  (neighbours negative quanta (magnitude quanta - places)).find? fun d =>
    d.toNumber = .finite negative quanta fits

def shortestFrom (negative : Bool) (quanta : Nat) (fits : FitsBinary64 quanta) (places count : Nat) :
    Decimal :=
  ((List.range' places count).findSome? (withPlaces? negative quanta fits)).getD
    (exactDecimal negative quanta)

/-- Seventeen digits always suffice. -/
def shortest (negative : Bool) (quanta : Nat) (fits : FitsBinary64 quanta) : Decimal :=
  if quanta = 0 then ⟨negative, 0, 0⟩ else (shortestFrom negative quanta fits 1 17).stripZeros

end CurriedLisp.Number
