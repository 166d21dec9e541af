import CurriedLisp.Number.Rounding

namespace CurriedLisp

structure Decimal where
  negative : Bool
  digits : Nat
  exponent : Int
  deriving DecidableEq

namespace Decimal

/-- The number nearest to a decimal. Beyond the exponents at which every decimal overflows or vanishes
the power of ten is not computed. -/
def toNumber (d : Decimal) : Number :=
  if d.digits = 0 then .ofRatio d.negative 0 1
  else if 0 ≤ d.exponent then
    if 400 < d.exponent then .infinite d.negative
    else .ofRatio d.negative (d.digits * 10 ^ d.exponent.toNat * Number.one) 1
  else if d.digits.log2 + 400 < d.exponent.natAbs then .ofRatio d.negative 0 1
  else .ofRatio d.negative (d.digits * Number.one) (10 ^ d.exponent.natAbs)

def stripZerosWithin : Nat → Decimal → Decimal
  | 0, d => d
  | n + 1, d =>
    if d.digits % 10 = 0 ∧ d.digits ≠ 0 then
      stripZerosWithin n { d with digits := d.digits / 10, exponent := d.exponent + 1 }
    else d

def stripZeros (d : Decimal) : Decimal := d.stripZerosWithin (d.digits.log2 + 1)

end Decimal

end CurriedLisp
