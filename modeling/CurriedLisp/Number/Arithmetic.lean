import CurriedLisp.Number.Rounding

/-! Arithmetic on binary64 numbers: the exact result, rounded once. Results without a value are `nan`
with mark `0`, to be marked by whoever asked for them. -/

namespace CurriedLisp.Number

def add : Number → Number → Number
  | finite s q _, finite t r _ =>
    let sum := signed s q + signed t r
    ofRatio (if sum = 0 then s && t else sum < 0) sum.natAbs 1
  | infinite s, infinite t => if s = t then infinite s else nan 0
  | infinite s, finite .. | finite .., infinite s => infinite s
  | nan _, _ | _, nan _ => nan 0

def sub (a b : Number) : Number := a.add b.negate

def mul : Number → Number → Number
  | finite s q _, finite t r _ => ofRatio (s != t) (q * r) one
  | infinite s, infinite t => infinite (s != t)
  | infinite s, finite t q _ | finite t q _, infinite s => if q = 0 then nan 0 else infinite (s != t)
  | nan _, _ | _, nan _ => nan 0

def div : Number → Number → Number
  | finite s q _, finite t r _ => ofRatio (s != t) (q * one) r
  | infinite s, finite t .. => infinite (s != t)
  | finite s .., infinite t => finite (s != t) 0 fitsBinary64_zero
  | infinite _, infinite _ | nan _, _ | _, nan _ => nan 0

/-- Remainder of the division whose quotient is cut off at the point; it takes the dividend's sign. -/
def remainder : Number → Number → Number
  | finite s q _, finite _ r _ => ofRatio s (q % r) 1
  | finite s q h, infinite _ => finite s q h
  | finite .., nan _ | infinite _, _ | nan _, _ => nan 0

def least (a b : Number) : Number := if b.lt a then b else a

def greatest (a b : Number) : Number := if a.lt b then b else a

end CurriedLisp.Number
