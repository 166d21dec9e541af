/-! Binary64 numbers held exactly. A finite magnitude is counted in quanta of `2^-1074`, the smallest
positive one, so that order and equality are those of integers. -/

namespace CurriedLisp

-- Powers of numbers are not those of monoids, even where monoids are known.
attribute [instance (20000), default_instance 20000] instPowNat

/-- The least power of two that binary64 does not reach. -/
def overflow : Nat := 2 ^ 2098

def FitsBinary64 (quanta : Nat) : Prop :=
  quanta % 2 ^ (quanta.log2 - 52) = 0 ∧ quanta < overflow

instance (quanta : Nat) : Decidable (FitsBinary64 quanta) :=
  inferInstanceAs (Decidable (_ ∧ _))

theorem overflow_pos : 0 < overflow := by
  apply Nat.pow_pos
  decide

theorem fitsBinary64_zero : FitsBinary64 0 := ⟨Nat.zero_mod _, overflow_pos⟩

/-- Every computation without a number for an answer leaves its own mark on the `nan` it gives. -/
inductive Number where
  | finite (negative : Bool) (quanta : Nat) (fits : FitsBinary64 quanta)
  | infinite (negative : Bool)
  | nan (mark : Nat)
  deriving DecidableEq

namespace Number

def zero : Number := .finite false 0 fitsBinary64_zero

instance : Inhabited Number := ⟨zero⟩

def isFinite : Number → Bool
  | finite .. => true
  | _ => false

def isNan : Number → Bool
  | nan _ => true
  | _ => false

def isNegative : Number → Bool
  | finite negative .. | infinite negative => negative
  | nan _ => false

def signed (negative : Bool) (quanta : Nat) : Int :=
  if negative then -quanta else quanta

def lt : Number → Number → Bool
  | finite s q _, finite t r _ => signed s q < signed t r
  | finite .., infinite t => !t
  | infinite s, finite .. => s
  | infinite s, infinite t => s && !t
  | _, _ => false

def equal : Number → Number → Bool
  | finite s q _, finite t r _ => signed s q == signed t r
  | infinite s, infinite t => s == t
  | _, _ => false

def le (a b : Number) : Bool := a.lt b || a.equal b

/-- Equality of list items: a `nan` is the same item as a copy of itself. -/
def same : Number → Number → Bool
  | nan m, nan n => m == n
  | a, b => a.equal b

def isZero (a : Number) : Bool := a.equal zero

def negate : Number → Number
  | finite s q h => finite (!s) q h
  | infinite s => infinite (!s)
  | nan m => nan m

def marked (mark : Nat) : Number → Number
  | nan _ => nan mark
  | a => a

theorem same_of_not_isNan {a b : Number} (h : a.isNan = false) : a.same b = a.equal b := by
  cases a <;> simp_all [same, isNan]

end Number

end CurriedLisp
