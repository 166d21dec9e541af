import CurriedLisp.Number.Basic

namespace CurriedLisp.Number

def divideToEven (num den : Nat) : Nat :=
  let whole := num / den
  let rest := num % den
  if den < 2 * rest || (2 * rest == den && whole % 2 == 1) then whole + 1 else whole

def roundQuanta (num den : Nat) : Nat :=
  let unit := 2 ^ ((num / den).log2 - 52)
  divideToEven num (den * unit) * unit

def ofRatio (negative : Bool) (num den : Nat) : Number :=
  let quanta := roundQuanta num den
  if h : FitsBinary64 quanta then .finite negative quanta h else .infinite negative

def one : Nat := 2 ^ 1074

def ofNat (n : Nat) : Number := ofRatio false (n * one) 1

theorem divideToEven_mul (n den : Nat) (h : 0 < den) : divideToEven (n * den) den = n := by
  simp [divideToEven, Nat.mul_div_cancel _ h]
  omega

theorem roundQuanta_of_fits {q : Nat} (h : FitsBinary64 q) : roundQuanta q 1 = q := by
  have hu : 0 < 2 ^ (q.log2 - 52) := Nat.pow_pos (by decide)
  have hq : q / 2 ^ (q.log2 - 52) * 2 ^ (q.log2 - 52) = q :=
    Nat.div_mul_cancel (Nat.dvd_of_mod_eq_zero h.1)
  have hr := divideToEven_mul (q / 2 ^ (q.log2 - 52)) _ hu
  rw [hq] at hr
  simp [roundQuanta, hr, hq]

theorem ofRatio_of_fits (s : Bool) {q : Nat} (h : FitsBinary64 q) : ofRatio s q 1 = .finite s q h := by
  simp [ofRatio, roundQuanta_of_fits h, h]

end CurriedLisp.Number
