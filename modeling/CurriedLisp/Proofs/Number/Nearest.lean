import CurriedLisp.Number.Shortest
import Mathlib.Tactic.Lemma

namespace CurriedLisp

namespace Number

lemma divideToEven_scale {k : Nat} (num den : Nat) (hk : 0 < k) :
    divideToEven (num * k) (den * k) = divideToEven num den := by
  have hlt : den * k < 2 * (num % den) * k ↔ den < 2 * (num % den) := Nat.mul_lt_mul_right hk
  have heq : 2 * (num % den) * k = den * k ↔ 2 * (num % den) = den :=
    ⟨Nat.eq_of_mul_eq_mul_right hk, fun h => by rw [h]⟩
  simp only [divideToEven, Nat.mul_div_mul_right _ _ hk, Nat.mul_mod_mul_right, ← Nat.mul_assoc, hlt,
    Bool.beq_eq_decide_eq, heq]

lemma ofRatio_scale {k : Nat} (negative : Bool) (num den : Nat) (hk : 0 < k) :
    ofRatio negative (num * k) (den * k) = ofRatio negative num den := by
  have hunit : ∀ unit, divideToEven (num * k) (den * k * unit) = divideToEven num (den * unit) := by
    intro unit
    rw [Nat.mul_right_comm den k unit]
    exact divideToEven_scale num (den * unit) hk
  have hround : roundQuanta (num * k) (den * k) = roundQuanta num den := by
    simp only [roundQuanta, Nat.mul_div_mul_right _ _ hk, hunit]
  simp only [ofRatio, hround]

lemma ofRatio_eq_of_cross {num den num' den' : Nat} (negative : Bool) (hd : 0 < den) (hd' : 0 < den')
    (h : num * den' = num' * den) : ofRatio negative num den = ofRatio negative num' den' := by
  rw [← ofRatio_scale negative num den hd', ← ofRatio_scale negative num' den' hd, h, Nat.mul_comm den den']

lemma div_le_divideToEven (num den : Nat) : num / den ≤ divideToEven num den := by
  simp only [divideToEven]
  split <;> omega

lemma le_roundQuanta_one {num : Nat} {k : Nat} (h : 2 ^ k ≤ num) : 2 ^ k ≤ roundQuanta num 1 := by
  have hnum : num ≠ 0 := Nat.ne_of_gt (Nat.lt_of_lt_of_le (Nat.two_pow_pos k) h)
  have hk : k ≤ num.log2 := (Nat.le_log2 hnum).mpr h
  let e := num.log2 - 52
  have hfloor : 2 ^ (k - e) ≤ num / 2 ^ e := by
    rw [Nat.le_div_iff_mul_le (Nat.two_pow_pos e), ← Nat.pow_add]
    rcases Nat.le_total e k with he | he
    · rwa [Nat.sub_add_cancel he]
    · rw [Nat.sub_eq_zero_of_le he, Nat.zero_add]
      exact Nat.le_trans (Nat.pow_le_pow_right (by decide) (Nat.sub_le _ _)) (Nat.log2_self_le hnum)
  calc
    2 ^ k ≤ 2 ^ (k - e + e) := Nat.pow_le_pow_right (by decide) (by omega)
    _ = 2 ^ (k - e) * 2 ^ e := Nat.pow_add ..
    _ ≤ divideToEven num (2 ^ e) * 2 ^ e := Nat.mul_le_mul_right _ (Nat.le_trans hfloor (div_le_divideToEven _ _))
    _ = roundQuanta num 1 := by simp only [roundQuanta, Nat.div_one, Nat.one_mul, e]

lemma ofRatio_infinite (negative : Bool) {num : Nat} (h : overflow ≤ num) :
    ofRatio negative num 1 = infinite negative := by
  unfold overflow at h
  have hfits : ¬ FitsBinary64 (roundQuanta num 1) := by
    rintro ⟨-, hlt⟩
    unfold overflow at hlt
    exact Nat.not_lt.mpr (le_roundQuanta_one h) hlt
  simp only [ofRatio, hfits, dite_false]

lemma ofRatio_vanishes (negative : Bool) {num den : Nat} (h : 2 * num < den) :
    ofRatio negative num den = finite negative 0 fitsBinary64_zero := by
  have hlt : num < den := by omega
  have hround : roundQuanta num den = 0 := by
    simp [roundQuanta, divideToEven, Nat.div_eq_of_lt hlt, Nat.mod_eq_of_lt hlt]
    omega
  simp only [ofRatio, hround, fitsBinary64_zero, dite_true]

lemma ofRatio_zero (negative : Bool) {den : Nat} (h : 0 < den) :
    ofRatio negative 0 den = finite negative 0 fitsBinary64_zero :=
  ofRatio_vanishes negative (by omega)

lemma quantaOfOne_pos : 0 < one := Nat.two_pow_pos 1074

end Number

namespace Decimal

open Number

lemma toNumber_of_overflow (d : Decimal) (hd : d.digits ≠ 0) (he : 400 < d.exponent) :
    ofRatio d.negative (d.digits * 10 ^ d.exponent.toNat * one) 1 = infinite d.negative := by
  apply ofRatio_infinite d.negative
  have hexp : 400 ≤ d.exponent.toNat := by omega
  calc
    overflow ≤ 1 * (2 ^ 3) ^ 400 * one := by
      unfold overflow one
      rw [Nat.one_mul, ← Nat.pow_mul, ← Nat.pow_add]
      exact Nat.pow_le_pow_right (by decide) (by decide)
    _ ≤ 1 * 10 ^ 400 * one :=
      Nat.mul_le_mul_right _ (Nat.mul_le_mul_left _ (Nat.pow_le_pow_left (by decide) 400))
    _ ≤ d.digits * 10 ^ d.exponent.toNat * one :=
      Nat.mul_le_mul_right _ (Nat.mul_le_mul (Nat.pos_of_ne_zero hd) (Nat.pow_le_pow_right (by decide) hexp))

lemma toNumber_of_vanishing (d : Decimal) {k : Nat} (hk : d.digits.log2 + 400 < k) :
    ofRatio d.negative (d.digits * one) (10 ^ k) = ofRatio d.negative 0 1 := by
  rw [ofRatio_zero d.negative (by decide : 0 < 1)]
  apply ofRatio_vanishes d.negative
  have hlog : d.digits.log2 + 1 + 1074 + 1 ≤ 3 * k := by omega
  calc
    2 * (d.digits * one) = d.digits * one * 2 := Nat.mul_comm ..
    _ < 2 ^ (d.digits.log2 + 1) * one * 2 :=
      Nat.mul_lt_mul_of_pos_right (Nat.mul_lt_mul_of_pos_right Nat.lt_log2_self quantaOfOne_pos) (by decide)
    _ = 2 ^ (d.digits.log2 + 1 + 1074 + 1) := by
      unfold one
      rw [← Nat.pow_add, ← Nat.pow_succ]
    _ ≤ 2 ^ (3 * k) := Nat.pow_le_pow_right (by decide) hlog
    _ = (2 ^ 3) ^ k := Nat.pow_mul ..
    _ ≤ 10 ^ k := Nat.pow_le_pow_left (by decide) k

theorem toNumber_eq (d : Decimal) : d.toNumber =
    ofRatio d.negative (d.digits * 10 ^ d.exponent.toNat * one) (10 ^ (-d.exponent).toNat) := by
  unfold toNumber
  split
  case isTrue hd =>
    rw [hd, Nat.zero_mul, Nat.zero_mul, ofRatio_zero _ (Nat.pow_pos (by decide)), ofRatio_zero _ (by decide)]
  case isFalse hd =>
    split
    case isTrue he =>
      have hden : (-d.exponent).toNat = 0 := by omega
      rw [hden, Nat.pow_zero]
      split
      case isTrue hlarge => exact (d.toNumber_of_overflow hd hlarge).symm
      case isFalse => rfl
    case isFalse he =>
      have hnum : d.exponent.toNat = 0 := by omega
      have hden : d.exponent.natAbs = (-d.exponent).toNat := by omega
      rw [hnum, Nat.pow_zero, Nat.mul_one, hden]
      split
      case isTrue hsmall => exact (d.toNumber_of_vanishing hsmall).symm
      case isFalse => rfl

lemma toNumber_shift (negative : Bool) (digits k : Nat) (e : Int) :
    toNumber ⟨negative, digits * 10 ^ k, e⟩ = toNumber ⟨negative, digits, e + k⟩ := by
  rw [toNumber_eq, toNumber_eq]
  apply ofRatio_eq_of_cross negative (Nat.pow_pos (by decide)) (Nat.pow_pos (by decide))
  have hexp : k + e.toNat + (-(e + k)).toNat = (e + k).toNat + (-e).toNat := by omega
  generalize one = unit
  calc
    digits * 10 ^ k * 10 ^ e.toNat * unit * 10 ^ (-(e + k)).toNat
      = digits * unit * 10 ^ (k + e.toNat + (-(e + k)).toNat) := by
        rw [Nat.pow_add, Nat.pow_add]
        ac_rfl
    _ = digits * 10 ^ (e + k).toNat * unit * 10 ^ (-e).toNat := by
        rw [hexp, Nat.pow_add]
        ac_rfl

lemma toNumber_stripZerosWithin (fuel : Nat) (d : Decimal) :
    (d.stripZerosWithin fuel).toNumber = d.toNumber := by
  induction fuel generalizing d with
  | zero => rfl
  | succ n ih =>
    unfold stripZerosWithin
    split
    case isTrue h =>
      rw [ih]
      have hdigits : d.digits / 10 * 10 ^ 1 = d.digits := Nat.div_mul_cancel (Nat.dvd_of_mod_eq_zero h.1)
      have hshift := toNumber_shift d.negative (d.digits / 10) 1 d.exponent
      rw [hdigits] at hshift
      exact hshift.symm
    case isFalse => rfl

end Decimal

namespace Number

lemma fivefold_pow (quanta k : Nat) : quanta * 5 ^ k * 10 ^ 0 * 2 ^ k * 1 = quanta * 10 ^ k := by
  rw [Nat.mul_one, Nat.pow_zero, Nat.mul_one, Nat.mul_assoc, ← Nat.mul_pow]

lemma exactDecimal_toNumber (negative : Bool) {quanta : Nat} (fits : FitsBinary64 quanta) :
    (exactDecimal negative quanta).toNumber = finite negative quanta fits := by
  rw [Decimal.toNumber_eq, ← ofRatio_of_fits negative fits]
  apply ofRatio_eq_of_cross negative (Nat.pow_pos (by decide)) (by decide)
  exact fivefold_pow quanta 1074

lemma toNumber_of_withPlaces? {negative : Bool} {quanta places : Nat} {fits : FitsBinary64 quanta}
    {d : Decimal} (h : withPlaces? negative quanta fits places = some d) :
    d.toNumber = finite negative quanta fits := by
  have hfound := List.find?_some h
  exact of_decide_eq_true hfound

lemma shortestFrom_toNumber (negative : Bool) {quanta : Nat} (fits : FitsBinary64 quanta)
    (places count : Nat) :
    (shortestFrom negative quanta fits places count).toNumber = finite negative quanta fits := by
  unfold shortestFrom
  cases h : (List.range' places count).findSome? (withPlaces? negative quanta fits) with
  | none => exact exactDecimal_toNumber negative fits
  | some d =>
    obtain ⟨n, -, hn⟩ := List.exists_of_findSome?_eq_some h
    exact toNumber_of_withPlaces? hn

theorem shortest_toNumber (negative : Bool) {quanta : Nat} (fits : FitsBinary64 quanta) :
    (shortest negative quanta fits).toNumber = finite negative quanta fits := by
  unfold shortest
  split
  case isTrue h =>
    subst h
    rw [Decimal.toNumber, if_pos rfl]
    exact ofRatio_of_fits negative fits
  case isFalse =>
    rw [Decimal.stripZeros, Decimal.toNumber_stripZerosWithin]
    exact shortestFrom_toNumber negative fits 1 17

end Number

end CurriedLisp
