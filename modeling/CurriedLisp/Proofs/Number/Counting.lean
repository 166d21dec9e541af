import CurriedLisp.Number.Arithmetic
import CurriedLisp.Proofs.Number.Nearest
import Mathlib.Tactic.Ring

/-! Counting with numbers. Below `2^53` whole numbers are counted exactly, and a number beyond the end of a
count is not counted down to zero, however it is rounded. -/

namespace CurriedLisp.Number

/-- The number is the whole number `i`; zero may have either sign. -/
def Is (x : Number) (i : Int) : Prop := ∃ s q h, x = finite s q h ∧ signed s q = i * one

def Beyond (k : Nat) : Number → Prop
  | finite s q _ => signed s q < 0 ∨ ((k + 1) * one : Nat) ≤ signed s q
  | infinite _ => True
  | nan _ => False

variable {x : Number} {i : Int} {k n : Nat}

lemma fits_of_lt (h : n < 2 ^ 53) : FitsBinary64 (n * one) := by
  have hlt : n * one < 2 ^ (53 + 1074) := calc
    n * one < 2 ^ 53 * one := Nat.mul_lt_mul_of_pos_right h quantaOfOne_pos
    _ = 2 ^ (53 + 1074) := by rw [one, Nat.pow_add]
  constructor
  · have hlog : (n * one).log2 - 52 ≤ 1074 := by
      rcases Nat.eq_zero_or_pos (n * one) with hzero | hpos
      · rw [hzero]
        decide
      · have := (Nat.log2_lt hpos.ne').mpr hlt
        omega
    exact Nat.mod_eq_zero_of_dvd ((Nat.pow_dvd_pow 2 hlog).trans (Nat.dvd_mul_left _ n))
  · exact Nat.lt_of_lt_of_le hlt (Nat.pow_le_pow_right (by decide) (by decide))

lemma ofNat_eq (h : n < 2 ^ 53) : ofNat n = finite false (n * one) (fits_of_lt h) :=
  ofRatio_of_fits false (fits_of_lt h)

lemma signed_false (q : Nat) : signed false q = q := rfl

lemma signed_true (q : Nat) : signed true q = -q := rfl

lemma is_ofNat (h : n < 2 ^ 53) : (ofNat n).Is n :=
  ⟨false, n * one, fits_of_lt h, ofNat_eq h, Int.natCast_mul n one⟩

lemma ofNat_zero : ofNat 0 = zero := by
  simp only [ofNat_eq (by decide : 0 < 2 ^ 53), zero, Nat.zero_mul]

lemma ofRatio_signed {v : Int} (negative : Bool) (h : FitsBinary64 v.natAbs) :
    ∃ s, ofRatio (if v = 0 then negative else v < 0) v.natAbs 1 = finite s v.natAbs h ∧ signed s v.natAbs = v := by
  refine ⟨_, ofRatio_of_fits _ h, ?_⟩
  by_cases hv : v = 0
  · subst hv
    cases negative <;> rfl
  · rw [if_neg hv]
    by_cases hneg : v < 0
    · rw [decide_eq_true hneg, signed_true]
      omega
    · rw [decide_eq_false hneg, signed_false]
      omega

lemma one_add (h : n + 1 < 2 ^ 53) : (ofNat 1).add (ofNat n) = ofNat (n + 1) := by
  have hsum : signed false (1 * one) + signed false (n * one) = ((n + 1) * one : Nat) := by
    rw [signed_false, signed_false]
    push_cast
    ring
  have hpos : 0 < (n + 1) * one := Nat.mul_pos n.succ_pos quantaOfOne_pos
  rw [ofNat_eq (by decide), ofNat_eq (by omega : n < 2 ^ 53), add, hsum, if_neg (by omega), Int.natAbs_natCast,
    decide_eq_false (by omega)]
  rfl

lemma sub_one (s : Bool) {q : Nat} (h : FitsBinary64 q) :
    (finite s q h).sub (ofNat 1) =
      ofRatio (if signed s q - one = 0 then s else signed s q - one < 0) (signed s q - one).natAbs 1 := by
  have hsum : signed s q + signed true (1 * one) = signed s q - one := by
    rw [signed_true, Nat.one_mul, Int.sub_eq_add_neg]
  simp only [sub, ofNat_eq (by decide : 1 < 2 ^ 53), negate, add, hsum, Bool.not_false, Bool.and_true]

lemma isNan_ofRatio (negative : Bool) (num den : Nat) : (ofRatio negative num den).isNan = false := by
  dsimp only [ofRatio]
  split <;> rfl

lemma isNan_sub_one (h : x.isNan = false) : (x.sub (ofNat 1)).isNan = false := by
  rw [sub, ofNat_eq (by decide)]
  cases x with
  | finite s q hq => exact isNan_ofRatio _ _ _
  | infinite s => rfl
  | nan m => cases h

lemma Is.isZero_iff (h : x.Is i) : x.isZero = true ↔ i = 0 := by
  obtain ⟨s, q, hq, rfl, hi⟩ := h
  have hone : (one : Int) ≠ 0 := Int.natCast_ne_zero.mpr quantaOfOne_pos.ne'
  rw [isZero, zero, equal, hi, signed_false, beq_iff_eq]
  exact ⟨fun he => (Int.mul_eq_zero.mp he).resolve_right hone, fun he => by rw [he, Int.zero_mul, Int.natCast_zero]⟩

lemma isZero_ofNat (h : n < 2 ^ 53) : (ofNat n).isZero = decide (n = 0) := by
  rw [Bool.eq_iff_iff, (is_ofNat h).isZero_iff, decide_eq_true_iff]
  exact Int.natCast_eq_zero

lemma Is.isNan (h : x.Is i) : x.isNan = false := by
  obtain ⟨s, q, hq, rfl, -⟩ := h
  rfl

lemma Beyond.isNan (h : x.Beyond n) : x.isNan = false := by
  cases x with
  | nan m => exact h.elim
  | _ => rfl

lemma Is.sub_one (h : x.Is i) (hi : 0 < i) (hlt : i < 2 ^ 53) : (x.sub (ofNat 1)).Is (i - 1) := by
  obtain ⟨s, q, hq, rfl, hsigned⟩ := h
  have hv : signed s q - one = (i - 1) * one := by
    rw [hsigned]
    ring
  have hfits : FitsBinary64 (signed s q - one).natAbs := by
    rw [hv, Int.natAbs_mul, Int.natAbs_natCast]
    exact fits_of_lt (by omega)
  obtain ⟨t, ht, hsum⟩ := ofRatio_signed s hfits
  exact ⟨t, _, hfits, (Number.sub_one s hq).trans ht, hsum.trans hv⟩

lemma Is.sub_one_succ (h : x.Is (n + 1 : Nat)) (hn : n + 1 < 2 ^ 53) : (x.sub (ofNat 1)).Is n := by
  have hsub := h.sub_one (by omega) (by omega)
  simpa using hsub

lemma Is.not_isZero_succ (h : x.Is (n + 1 : Nat)) : ¬ x.isZero = true :=
  fun hzero => absurd (h.isZero_iff.mp hzero) (by omega)

lemma Is.beyond (h : x.Is i) (hi : i < 0 ∨ n < i) : x.Beyond n := by
  obtain ⟨s, q, hq, rfl, hsigned⟩ := h
  have hone : (0 : Int) < one := Int.natCast_pos.mpr quantaOfOne_pos
  simp only [Beyond, hsigned]
  rcases hi with hneg | hgt
  · exact .inl (Int.mul_neg_of_neg_of_pos hneg hone)
  · refine .inr ?_
    push_cast
    exact Int.mul_le_mul_of_nonneg_right (by omega) hone.le

lemma Beyond.not_isZero (h : x.Beyond n) : x.isZero = false := by
  cases x with
  | finite s q hq =>
    have hpos : 0 < (n + 1) * one := Nat.mul_pos n.succ_pos quantaOfOne_pos
    have hne : signed s q ≠ 0 := by
      rcases h with h | h <;> omega
    rw [isZero, zero, equal, signed_false]
    exact beq_false_of_ne hne
  | infinite s => rfl
  | nan m => exact h.elim

lemma le_roundQuanta {y num : Nat} (hy : FitsBinary64 y) (h : y ≤ num) : y ≤ roundQuanta num 1 := by
  rcases Nat.eq_zero_or_pos y with rfl | hpos
  · exact Nat.zero_le _
  have hnum : num ≠ 0 := (Nat.lt_of_lt_of_le hpos h).ne'
  have hlog : y.log2 ≤ num.log2 := (Nat.le_log2 hnum).mpr ((Nat.log2_self_le hpos.ne').trans h)
  rcases Nat.lt_or_eq_of_le hlog with hlt | heq
  · calc
      y ≤ 2 ^ num.log2 := (Nat.lt_log2_self.trans_le (Nat.pow_le_pow_right (by decide) hlt)).le
      _ ≤ roundQuanta num 1 := le_roundQuanta_one (Nat.log2_self_le hnum)
  · have hfits : y % 2 ^ (num.log2 - 52) = 0 := heq ▸ hy.1
    calc
      y = y / 2 ^ (num.log2 - 52) * 2 ^ (num.log2 - 52) :=
        (Nat.div_mul_cancel (Nat.dvd_of_mod_eq_zero hfits)).symm
      _ ≤ divideToEven num (2 ^ (num.log2 - 52)) * 2 ^ (num.log2 - 52) :=
        Nat.mul_le_mul_right _ ((Nat.div_le_div_right h).trans (div_le_divideToEven _ _))
      _ = roundQuanta num 1 := by simp only [roundQuanta, Nat.div_one, Nat.one_mul]

lemma Beyond.ofRatio {negative : Bool} {num : Nat}
    (h : negative = true ∧ one ≤ num ∨ negative = false ∧ (n + 1) * one ≤ num ∧ n + 1 < 2 ^ 53) :
    (ofRatio negative num 1).Beyond n := by
  dsimp only [Number.ofRatio]
  split
  · rcases h with ⟨rfl, hnum⟩ | ⟨rfl, hnum, hn⟩
    · have hpos := quantaOfOne_pos
      have hle : 1 * one ≤ roundQuanta num 1 := le_roundQuanta (fits_of_lt (by decide)) (by omega)
      refine .inl ?_
      rw [signed_true]
      omega
    · exact .inr (Int.ofNat_le.mpr (le_roundQuanta (fits_of_lt hn) hnum))
  · trivial

lemma Beyond.sub_one (hn : n + 1 < 2 ^ 53) (h : x.Beyond (n + 1)) : (x.sub (ofNat 1)).Beyond n := by
  cases x with
  | finite s q hq =>
    have hsum := Number.sub_one s hq
    have hpos : 0 < one ∧ 0 < (n + 1) * one := ⟨quantaOfOne_pos, Nat.mul_pos n.succ_pos quantaOfOne_pos⟩
    simp only [Beyond] at h
    rw [Nat.succ_mul] at h
    generalize signed s q = v at h hsum
    rw [hsum, if_neg (by omega)]
    rcases h with h | h
    · exact .ofRatio (.inl ⟨decide_eq_true (by omega), by omega⟩)
    · exact .ofRatio (.inr ⟨decide_eq_false (by omega), by omega, hn⟩)
  | infinite s =>
    rw [sub, ofNat_eq (by decide)]
    trivial
  | nan m => exact h.elim

end CurriedLisp.Number
