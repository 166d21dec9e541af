import CurriedLisp.Syntax.Lexer
import CurriedLisp.Text.Digit
import Mathlib.Tactic.Lemma

namespace CurriedLisp.Text

lemma digitValue?_digitChar {d : Nat} (h : d < 10) : digitValue? d.digitChar = some d := by
  revert d
  decide

lemma isDigit_digitChar {d : Nat} (h : d < 10) : isDigit d.digitChar := by
  rw [isDigit, digitValue?_digitChar h]
  rfl

lemma isDigit_zero : isDigit '0' := isDigit_digitChar (d := 0) (by decide)

lemma foldl_digits (n : Nat) (digits : List Char) :
    digits.foldl (fun n c => 10 * n + (digitValue? c).getD 0) n =
      n * 10 ^ digits.length + digitsValue digits := by
  unfold digitsValue
  induction digits generalizing n with
  | nil => simp
  | cons c rest ih =>
    rw [List.foldl_cons, List.foldl_cons, ih, ih (10 * 0 + _), List.length_cons, Nat.pow_succ', Nat.add_mul,
      Nat.mul_zero, Nat.zero_add, Nat.add_assoc]
    simp only [Nat.mul_assoc, Nat.mul_left_comm]

lemma digitsValue_append (xs ys : List Char) :
    digitsValue (xs ++ ys) = digitsValue xs * 10 ^ ys.length + digitsValue ys := by
  rw [← foldl_digits, digitsValue, List.foldl_append, ← digitsValue]

lemma digitsValue_zeros (k : Nat) : digitsValue (List.replicate k '0') = 0 := by
  induction k with
  | zero => rfl
  | succ k ih =>
    rw [List.replicate_succ', digitsValue_append, ih]
    rfl

lemma digitsValue_zeros_append (k : Nat) (digits : List Char) :
    digitsValue (List.replicate k '0' ++ digits) = digitsValue digits := by
  rw [digitsValue_append, digitsValue_zeros, Nat.zero_mul, Nat.zero_add]

lemma digitsValue_append_zeros (digits : List Char) (k : Nat) :
    digitsValue (digits ++ List.replicate k '0') = digitsValue digits * 10 ^ k := by
  rw [digitsValue_append, digitsValue_zeros, List.length_replicate, Nat.add_zero]

lemma isDigit_of_mem_zeros {k : Nat} : ∀ c ∈ List.replicate k '0', isDigit c := by
  intro c hc
  rw [List.eq_of_mem_replicate hc]
  exact isDigit_zero

lemma digitsValue_toDigits (n : Nat) : digitsValue (Nat.toDigits 10 n) = n := by
  induction n using Nat.strongRecOn with
  | ind n ih =>
    have hlast : digitsValue [(n % 10).digitChar] = n % 10 := by
      simp [digitsValue, digitValue?_digitChar (Nat.mod_lt n (by decide : 0 < 10))]
    rw [Nat.toDigits_eq_if (by decide)]
    split
    case isTrue h =>
      rw [Nat.mod_eq_of_lt h] at hlast
      exact hlast
    case isFalse h =>
      rw [digitsValue_append, ih (n / 10) (by omega), hlast]
      exact Nat.div_add_mod' n 10

lemma isDigit_of_mem_toDigits (n : Nat) : ∀ c ∈ Nat.toDigits 10 n, isDigit c := by
  induction n using Nat.strongRecOn with
  | ind n ih =>
    rw [Nat.toDigits_eq_if (by decide)]
    split
    case isTrue h =>
      intro c hc
      rw [List.mem_singleton.mp hc]
      exact isDigit_digitChar h
    case isFalse h =>
      intro c hc
      rcases List.mem_append.mp hc with hc | hc
      · exact ih (n / 10) (by omega) c hc
      · rw [List.mem_singleton.mp hc]
        exact isDigit_digitChar (Nat.mod_lt n (by decide))

lemma plain_of_digitZeros : ∀ start ∈ digitZeros, ∀ i < 10,
    blankBounds.countP (· ≤ start + i) % 2 = 0 ∧
      start + i ∉ ['(', ')', '\x7b', '\x7d', '"', ';'].map Char.toNat := by
  decide +kernel

lemma isAtomChar_of_isDigit {c : Char} (h : isDigit c) : Lexer.isAtomChar c := by
  obtain ⟨value, hvalue⟩ := Option.isSome_iff_exists.mp h
  obtain ⟨start, hfound, -⟩ := Option.map_eq_some_iff.mp hvalue
  have hcheck := List.find?_some hfound
  have hrange := of_decide_eq_true hcheck
  obtain ⟨hblank, hdelimiter⟩ :=
    plain_of_digitZeros start (List.mem_of_find?_eq_some hfound) (c.toNat - start) (by omega)
  rw [Nat.add_sub_cancel' hrange.1] at hblank hdelimiter
  have hne : ∀ d ∈ ['(', ')', '\x7b', '\x7d', '"', ';'], c ≠ d := by
    rintro d hd rfl
    exact hdelimiter (List.mem_map_of_mem hd)
  simp only [List.mem_cons, List.not_mem_nil, or_false, forall_eq_or_imp, forall_eq] at hne
  simp [Lexer.isAtomChar, isBlank, inRuns, hblank, Lexer.isDelimiter, hne]

end CurriedLisp.Text
