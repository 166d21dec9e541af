import CurriedLisp.Number.Layout
import CurriedLisp.Proofs.Number.Grammar
import CurriedLisp.Proofs.Number.Nearest

namespace CurriedLisp

open Text

namespace Numeral

variable {sign body whole fraction : List Char}

def signText (negative : Bool) : List Char := if negative then ['-'] else []

lemma digits_zero : Digits ['0'] := ⟨List.cons_ne_nil _ _, List.forall_mem_singleton.mpr isDigit_zero⟩

lemma digits_toDigits (n : Nat) : Digits (Nat.toDigits 10 n) := ⟨Nat.toDigits_ne_nil, isDigit_of_mem_toDigits n⟩

lemma sign_signText (negative : Bool) : Sign (signText negative) negative := by
  cases negative with
  | true => exact .minus
  | false => exact .absent

lemma Significand.writes {negative : Bool} (h : Significand body whole fraction) (hs : Sign sign negative) :
    Writes (sign ++ body) ⟨negative, digitsValue (whole ++ fraction), -fraction.length⟩ := by
  have hw : Writes (sign ++ (body ++ [])) ⟨negative, digitsValue (whole ++ fraction), 0 - fraction.length⟩ :=
    .parts hs h .absent
  rwa [List.append_nil, Int.zero_sub] at hw

end Numeral

namespace Layout

open Numeral

variable {digits : List Char} (negative : Bool)

lemma positional_small (digits : List Char) {before : Int} (h : before ≤ 0) :
    (positional digits before).toList = ['0'] ++ '.' :: (List.replicate (-before).toNat '0' ++ digits) := by
  simp [positional, h]

lemma positional_inside {before : Int} (h : 0 < before) (hlt : before.toNat < digits.length) :
    (positional digits before).toList = digits.take before.toNat ++ '.' :: digits.drop before.toNat := by
  have hfraction : (digits.drop before.toNat).isEmpty = false := by
    simp only [List.isEmpty_eq_false_iff, ne_eq, List.drop_eq_nil_iff]
    omega
  simp [positional, Int.not_le.mpr h, hfraction, Nat.sub_eq_zero_of_le (Nat.le_of_lt hlt)]

lemma positional_beyond {before : Int} (h : 0 < before) (hle : digits.length ≤ before.toNat) :
    (positional digits before).toList =
      digits ++ List.replicate (before.toNat - digits.length) '0' ++ '.' :: ['0'] := by
  simp [positional, Int.not_le.mpr h, List.take_of_length_le hle, List.drop_of_length_le hle]

lemma writes_positional (hd : Digits digits) (before : Int) :
    ∃ d, Writes (signText negative ++ (positional digits before).toList) d ∧
      d.toNumber = Decimal.toNumber ⟨negative, digitsValue digits, before - digits.length⟩ := by
  have hsign := sign_signText negative
  by_cases h : before ≤ 0
  · have hfraction : ∀ c ∈ List.replicate (-before).toNat '0' ++ digits, isDigit c := by
      intro c hc
      exact (List.mem_append.mp hc).elim (isDigit_of_mem_zeros c) (hd.2 c)
    refine ⟨_, ?_, rfl⟩
    have hwritten := (Significand.pointed digits_zero hfraction).writes hsign
    have hvalue : digitsValue (['0'] ++ (List.replicate (-before).toNat '0' ++ digits)) =
        digitsValue digits := by
      rw [← List.append_assoc, ← List.replicate_one, List.replicate_append_replicate,
        digitsValue_zeros_append]
    have hexp : -((List.replicate (-before).toNat '0' ++ digits).length : Int) = before - digits.length := by
      rw [List.length_append, List.length_replicate]
      omega
    rwa [hvalue, hexp, ← positional_small digits h] at hwritten
  rw [Int.not_le] at h
  rcases Nat.lt_or_ge before.toNat digits.length with hlt | hle
  · refine ⟨_, ?_, rfl⟩
    have htake : digits.take before.toNat ≠ [] := by
      simp only [ne_eq, List.take_eq_nil_iff, hd.1, or_false]
      omega
    have hwhole : Digits (digits.take before.toNat) := ⟨htake, fun c hc => hd.2 c (List.mem_of_mem_take hc)⟩
    have hfraction : ∀ c ∈ digits.drop before.toNat, isDigit c := fun c hc => hd.2 c (List.mem_of_mem_drop hc)
    have hwritten := (Significand.pointed hwhole hfraction).writes hsign
    have hexp : -((digits.length - before.toNat : Nat) : Int) = before - digits.length := by omega
    rwa [List.take_append_drop, List.length_drop, hexp, ← positional_inside h hlt] at hwritten
  · let zeros := before.toNat - digits.length
    have hwhole : Digits (digits ++ List.replicate zeros '0') := by
      refine ⟨by simp [hd.1], ?_⟩
      intro c hc
      exact (List.mem_append.mp hc).elim (hd.2 c) (isDigit_of_mem_zeros c)
    have hwritten := (Significand.pointed hwhole digits_zero.2).writes hsign
    rw [← positional_beyond h hle] at hwritten
    refine ⟨_, hwritten, ?_⟩
    have hvalue : digitsValue (digits ++ List.replicate zeros '0' ++ ['0']) =
        digitsValue digits * 10 ^ (zeros + 1) := by
      rw [List.append_assoc, ← List.replicate_one, List.replicate_append_replicate,
        digitsValue_append_zeros]
    have hexp : -(['0'].length : Int) + (zeros + 1 : Nat) = before - digits.length := by
      simp only [List.length_singleton, zeros]
      omega
    rw [hvalue, Decimal.toNumber_shift, hexp]

lemma exponentText_toList (l : Layout) (e : Int) : (l.exponentText e).toList =
    'e' :: (if e < 0 then '-' else '+') ::
      (List.replicate (l.exponentWidth - e.natAbs.repr.length) '0' ++ Nat.toDigits 10 e.natAbs) := by
  unfold exponentText padded
  split <;> simp [Nat.toList_repr]

lemma exponent_exponentText (l : Layout) (e : Int) : Exponent (l.exponentText e).toList e := by
  let digits := List.replicate (l.exponentWidth - e.natAbs.repr.length) '0' ++ Nat.toDigits 10 e.natAbs
  have hdigits : Digits digits := by
    refine ⟨by simp [digits, Nat.toDigits_ne_nil], ?_⟩
    intro c hc
    exact (List.mem_append.mp hc).elim (isDigit_of_mem_zeros c) (isDigit_of_mem_toDigits e.natAbs c)
  have hvalue : digitsValue digits = e.natAbs := by rw [digitsValue_zeros_append, digitsValue_toDigits]
  have hpresent : ∀ {sign : List Char} {negative : Bool}, Sign sign negative →
      Exponent ('e' :: (sign ++ digits)) (Number.signed negative e.natAbs) := by
    intro sign negative hsign
    rw [← hvalue]
    exact .present (.inl rfl) hsign hdigits
  rw [exponentText_toList]
  split
  case isTrue h =>
    have he : Number.signed true e.natAbs = e := by
      simp only [Number.signed, if_true]
      omega
    have hminus := hpresent .minus
    rwa [he] at hminus
  case isFalse h =>
    have he : Number.signed false e.natAbs = e := by
      simp only [Number.signed, Bool.false_eq_true, if_false]
      omega
    have hplus := hpresent .plus
    rwa [he] at hplus

lemma writes_scientific (l : Layout) (hd : Digits digits) (e : Int) :
    Writes (signText negative ++ (l.scientific digits e).toList)
      ⟨negative, digitsValue digits, e + 1 - digits.length⟩ := by
  obtain ⟨c, others, rfl⟩ := List.exists_cons_of_ne_nil hd.1
  have hc : Digits [c] := ⟨List.cons_ne_nil c [], List.forall_mem_singleton.mpr (hd.2 c List.mem_cons_self)⟩
  have hothers : ∀ a ∈ others, isDigit a := fun a ha => hd.2 a (List.mem_cons_of_mem c ha)
  have hexp : e - others.length = e + 1 - (c :: others).length := by
    rw [List.length_cons]
    omega
  have hsign := sign_signText negative
  have hexponent := exponent_exponentText l e
  rw [← hexp]
  cases others with
  | nil =>
    have htext : (l.scientific [c] e).toList = [c] ++ (l.exponentText e).toList := by simp [scientific]
    rw [htext]
    exact .parts hsign (.whole hc) hexponent
  | cons a more =>
    have htext : (l.scientific (c :: a :: more) e).toList =
        ([c] ++ '.' :: a :: more) ++ (l.exponentText e).toList := by
      simp [scientific]
    rw [htext]
    exact .parts hsign (.pointed hc hothers) hexponent

lemma writes_write (l : Layout) (d : Decimal) :
    ∃ d', Writes (l.write d).toList d' ∧ d'.toNumber = d.toNumber := by
  obtain ⟨negative, digits, exponent⟩ := d
  have hd : Digits (Nat.toDigits 10 digits) := digits_toDigits digits
  let e := exponent + (Nat.toDigits 10 digits).length - 1
  have hexp : e + 1 - (Nat.toDigits 10 digits).length = exponent := by
    simp only [e]
    omega
  have htext : (l.write ⟨negative, digits, exponent⟩).toList = signText negative ++
      (if l.positionalFrom ≤ e ∧ e ≤ l.positionalTo then positional (Nat.toDigits 10 digits) (e + 1)
        else l.scientific (Nat.toDigits 10 digits) e).toList := by
    cases negative <;> simp [write, signText, Nat.toList_repr, e]
  rw [htext]
  split
  case isTrue =>
    obtain ⟨d', hwritten, hnumber⟩ := writes_positional negative hd (e + 1)
    rw [digitsValue_toDigits, hexp] at hnumber
    exact ⟨d', hwritten, hnumber⟩
  case isFalse =>
    refine ⟨_, writes_scientific negative l hd e, ?_⟩
    rw [digitsValue_toDigits, hexp]

end Layout

namespace Number

open Numeral

lemma isNan_of_isFinite {n : Number} (h : n.isFinite) : n.isNan = false := by
  cases n with
  | nan mark => cases h
  | _ => rfl

lemma equal_of_signed {s t : Bool} {q : Nat} {h h' : FitsBinary64 q} (hst : q = 0 ∨ s = t) :
    (finite s q h).equal (finite t q h') = true := by
  rcases hst with rfl | rfl
  · cases s <;> cases t <;> rfl
  · exact beq_self_eq_true _

lemma toNumber_of_whole (negative : Bool) {quanta : Nat} (fits : FitsBinary64 quanta)
    (h : quanta % one = 0) : Decimal.toNumber ⟨negative, quanta / one, 0⟩ = finite negative quanta fits := by
  rw [Decimal.toNumber_eq, ← ofRatio_of_fits negative fits]
  show ofRatio negative (quanta / one * 1 * one) 1 = _
  rw [Nat.mul_one, Nat.div_mul_cancel (Nat.dvd_of_mod_eq_zero h)]

/-- Numbers are read back as equal ones. The sign of a zero is lost. -/
theorem read?_text {n : Number} (h : n.isFinite) :
    ∃ d, Numeral.read? n.text.toList = some d ∧ n.equal d.toNumber = true := by
  cases n with
  | infinite s => cases h
  | nan mark => cases h
  | finite s q fits =>
    rw [text]
    split
    case isTrue hwhole =>
      let negative := decide (s = true ∧ q ≠ 0)
      have htext : ((if s = true ∧ q ≠ 0 then "-" else "") ++ (q / one).repr).toList =
          signText negative ++ Nat.toDigits 10 (q / one) := by
        by_cases hs : s = true ∧ q ≠ 0
        · simp [hs, negative, signText, Nat.toList_repr]
        · simp only [hs, negative, signText, Nat.toList_repr, if_false, String.toList_append]
          simp
      have hwritten := (Significand.whole (digits_toDigits (q / one))).writes (sign_signText negative)
      rw [List.append_nil] at hwritten
      refine ⟨⟨negative, digitsValue (Nat.toDigits 10 (q / one)), 0⟩, ?_, ?_⟩
      · rw [htext]
        exact read?_eq_some_iff.mpr hwritten
      · rw [digitsValue_toDigits, toNumber_of_whole negative fits hwhole.1]
        apply equal_of_signed
        by_cases hq : q = 0
        · exact .inl hq
        · exact .inr (by simp [negative, hq])
    case isFalse =>
      obtain ⟨d, hwritten, hnumber⟩ := Layout.writes_write .standard (shortest s q fits)
      refine ⟨d, read?_eq_some_iff.mpr hwritten, ?_⟩
      rw [hnumber, shortest_toNumber]
      exact equal_of_signed (.inr rfl)

end Number

end CurriedLisp
