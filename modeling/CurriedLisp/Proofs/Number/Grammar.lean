import CurriedLisp.Number.Numeral
import CurriedLisp.Proofs.Text.Digits

namespace CurriedLisp

namespace Numeral

open Text

def Digits (text : List Char) : Prop := text ≠ [] ∧ ∀ c ∈ text, isDigit c

inductive Sign : List Char → Bool → Prop
  | absent : Sign [] false
  | plus : Sign ['+'] false
  | minus : Sign ['-'] true

inductive Significand : List Char → List Char → List Char → Prop
  | whole {whole : List Char} : Digits whole → Significand whole whole []
  | pointed {whole fraction : List Char} : Digits whole → (∀ c ∈ fraction, isDigit c) →
    Significand (whole ++ '.' :: fraction) whole fraction
  | bare {fraction : List Char} : Digits fraction → Significand ('.' :: fraction) [] fraction

inductive Exponent : List Char → Int → Prop
  | absent : Exponent [] 0
  | present {c : Char} {sign digits : List Char} {negative : Bool} : c = 'e' ∨ c = 'E' → Sign sign negative →
    Digits digits → Exponent (c :: (sign ++ digits)) (Number.signed negative (digitsValue digits))

inductive Writes : List Char → Decimal → Prop
  | parts {sign body tail whole fraction : List Char} {negative : Bool} {e : Int} : Sign sign negative →
    Significand body whole fraction → Exponent tail e →
    Writes (sign ++ (body ++ tail)) ⟨negative, digitsValue (whole ++ fraction), e - fraction.length⟩

/-- Takes the digits off the start of a text, at least where neither a digit nor an underscore follows them. -/
def Splits (span : List Char → List Char × List Char) : Prop :=
  ∀ digits rest, (∀ c ∈ digits, isDigit c) → (∀ c ∈ rest.head?, isDigit c = false ∧ c ≠ '_') →
    span (digits ++ rest) = (digits, rest)

section Reading

variable (span : List Char → List Char × List Char)

def fractionBy : List Char → List Char × List Char
  | '.' :: rest => span rest
  | text => ([], text)

def exponentBy : List Char → Option Int
  | [] => some 0
  | c :: rest =>
    if c = 'e' ∨ c = 'E' then
      let (negative, body) := splitSign rest
      let (digits, after) := span body
      if digits.isEmpty || !after.isEmpty then none else some (Number.signed negative (digitsValue digits))
    else none

def decimalBy (text : List Char) : Option Decimal :=
  let (negative, body) := splitSign text
  let (whole, afterWhole) := span body
  let (fraction, rest) := fractionBy span afterWhole
  if whole.isEmpty && fraction.isEmpty then none
  else (exponentBy span rest).map fun exponent =>
    ⟨negative, digitsValue (whole ++ fraction), exponent - fraction.length⟩

end Reading

variable {span : List Char → List Char × List Char} {text sign digits body tail rest whole fraction : List Char}
  {negative : Bool} {e : Int} {d : Decimal}

lemma splitSign_append (hs : Sign sign negative) (hr : ∀ c ∈ rest.head?, c ≠ '+' ∧ c ≠ '-') :
    splitSign (sign ++ rest) = (negative, rest) := by
  cases hs with
  | plus => rfl
  | minus => rfl
  | absent =>
    rw [List.nil_append, splitSign.eq_def]
    split
    · exact absurd rfl (hr '-' rfl).2
    · exact absurd rfl (hr '+' rfl).1
    · rfl

lemma exists_sign : splitSign text = (negative, rest) → ∃ sign, Sign sign negative ∧ text = sign ++ rest := by
  fun_cases splitSign text with
  | case1 =>
    rintro ⟨⟩
    exact ⟨['-'], .minus, rfl⟩
  | case2 =>
    rintro ⟨⟩
    exact ⟨['+'], .plus, rfl⟩
  | case3 =>
    rintro ⟨⟩
    exact ⟨[], .absent, rfl⟩

lemma ne_sign_of_isDigit {c : Char} (h : isDigit c) : c ≠ '+' ∧ c ≠ '-' := by
  constructor
  · rintro rfl
    exact absurd h (by decide)
  · rintro rfl
    exact absurd h (by decide)

lemma Digits.head (h : Digits digits) (rest : List Char) : ∀ c ∈ (digits ++ rest).head?, c ≠ '+' ∧ c ≠ '-' := by
  obtain ⟨c, others, rfl⟩ := List.exists_cons_of_ne_nil h.1
  rintro _ ⟨⟩
  exact ne_sign_of_isDigit (h.2 c List.mem_cons_self)

lemma Significand.head (h : Significand body whole fraction) (rest : List Char) :
    ∀ c ∈ (body ++ rest).head?, c ≠ '+' ∧ c ≠ '-' := by
  cases h with
  | whole hw => exact hw.head rest
  | pointed hw _ =>
    rw [List.append_assoc]
    exact hw.head _
  | bare _ =>
    rintro _ ⟨⟩
    decide

lemma Exponent.head (h : Exponent tail e) : ∀ c ∈ tail.head?, (isDigit c = false ∧ c ≠ '_') ∧ c ≠ '.' := by
  cases h with
  | absent => nofun
  | present hc _ _ =>
    rintro _ ⟨⟩
    rcases hc with rfl | rfl <;> decide

lemma fractionBy_of_head (hr : ∀ c ∈ rest.head?, c ≠ '.') : fractionBy span rest = ([], rest) := by
  rw [fractionBy.eq_def]
  split
  · exact absurd rfl (hr '.' rfl)
  · rfl

lemma Splits.all (h : Splits span) (hd : ∀ c ∈ digits, isDigit c) : span digits = (digits, []) := by
  have hspan := h digits [] hd nofun
  rwa [List.append_nil] at hspan

lemma Significand.split (hs : Splits span) (h : Significand body whole fraction) (ht : Exponent tail e) :
    ∃ after, span (body ++ tail) = (whole, after) ∧ fractionBy span after = (fraction, tail) := by
  have hstop : ∀ c ∈ tail.head?, isDigit c = false ∧ c ≠ '_' := fun c hc => (ht.head c hc).1
  have hpoint : ∀ c ∈ ('.' :: (fraction ++ tail)).head?, isDigit c = false ∧ c ≠ '_' := by
    rintro _ ⟨⟩
    decide
  cases h with
  | whole hw => exact ⟨tail, hs body tail hw.2 hstop, fractionBy_of_head fun c hc => (ht.head c hc).2⟩
  | pointed hw hf =>
    rw [List.append_assoc]
    exact ⟨_, hs whole _ hw.2 hpoint, hs fraction tail hf hstop⟩
  | bare hf => exact ⟨_, hs [] _ nofun hpoint, hs fraction tail hf.2 hstop⟩

lemma Significand.not_isEmpty (h : Significand body whole fraction) :
    (whole.isEmpty && fraction.isEmpty) = false := by
  cases h with
  | whole hw => simp [hw.1]
  | pointed hw _ => simp [hw.1]
  | bare hf => simp [hf.1]

lemma Exponent.read (hs : Splits span) (h : Exponent tail e) : exponentBy span tail = some e := by
  cases h with
  | absent => rfl
  | @present c sign digits negative hc hsign hd =>
    have hhead := hd.head []
    rw [List.append_nil] at hhead
    simp [exponentBy, hc, splitSign_append hsign hhead, hs.all hd.2, hd.1]

lemma Writes.read (hs : Splits span) (h : Writes text d) : decimalBy span text = some d := by
  cases h with
  | parts hsign hbody htail =>
    obtain ⟨after, hwhole, hfraction⟩ := hbody.split hs htail
    simp [decimalBy, splitSign_append hsign (hbody.head _), hwhole, hfraction, hbody.not_isEmpty, htail.read hs]

lemma splits_splitDigits : Splits splitDigits := by
  intro digits rest hd hr
  have htake : rest.takeWhile isDigit = [] := by
    cases rest with
    | nil => rfl
    | cons c rest => exact List.takeWhile_cons_of_neg (by simp [(hr c rfl).1])
  have hdrop : rest.dropWhile isDigit = rest := by
    cases rest with
    | nil => rfl
    | cons c rest => exact List.dropWhile_cons_of_neg (by simp [(hr c rfl).1])
  rw [splitDigits, List.takeWhile_append_of_pos hd, List.dropWhile_append_of_pos hd, htake, hdrop, List.append_nil]

lemma splitDigits_parts {after : List Char} (h : splitDigits text = (digits, after)) :
    (∀ c ∈ digits, isDigit c) ∧ text = digits ++ after := by
  obtain ⟨rfl, rfl⟩ := Prod.mk.inj h
  exact ⟨fun c hc => List.all_eq_true.mp List.all_takeWhile c hc, List.takeWhile_append_dropWhile.symm⟩

lemma readExponent_eq (text : List Char) : readExponent text = exponentBy splitDigits text := by
  fun_cases readExponent text with
  | case1 => rfl
  | case2 c rest hc negative body hsign hnone =>
    cases hspan : splitDigits body with
    | mk digits after =>
      obtain ⟨hd, rfl⟩ := splitDigits_parts hspan
      -- Digits to the end that are refused are none at all.
      cases after with
      | nil =>
        have hall : digits.all isDigit := List.all_eq_true.mpr hd
        rw [List.append_nil] at hnone hsign hspan
        have hnil : digits.isEmpty := by simpa [hall] using hnone
        simp [exponentBy, hc, hsign, hspan, hnil]
      | cons => simp [exponentBy, hc, hsign, hspan]
  | case3 c rest hc negative digits hsign hsome =>
    rw [Bool.or_eq_true, not_or, Bool.not_eq_true', Bool.not_eq_false, List.all_eq_true] at hsome
    simp [exponentBy, hc, hsign, splits_splitDigits.all hsome.2, hsome.1, Number.signed]
  | case4 c rest hc => simp [exponentBy, hc]

lemma read?_eq_decimalBy (text : List Char) : read? text = decimalBy splitDigits text := by
  simp only [read?, decimalBy, readExponent_eq]
  rfl

lemma exponent_of_read : exponentBy splitDigits text = some e → Exponent text e := by
  fun_cases exponentBy splitDigits text with
  | case1 =>
    rintro ⟨⟩
    exact .absent
  | case2 => nofun
  | case3 c rest hc negative body hsplit digits after hspan hne =>
    rintro ⟨⟩
    obtain ⟨sign, hsign, rfl⟩ := exists_sign hsplit
    obtain ⟨hd, rfl⟩ := splitDigits_parts hspan
    simp only [Bool.or_eq_true, not_or, List.isEmpty_iff, Bool.not_eq_true', Bool.not_eq_false] at hne
    obtain ⟨hne, rfl⟩ := hne
    rw [List.append_nil]
    exact .present hc hsign ⟨hne, hd⟩
  | case4 => nofun

lemma exists_significand {after : List Char} (hne : ¬ (whole.isEmpty && fraction.isEmpty) = true)
    (hw : splitDigits text = (whole, after)) :
    fractionBy splitDigits after = (fraction, rest) →
      ∃ body, Significand body whole fraction ∧ text = body ++ rest := by
  obtain ⟨hwhole, rfl⟩ := splitDigits_parts hw
  simp only [Bool.and_eq_true, List.isEmpty_iff] at hne
  fun_cases fractionBy splitDigits after with
  | case1 later =>
    intro hf
    obtain ⟨hfraction, rfl⟩ := splitDigits_parts hf
    -- Without digits before the point there are some after it.
    by_cases h : whole = []
    · subst h
      exact ⟨'.' :: fraction, .bare ⟨fun h => hne ⟨rfl, h⟩, hfraction⟩, rfl⟩
    · exact ⟨whole ++ '.' :: fraction, .pointed ⟨h, hwhole⟩ hfraction, by simp⟩
  | case2 =>
    rintro ⟨⟩
    exact ⟨whole, .whole ⟨fun h => hne ⟨h, rfl⟩, hwhole⟩, rfl⟩

lemma writes_of_read : decimalBy splitDigits text = some d → Writes text d := by
  fun_cases decimalBy splitDigits text with
  | case1 => nofun
  | case2 negative body hsplit whole after hw fraction rest hf hne =>
    intro h
    obtain ⟨e, he, rfl⟩ := Option.map_eq_some_iff.mp h
    obtain ⟨sign, hsign, rfl⟩ := exists_sign hsplit
    obtain ⟨written, hwritten, rfl⟩ := exists_significand hne hw hf
    exact .parts hsign hwritten (exponent_of_read he)

theorem read?_eq_some_iff : read? text = some d ↔ Writes text d := by
  rw [read?_eq_decimalBy]
  exact ⟨writes_of_read, Writes.read splits_splitDigits⟩

lemma Significand.ne_nil (h : Significand body whole fraction) : body ≠ [] := by
  cases h with
  | whole hw => exact hw.1
  | pointed _ _ => simp
  | bare _ => simp

lemma isAtomChar_of_digits (h : ∀ c ∈ text, isDigit c) : ∀ c ∈ text, Lexer.isAtomChar c :=
  fun c hc => isAtomChar_of_isDigit (h c hc)

lemma Sign.isAtomChar (h : Sign sign negative) : ∀ c ∈ sign, Lexer.isAtomChar c := by
  cases h with
  | absent => nofun
  | _ => exact List.forall_mem_singleton.mpr (by decide)

lemma Significand.isAtomChar (h : Significand body whole fraction) : ∀ c ∈ body, Lexer.isAtomChar c := by
  have hpoint : Lexer.isAtomChar '.' := by decide
  cases h with
  | whole hw => exact isAtomChar_of_digits hw.2
  | pointed hw hf =>
    rw [List.forall_mem_append, List.forall_mem_cons]
    exact ⟨isAtomChar_of_digits hw.2, hpoint, isAtomChar_of_digits hf⟩
  | bare hf => exact List.forall_mem_cons.mpr ⟨hpoint, isAtomChar_of_digits hf.2⟩

lemma Exponent.isAtomChar (h : Exponent tail e) : ∀ c ∈ tail, Lexer.isAtomChar c := by
  cases h with
  | absent => nofun
  | present hc hsign hd =>
    rw [List.forall_mem_cons, List.forall_mem_append]
    refine ⟨?_, hsign.isAtomChar, isAtomChar_of_digits hd.2⟩
    rcases hc with rfl | rfl <;> decide

lemma Writes.isAtom (h : Writes text d) : text ≠ [] ∧ ∀ c ∈ text, Lexer.isAtomChar c := by
  cases h with
  | parts hsign hbody htail =>
    constructor
    · simp [hbody.ne_nil]
    · rw [List.forall_mem_append, List.forall_mem_append]
      exact ⟨hsign.isAtomChar, hbody.isAtomChar, htail.isAtomChar⟩

end Numeral

def IsNumeral (text : List Char) : Prop := ∃ d, Numeral.Writes text d

theorem isNumeral_iff {text : List Char} : IsNumeral text ↔ (Numeral.read? text).isSome := by
  simp only [IsNumeral, Option.isSome_iff_exists, Numeral.read?_eq_some_iff]

instance : DecidablePred IsNumeral := fun _ => decidable_of_iff' _ isNumeral_iff

example : (∀ text ∈ ["5.", "-.5", "+4", "2.5E-2", "\u0663e3"], IsNumeral text.toList) ∧ ¬ IsNumeral "1a".toList := by
  decide +kernel

end CurriedLisp
