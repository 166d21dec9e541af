import CurriedLisp.Proofs.Number.Grammar

namespace CurriedLisp

namespace Text

lemma dropWhile_of_forall {p : Char → Bool} {text : List Char} (h : ∀ c ∈ text, p c = false) :
    text.dropWhile p = text := by
  cases text with
  | nil => rfl
  | cons c rest => simp [h c List.mem_cons_self]

lemma trimBy_of_forall {p : Char → Bool} {text : List Char} (h : ∀ c ∈ text, p c = false) :
    trimBy p text = text := by
  rw [trimBy, dropWhile_of_forall h, dropWhile_of_forall (by simpa using h), List.reverse_reverse]

end Text

namespace Number

open Text Numeral

def spanPart : List Char → List Char × List Char
  | '_' :: rest => ([], '_' :: rest)
  | text => spanDigits text

def ofName? (text : List Char) : Option Number :=
  let (negative, body) := splitSign text
  let name := String.ofList (body.map Char.toLower)
  if name = "inf" ∨ name = "infinity" then some (.infinite negative)
  else if name = "nan" then some (.nan 0)
  else none

def ofText? (text : List Char) : Option Number :=
  let body := trimBy isMargin text
  match decimalBy spanPart body with
  | some d => some d.toNumber
  | none => ofName? body

example : ofText? " -Infinity\n".toList = some (.infinite true) := by decide +kernel

example : ofText? "1_0".toList = some (ofNat 10) ∧ ofText? "1__0".toList = none := by decide +kernel

lemma spanDigits_append {digits rest : List Char} (hd : ∀ c ∈ digits, isDigit c)
    (hr : ∀ c ∈ rest.head?, isDigit c = false ∧ c ≠ '_') : spanDigits (digits ++ rest) = (digits, rest) := by
  induction digits with
  | nil =>
    cases rest with
    | nil => rfl
    | cons c rest =>
      obtain ⟨hc, hu⟩ := hr c rfl
      rw [List.nil_append, spanDigits.eq_2 _ _ fun _ _ h _ => hu h, hc]
      rfl
  | cons c digits ih =>
    obtain ⟨hc, hd⟩ := List.forall_mem_cons.mp hd
    have hu : c ≠ '_' := by
      rintro rfl
      exact absurd hc (by decide)
    rw [List.cons_append, spanDigits.eq_2 _ _ fun _ _ h _ => hu h, if_pos hc, ih hd]

lemma splits_spanPart : Splits spanPart := by
  intro digits rest hd hr
  have hstart : ∀ c ∈ (digits ++ rest).head?, c ≠ '_' := by
    cases digits with
    | nil => exact fun c hc => (hr c hc).2
    | cons c digits =>
      rintro _ ⟨⟩ rfl
      exact absurd (hd '_' List.mem_cons_self) (by decide)
  rw [spanPart.eq_def]
  split
  · next h =>
    rw [h] at hstart
    exact absurd rfl (hstart '_' rfl)
  · exact spanDigits_append hd hr

lemma isMargin_of_isAtomChar {c : Char} (h : Lexer.isAtomChar c) : isMargin c = false := by
  simp_all [Lexer.isAtomChar, isMargin]

lemma ofText?_of_writes {text : List Char} {d : Decimal} (h : Writes text d) : ofText? text = some d.toNumber := by
  have htrim : trimBy isMargin text = text :=
    trimBy_of_forall fun c hc => isMargin_of_isAtomChar (h.isAtom.2 c hc)
  rw [ofText?, htrim, h.read splits_spanPart]

end Number

end CurriedLisp
