import CurriedLisp.Proofs.Syntax.Coverage

namespace CurriedLisp

open Text

namespace Lexer

structure Piece where
  gap : List Char
  token : Token

def Piece.text (p : Piece) : List Char := p.gap ++ p.token.lexeme.text.toList

def written (pieces : List Piece) : List Char := pieces.flatMap Piece.text

def Laid (line : Nat) (pieces : List Piece) (rest : List Char) : Prop :=
  ∀ before p after, pieces = before ++ p :: after →
    Gap p.gap ∧ p.token.lexeme.WellFormed ∧ p.token.lexeme.StopsBefore (written after ++ rest) ∧
      p.token.line = line + newlines (written before ++ p.gap)

def Ends (line : Nat) (rest : List Char) : Option Nat → Prop
  | none => LastGap rest
  | some quote => ∃ gap after, rest = gap ++ '"' :: after ∧ Gap gap ∧ Unclosed after ∧
      quote = line + newlines gap

variable {line : Nat} {text rest : List Char} {p : Piece} {pieces : List Piece} {l : Lexed}

lemma written_cons (p : Piece) (pieces : List Piece) : written (p :: pieces) = p.text ++ written pieces :=
  List.flatMap_cons

lemma laid_nil (line : Nat) (rest : List Char) : Laid line [] rest := by
  intro before p after h
  simp at h

lemma laid_cons :
    Laid line (p :: pieces) rest ↔
      (Gap p.gap ∧ p.token.lexeme.WellFormed ∧ p.token.lexeme.StopsBefore (written pieces ++ rest) ∧
        p.token.line = line + newlines p.gap) ∧ Laid (line + newlines p.text) pieces rest := by
  have hline : ∀ before (q : Piece), line + newlines (written (p :: before) ++ q.gap) =
      line + newlines p.text + newlines (written before ++ q.gap) := by
    intro before q
    rw [written_cons, List.append_assoc, newlines_append, Nat.add_assoc]
  constructor
  · intro h
    refine ⟨h [] p pieces rfl, ?_⟩
    rintro before q after rfl
    rw [← hline]
    exact h (p :: before) q after rfl
  · rintro ⟨hp, h⟩ before q after heq
    cases before with
    | nil =>
      obtain ⟨rfl, rfl⟩ := List.cons.inj heq
      exact hp
    | cons r before =>
      obtain ⟨rfl, rfl⟩ := List.cons.inj heq
      rw [hline]
      exact h before q after rfl

lemma Covers.exists_laid (h : Covers line text l) :
    ∃ pieces rest, text = written pieces ++ rest ∧ l.tokens = pieces.map Piece.token ∧
      Laid line pieces rest ∧ Ends (line + newlines (written pieces)) rest l.unclosed := by
  induction h with
  | @last line gap hg => exact ⟨[], gap, rfl, rfl, laid_nil line gap, hg⟩
  | @unclosed line gap rest hg hr => exact ⟨[], _, rfl, rfl, laid_nil line _, gap, rest, rfl, hg, hr, rfl⟩
  | @token line gap rest lexeme l hg hw hs _ ih =>
    obtain ⟨pieces, after, rfl, htokens, hlaid, hends⟩ := ih
    let p : Piece := ⟨gap, lexeme, line + newlines gap⟩
    refine ⟨p :: pieces, after, ?_, ?_, laid_cons.mpr ⟨⟨hg, hw, hs, rfl⟩, hlaid⟩, ?_⟩
    · rw [written_cons]
      exact (List.append_assoc p.text _ _).symm
    · rw [htokens]
      rfl
    · rw [written_cons, newlines_append, ← Nat.add_assoc]
      exact hends

lemma Laid.covers (h : Laid line pieces rest) {unclosed : Option Nat}
    (hends : Ends (line + newlines (written pieces)) rest unclosed) :
    Covers line (written pieces ++ rest) ⟨pieces.map Piece.token, unclosed⟩ := by
  induction pieces generalizing line with
  | nil =>
    cases unclosed with
    | none => exact .last hends
    | some quote =>
      obtain ⟨gap, after, rfl, hg, hu, rfl⟩ := hends
      exact .unclosed hg hu
  | cons p pieces ih =>
    obtain ⟨⟨hg, hw, hs, hline⟩, hrest⟩ := laid_cons.mp h
    rw [written_cons, newlines_append, ← Nat.add_assoc] at hends
    have htoken : p.token = ⟨p.token.lexeme, line + newlines p.gap⟩ := by rw [← hline]
    rw [written_cons, List.append_assoc, List.map_cons, htoken]
    exact .token hg hw hs (ih hrest hends)

theorem lex_eq_iff_laid {source : String} {tokens : List Token} {unclosed : Option Nat} :
    lex source = ⟨tokens, unclosed⟩ ↔
      ∃ pieces rest, source.toList = written pieces ++ rest ∧ tokens = pieces.map Piece.token ∧
        Laid 1 pieces rest ∧ Ends (1 + newlines (written pieces)) rest unclosed := by
  rw [lex_eq_iff]
  constructor
  · intro h
    exact h.exists_laid
  · rintro ⟨pieces, rest, hsource, rfl, hlaid, hends⟩
    rw [hsource]
    exact hlaid.covers hends

end Lexer

open Lexer

theorem lex_exact (source : String) :
    (∀ tokens, lex source = ⟨tokens, none⟩ ↔
      ∃ pieces rest, source.toList = written pieces ++ rest ∧ tokens = pieces.map Piece.token ∧
        Laid 1 pieces rest ∧ LastGap rest) ∧
    (∀ tokens quote, lex source = ⟨tokens, some quote⟩ ↔
      ∃ pieces gap after, source.toList = written pieces ++ (gap ++ '"' :: after) ∧
        tokens = pieces.map Piece.token ∧ Laid 1 pieces (gap ++ '"' :: after) ∧ Gap gap ∧ Unclosed after ∧
        quote = 1 + newlines (written pieces ++ gap)) ∧
    ∀ c : Char, isBlank c = false →
      c = ';' ∨ c = '"' ∨ isAtomChar c ∨ ∃ b : Bracket, b.opening.toList = [c] ∨ b.closing.toList = [c] := by
  refine ⟨fun tokens => lex_eq_iff_laid, fun tokens quote => lex_eq_iff_laid.trans ?_, fun c h => begins h⟩
  constructor
  · rintro ⟨pieces, rest, hsource, htokens, hlaid, gap, after, rfl, hg, hu, hquote⟩
    rw [Nat.add_assoc, ← newlines_append] at hquote
    exact ⟨pieces, gap, after, hsource, htokens, hlaid, hg, hu, hquote⟩
  · rintro ⟨pieces, gap, after, hsource, htokens, hlaid, hg, hu, hquote⟩
    rw [newlines_append, ← Nat.add_assoc] at hquote
    exact ⟨pieces, _, hsource, htokens, hlaid, gap, after, rfl, hg, hu, hquote⟩

end CurriedLisp
