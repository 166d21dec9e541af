import CurriedLisp.Proofs.Number.Conversion
import CurriedLisp.Proofs.Syntax.Coverage
import CurriedLisp.Proofs.Syntax.Parsing

/-! Atoms are numbers if they are numerals, and symbols otherwise. A reader that first tells numerals from other atoms
and then leaves them to a conversion has to stop where one is refused, but none ever is. -/

namespace CurriedLisp

open Numeral

inductive Misreading where
  | unread (error : ReadError)
  | refused (text : List Char)

section Converting

variable (convert : List Char → Option Number) (limit : Nat)

def Form.ofAtomBy (line : Nat) (text : List Char) : Except Misreading Form :=
  if IsNumeral text then
    match convert text with
    | some n => .ok (.number line n)
    | none => .error (.refused text)
  else .ok (.symbol line (String.ofList text))

def Parser.shiftBy (groups : List Group) (t : Token) : Except Misreading Progress :=
  match t.lexeme with
  | .atom text => (Form.ofAtomBy convert t.line text).map (settle · groups)
  | _ => (shift limit groups t).mapError .unread

namespace TokenStream

def refusedBy (t : Token) (rest : List Token) (unclosed : Option Nat) (line : Nat) : Misreading → TokenStream
  | .unread e => refused t rest unclosed line e
  | .refused _ => ⟨none, rest, unclosed, t.line⟩

def parseExprFromBy (unclosed : Option Nat) (groups : List Group) (line : Nat) :
    List Token → Except Misreading (Option Form) × TokenStream
  | [] =>
    match Parser.missing unclosed groups line with
    | some e => (.error (.unread (.unreadable e)), ended line)
    | none => (.ok none, ended line)
  | t :: rest =>
    match Parser.shiftBy convert limit groups t with
    | .error e => (.error e, refusedBy t rest unclosed line e)
    | .ok (.within groups) => parseExprFromBy unclosed groups t.line rest
    | .ok (.complete form) => (.ok (some form), ⟨none, rest, unclosed, t.line⟩)

def parseExprBy (s : TokenStream) : Except Misreading (Option Form) × TokenStream :=
  parseExprFromBy convert limit s.unclosed [] s.line s.unread

def parseAllFromBy (unclosed : Option Nat) (done : List Form) (groups : List Group) (line : Nat) :
    List Token → Except Misreading (List Form) × TokenStream
  | [] =>
    match Parser.missing unclosed groups line with
    | some e => (.error (.unread (.unreadable e)), ended line)
    | none => (.ok done.reverse, ended line)
  | t :: rest =>
    match Parser.shiftBy convert limit groups t with
    | .error e => (.error e, refusedBy t rest unclosed line e)
    | .ok (.within groups) => parseAllFromBy unclosed done groups t.line rest
    | .ok (.complete form) => parseAllFromBy unclosed (form :: done) [] t.line rest

def parseAllBy (s : TokenStream) : Except Misreading (List Form) × TokenStream :=
  parseAllFromBy convert limit s.unclosed [] [] s.line s.unread

end TokenStream

end Converting

def TokenStream.unrefused {α : Type} (result : Except ReadError α × TokenStream) :
    Except Misreading α × TokenStream := (result.1.mapError .unread, result.2)

lemma ofAtom_of_writes {text : List Char} {d : Decimal} (h : Writes text d) (line : Nat) :
    Form.ofAtom line text = .number line d.toNumber := by
  rw [Form.ofAtom, read?_eq_some_iff.mpr h]

lemma ofAtom_of_not_isNumeral {text : List Char} (h : ¬ IsNumeral text) (line : Nat) :
    Form.ofAtom line text = .symbol line (String.ofList text) := by
  rw [isNumeral_iff, Option.not_isSome_iff_eq_none] at h
  rw [Form.ofAtom, h]

theorem ofAtom_eq_number_iff {text : List Char} {line : Nat} :
    (∃ n, Form.ofAtom line text = .number line n) ↔ IsNumeral text := by
  constructor
  · rintro ⟨n, hn⟩
    by_cases h : IsNumeral text
    · exact h
    · cases (ofAtom_of_not_isNumeral h line).symm.trans hn
  · rintro ⟨d, hd⟩
    exact ⟨_, ofAtom_of_writes hd line⟩

section Agreement

variable {convert : List Char → Option Number} (hc : ∀ text d, Writes text d → convert text = some d.toNumber)
include hc

lemma ofAtomBy_eq (line : Nat) (text : List Char) : Form.ofAtomBy convert line text = .ok (.ofAtom line text) := by
  by_cases h : IsNumeral text
  · obtain ⟨d, hd⟩ := h
    rw [Form.ofAtomBy, if_pos ⟨d, hd⟩, hc text d hd, ofAtom_of_writes hd]
  · rw [Form.ofAtomBy, if_neg h, ofAtom_of_not_isNumeral h]

lemma shiftBy_eq (limit : Nat) (groups : List Group) (t : Token) :
    Parser.shiftBy convert limit groups t = (Parser.shift limit groups t).mapError .unread := by
  obtain ⟨lexeme, line⟩ := t
  cases lexeme with
  | atom text => exact congrArg (Except.map (Parser.settle · groups)) (ofAtomBy_eq hc line text)
  | _ => rfl

namespace TokenStream

lemma parseExprFromBy_eq (limit : Nat) (unclosed : Option Nat) (groups : List Group) (line : Nat)
    (tokens : List Token) : parseExprFromBy convert limit unclosed groups line tokens =
      unrefused (parseExprFrom limit unclosed groups line tokens) := by
  induction tokens generalizing groups line with
  | nil =>
    rw [parseExprFromBy, parseExprFrom]
    cases Parser.missing unclosed groups line <;> rfl
  | cons t rest ih =>
    rw [parseExprFromBy, parseExprFrom, shiftBy_eq hc]
    cases Parser.shift limit groups t with
    | error e => rfl
    | ok p =>
      cases p with
      | within groups => exact ih groups t.line
      | complete form => rfl

lemma parseAllFromBy_eq (limit : Nat) (unclosed : Option Nat) (done : List Form) (groups : List Group) (line : Nat)
    (tokens : List Token) : parseAllFromBy convert limit unclosed done groups line tokens =
      unrefused (parseAllFrom limit unclosed done groups line tokens) := by
  induction tokens generalizing done groups line with
  | nil =>
    rw [parseAllFromBy, parseAllFrom]
    cases Parser.missing unclosed groups line <;> rfl
  | cons t rest ih =>
    rw [parseAllFromBy, parseAllFrom, shiftBy_eq hc]
    cases Parser.shift limit groups t with
    | error e => rfl
    | ok p =>
      cases p with
      | within groups => exact ih done groups t.line
      | complete form => exact ih (form :: done) [] t.line

end TokenStream

end Agreement

lemma parseExpr_atom (limit : Nat) {s : TokenStream} {text : List Char} {line : Nat} {rest : List Token}
    (h : s.unread = ⟨.atom text, line⟩ :: rest) :
    s.parseExpr limit = (.ok (some (.ofAtom line text)), ⟨none, rest, s.unclosed, line⟩) := by
  rw [TokenStream.parseExpr, h]
  rfl

lemma unrefused_eq_error {limit : Nat} {source : String} {e : Misreading}
    (h : (TokenStream.unrefused ((TokenStream.ofSource source).parseAll limit)).1 = .error e) :
    e = .unread .tooDeep ∨ ∃ p, FirstProblem (lex source) p ∧ e = .unread (.unreadable p) := by
  have houtcome := parseProgram_outcome limit source
  change (parseProgram limit source).mapError .unread = .error e at h
  cases hr : parseProgram limit source with
  | ok forms =>
    rw [hr] at h
    cases h
  | error r =>
    rw [hr] at h houtcome
    cases h
    cases r with
    | tooDeep => exact .inl rfl
    | unreadable p => exact .inr ⟨p, houtcome.2, rfl⟩

def nearNumerals : List String := ["+", "-", ".", "...", "inf", "nan", "1e", "e5", "1.2.3", "1_0"]

theorem atoms_exact (limit : Nat) :
    (∀ (s : TokenStream) (text : List Char) (line : Nat) (rest : List Token),
      s.unread = ⟨.atom text, line⟩ :: rest →
      ∃ form, s.parseExpr limit = (.ok (some form), ⟨none, rest, s.unclosed, line⟩) ∧
        (∀ groups, Parser.shift limit groups ⟨.atom text, line⟩ = .ok (Parser.settle form groups)) ∧
        ((∃ n, form = .number line n) ↔ IsNumeral text) ∧
        (∀ d, Writes text d → Number.ofText? text = some d.toNumber ∧ form = .number line d.toNumber) ∧
        (¬ IsNumeral text → form = .symbol line (String.ofList text))) ∧
    (∀ s : TokenStream,
      s.parseExprBy Number.ofText? limit = TokenStream.unrefused (s.parseExpr limit) ∧
      s.parseAllBy Number.ofText? limit = TokenStream.unrefused (s.parseAll limit)) ∧
    (∀ (source : String) (e : Misreading),
      ((TokenStream.ofSource source).parseAllBy Number.ofText? limit).1 = .error e →
      e = .unread .tooDeep ∨ ∃ p, FirstProblem (lex source) p ∧ e = .unread (.unreadable p)) ∧
    ∀ name ∈ nearNumerals, (Lexeme.atom name.toList).WellFormed ∧ ¬ IsNumeral name.toList := by
  have hc : ∀ text d, Writes text d → Number.ofText? text = some d.toNumber := fun _ _ => Number.ofText?_of_writes
  have hforms : ∀ s : TokenStream, s.parseAllBy Number.ofText? limit = TokenStream.unrefused (s.parseAll limit) :=
    fun s => TokenStream.parseAllFromBy_eq hc limit s.unclosed [] [] s.line s.unread
  refine ⟨?_, fun s => ⟨?_, hforms s⟩, ?_, ?_⟩
  · intro s text line rest h
    refine ⟨.ofAtom line text, parseExpr_atom limit h, fun groups => rfl, ofAtom_eq_number_iff, ?_, ?_⟩
    · intro d hd
      exact ⟨hc text d hd, ofAtom_of_writes hd line⟩
    · intro hn
      exact ofAtom_of_not_isNumeral hn line
  · exact TokenStream.parseExprFromBy_eq hc limit s.unclosed [] s.line s.unread
  · intro source e he
    rw [hforms] at he
    exact unrefused_eq_error he
  · have hnear : ∀ name ∈ nearNumerals, (name.toList ≠ [] ∧ name.toList.all Lexer.isAtomChar) ∧
        ¬ IsNumeral name.toList := by decide +kernel
    intro name hname
    obtain ⟨⟨hne, hall⟩, hnot⟩ := hnear name hname
    exact ⟨⟨hne, List.all_eq_true.mp hall⟩, hnot⟩

theorem atoms_exact_samples :
    let text := "-.\u0665e+3".toList
    let s := TokenStream.ofSource "-.\u0665e+3 1_0"
    let rest : List Token := [⟨.atom "1_0".toList, 1⟩]
    (s.unread = ⟨.atom text, 1⟩ :: rest ∧ Writes text ⟨true, 5, 2⟩ ∧
      s.parseExpr 0 = (.ok (some (.number 1 (Decimal.toNumber ⟨true, 5, 2⟩))), ⟨none, rest, s.unclosed, 1⟩)) ∧
    (("1_0" ∈ nearNumerals ∧ ¬ IsNumeral "1_0".toList) ∧
      (TokenStream.parseExpr 0 ⟨none, rest, none, 1⟩).1 = .ok (some (.symbol 1 "1_0"))) ∧
    ∃ p, FirstProblem (lex ")") p ∧
      ((TokenStream.ofSource ")").parseAllBy Number.ofText? 0).1 = .error (.unread (.unreadable p)) := by
  intro text s rest
  obtain ⟨hatoms, -, hsources, hnear⟩ := atoms_exact 0
  have hread : s.unread = ⟨.atom text, 1⟩ :: rest := by decide +kernel
  have hwrites : Writes text ⟨true, 5, 2⟩ := read?_eq_some_iff.mp (by decide +kernel)
  have hname : "1_0" ∈ nearNumerals := by decide
  have hnot := (hnear "1_0" hname).2
  refine ⟨⟨hread, hwrites, ?_⟩, ⟨⟨hname, hnot⟩, ?_⟩, ?_⟩
  · obtain ⟨form, hform, -, -, hnumber, -⟩ := hatoms s text 1 rest hread
    rw [hform, (hnumber _ hwrites).2]
  · obtain ⟨form, hform, -, -, -, hsymbol⟩ := hatoms ⟨none, rest, none, 1⟩ "1_0".toList 1 [] rfl
    rw [hform, hsymbol hnot, String.ofList_toList]
  · have hlex : lex ")" = ⟨[⟨.closing .round, 1⟩], none⟩ := by decide +kernel
    have herror : ((TokenStream.ofSource ")").parseAllBy Number.ofText? 0).1 =
        .error (.unread (.unreadable ⟨.unexpectedToken (.closing .round), 1⟩)) := by
      rw [TokenStream.ofSource, hlex]
      rfl
    obtain h | ⟨p, hp, h⟩ := hsources ")" _ herror
    · cases h
    · exact ⟨p, hp, herror.trans (congrArg Except.error h)⟩

end CurriedLisp
