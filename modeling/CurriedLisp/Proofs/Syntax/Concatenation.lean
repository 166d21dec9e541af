import CurriedLisp.Proofs.Syntax.Continuation
import CurriedLisp.Value.Basic

/-! Reading text by text. Where a readable text ends and a new line begins, the lexer and the parser are as
at the beginning, so what comes after is read as it is read alone, but for its lines. -/

namespace CurriedLisp

def Token.movedDown (n : Nat) (t : Token) : Token := ⟨t.lexeme, t.line + n⟩

def Lexed.movedDown (n : Nat) (l : Lexed) : Lexed := ⟨l.tokens.map (Token.movedDown n), l.unclosed.map (· + n)⟩

namespace Form

mutual

def movedDown (n : Nat) : Form → Form
  | number line v => .number (line + n) v
  | symbol line name => .symbol (line + n) name
  | string line text => .string (line + n) text
  | list line b items => .list (line + n) b (movedDownEach n items)

def movedDownEach (n : Nat) : List Form → List Form
  | [] => []
  | form :: rest => form.movedDown n :: movedDownEach n rest

end

lemma movedDownEach_eq_map (n : Nat) (forms : List Form) : movedDownEach n forms = forms.map (movedDown n) := by
  induction forms with
  | nil => rfl
  | cons form rest ih => rw [movedDownEach, List.map_cons, ih]

mutual

lemma value_movedDown (n : Nat) : ∀ form : Form, (form.movedDown n).value = form.value
  | number .. => rfl
  | symbol .. => rfl
  | string .. => rfl
  | list _ _ items => by rw [movedDown, value, value, values_movedDownEach n items]

lemma values_movedDownEach (n : Nat) : ∀ forms : List Form, values (movedDownEach n forms) = values forms
  | [] => rfl
  | form :: rest => by rw [movedDownEach, values, values, value_movedDown n form, values_movedDownEach n rest]

end

lemma ofAtom_movedDown (n line : Nat) (text : List Char) :
    ofAtom (line + n) text = (ofAtom line text).movedDown n := by
  unfold ofAtom
  split <;> rfl

end Form

def Group.movedDown (n : Nat) (g : Group) : Group := ⟨g.bracket, g.line + n, g.items.map (Form.movedDown n)⟩

def Progress.movedDown (n : Nat) : Progress → Progress
  | within groups => .within (groups.map (Group.movedDown n))
  | complete form => .complete (form.movedDown n)

def SyntaxError.movedDown (n : Nat) (e : SyntaxError) : SyntaxError := ⟨e.problem, e.line + n⟩

def ReadError.movedDown (n : Nat) : ReadError → ReadError
  | unreadable e => .unreadable (e.movedDown n)
  | tooDeep => .tooDeep

namespace Lexer

variable {line : Nat} {text : List Char} {l : Lexed}

lemma Covers.movedDown (h : Covers line text l) (n : Nat) : Covers (line + n) text (l.movedDown n) := by
  induction h with
  | last hg => exact .last hg
  | @unclosed line gap rest hg hu =>
    have hcovers : Covers (line + n) (gap ++ '"' :: rest) ⟨[], some (line + n + newlines gap)⟩ := .unclosed hg hu
    rwa [Nat.add_right_comm] at hcovers
  | @token line gap rest lexeme l hg hw hs _ ih =>
    rw [Nat.add_right_comm] at ih
    have hcovers := Covers.token hg hw hs ih
    rwa [Nat.add_right_comm] at hcovers

end Lexer

open Lexer

def linesOf (text : String) : Nat := newlines text.toList + 1

lemma lex_lines {text : String} (hclosed : (lex text).unclosed = none) (more : String) :
    lex (text ++ "\n" ++ more) =
      ⟨(lex text).tokens ++ ((lex more).movedDown (linesOf text)).tokens,
        ((lex more).movedDown (linesOf text)).unclosed⟩ := by
  have hmore := (covers_lex more).movedDown (linesOf text)
  rw [linesOf, ← Nat.add_assoc] at hmore
  rw [lex_eq_iff, toList_lines]
  exact (covers_lex text).lines hclosed hmore

namespace Parser

variable {limit : Nat}

lemma settle_movedDown (n : Nat) (form : Form) (groups : List Group) :
    settle (form.movedDown n) (groups.map (Group.movedDown n)) = (settle form groups).movedDown n := by
  cases groups <;> rfl

lemma form_movedDown (n : Nat) (g : Group) : (g.movedDown n).form = g.form.movedDown n := by
  simp only [Group.form, Group.movedDown, Form.movedDown, Form.movedDownEach_eq_map, List.map_reverse]

lemma shift_movedDown (n : Nat) (groups : List Group) (t : Token) :
    shift limit (groups.map (Group.movedDown n)) (t.movedDown n) =
      ((shift limit groups t).map (Progress.movedDown n)).mapError (ReadError.movedDown n) := by
  obtain ⟨lexeme, line⟩ := t
  cases lexeme with
  | atom text =>
    simp only [shift, Token.movedDown, Form.ofAtom_movedDown, settle_movedDown]
    rfl
  | string body =>
    have hstring : Form.ofString (line + n) body = (Form.ofString line body).movedDown n := rfl
    simp only [shift, Token.movedDown, hstring, settle_movedDown]
    rfl
  | opening b =>
    simp only [shift, Token.movedDown, List.length_map]
    split <;> rfl
  | closing b =>
    cases groups with
    | nil => rfl
    | cons g outer =>
      have hbracket : (g.movedDown n).bracket = g.bracket := rfl
      simp only [shift, Token.movedDown, List.map_cons, hbracket, form_movedDown, settle_movedDown]
      split <;> rfl

lemma missing_movedDown (n : Nat) (unclosed : Option Nat) (groups : List Group) (line : Nat) :
    missing (unclosed.map (· + n)) (groups.map (Group.movedDown n)) (line + n) =
      (missing unclosed groups line).map (SyntaxError.movedDown n) := by
  cases unclosed <;> cases groups <;> rfl

end Parser

namespace TokenStream

variable {limit line : Nat} {unclosed : Option Nat} {done forms : List Form} {groups : List Group}
  {tokens : List Token}

/-- The induction is on the tokens; `before` are forms that the parser had read in front of them all. -/
lemma parseAllFrom_movedDown (n : Nat) (before done : List Form) (groups : List Group) (line : Nat) :
    (parseAllFrom limit (unclosed.map (· + n)) (done.map (Form.movedDown n) ++ before)
        (groups.map (Group.movedDown n)) (line + n) (tokens.map (Token.movedDown n))).1 =
      ((parseAllFrom limit unclosed done groups line tokens).1.map
        fun forms => before.reverse ++ forms.map (Form.movedDown n)).mapError (ReadError.movedDown n) := by
  induction tokens generalizing done groups line with
  | nil =>
    rw [List.map_nil, parseAllFrom, parseAllFrom, Parser.missing_movedDown]
    cases Parser.missing unclosed groups line with
    | some e => rfl
    | none =>
      rw [List.reverse_append, ← List.map_reverse]
      rfl
  | cons t rest ih =>
    rw [List.map_cons, parseAllFrom, parseAllFrom, Parser.shift_movedDown]
    cases Parser.shift limit groups t with
    | error e => rfl
    | ok p =>
      cases p with
      | within groups => exact ih done groups t.line
      | complete form => exact ih (form :: done) [] t.line

theorem parseAllFrom_append (h : (parseAllFrom limit none done groups line tokens).1 = .ok forms) :
    ∃ last, ∀ unclosed rest, parseAllFrom limit unclosed done groups line (tokens ++ rest) =
      parseAllFrom limit unclosed forms.reverse [] last rest := by
  induction tokens generalizing done groups line with
  | nil =>
    cases groups with
    | nil =>
      cases h
      exact ⟨line, fun unclosed rest => by rw [List.reverse_reverse, List.nil_append]⟩
    | cons g outer => cases h
  | cons t rest ih =>
    simp only [List.cons_append, parseAllFrom] at h ⊢
    cases hs : Parser.shift limit groups t with
    | error e =>
      rw [hs] at h
      cases h
    | ok p =>
      rw [hs] at h
      cases p with
      | within groups => exact ih h
      | complete form => exact ih h

lemma parseAllFrom_outside (done : List Form) (line other : Nat) :
    (parseAllFrom limit unclosed done [] line tokens).1 = (parseAllFrom limit unclosed done [] other tokens).1 := by
  cases tokens with
  | nil => cases unclosed <;> rfl
  | cons t rest =>
    simp only [parseAllFrom]
    cases Parser.shift limit [] t with
    | error e => rfl
    | ok p => cases p <;> rfl

end TokenStream

open TokenStream

variable {limit : Nat} {text : String} {forms : List Form}

lemma parseProgram_lines (h : parseProgram limit text = .ok forms) (more : String) :
    parseProgram limit (text ++ "\n" ++ more) =
      ((parseProgram limit more).map fun others => forms ++ others.map (Form.movedDown (linesOf text))).mapError
        (ReadError.movedDown (linesOf text)) := by
  obtain ⟨-, hclosed, -⟩ := parseProgram_eq_iff.mp h
  have hfirst : (parseAllFrom limit none [] [] 1 (lex text).tokens).1 = .ok forms := by
    rw [← hclosed]
    exact h
  obtain ⟨last, happend⟩ := parseAllFrom_append hfirst
  have hmoved := @parseAllFrom_movedDown limit (lex more).unclosed (lex more).tokens
    (linesOf text) forms.reverse [] [] 1
  rw [List.reverse_reverse] at hmoved
  calc parseProgram limit (text ++ "\n" ++ more)
    _ = (parseAllFrom limit ((lex more).unclosed.map (· + linesOf text)) forms.reverse [] last
          ((lex more).tokens.map (Token.movedDown (linesOf text)))).1 := by
        rw [parseProgram, ofSource, lex_lines hclosed]
        exact congrArg Prod.fst (happend _ _)
    _ = _ := (parseAllFrom_outside _ _ _).trans hmoved

end CurriedLisp
