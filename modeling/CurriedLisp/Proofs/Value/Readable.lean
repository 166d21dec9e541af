import CurriedLisp.Proofs.Number.Numerals
import CurriedLisp.Proofs.Syntax.Lexing
import CurriedLisp.Proofs.Value.Parts
import CurriedLisp.Store.Bindings
import CurriedLisp.Value.Display

namespace CurriedLisp

namespace Value

def Legible : Value → Prop
  | number n => n.isFinite
  | symbol name => name ≠ "" ∧ (∀ c ∈ name.toList, Lexer.isAtomChar c) ∧ Numeral.read? name.toList = none
  | string _ | list .. => True
  | error _ | lambda .. | builtin .. => False

def Readable (v : Value) : Prop := v.Every Legible

lemma readable_list {b : Bracket} {items : List Value} :
    (list b items).Readable ↔ ∀ v ∈ items, v.Readable :=
  every_list.trans (and_iff_right trivial)

mutual

def lexemes : Value → List Lexeme
  | number n => [.atom n.text.toList]
  | symbol name => [.atom name.toList]
  | string text => [.string (StringLiteral.encode text.toList)]
  | list b items => .opening b :: lexemesOfItems items ++ [.closing b]
  | error _ | lambda .. | builtin .. => []

def lexemesOfItems : List Value → List Lexeme
  | [] => []
  | v :: rest => v.lexemes ++ lexemesOfItems rest

end

lemma lexemesOfItems_eq_flatMap (items : List Value) : lexemesOfItems items = items.flatMap lexemes := by
  induction items with
  | nil => rfl
  | cons v rest ih => rw [lexemesOfItems, List.flatMap_cons, ih]

variable (names : Builtin → Option String)

lemma displayEach_eq_map (items : List Value) : displayEach names [] items = items.map (display names) := by
  induction items with
  | nil => rfl
  | cons v rest ih => rw [displayEach, List.map_cons, ih, display]

lemma display_list (b : Bracket) (items : List Value) :
    (list b items).display names = b.opening ++ spaced (items.map (display names)) ++ b.closing := by
  rw [display, displayWith, displayEach_eq_map]

lemma lookup_displayBindings (own : Bindings) (name : String) :
    (displayBindings names own).lookup name = (own.find? name).map (display names) := by
  induction own with
  | nil => rfl
  | cons entry rest ih =>
    obtain ⟨m, v⟩ := entry
    rw [displayBindings, Bindings.find?_cons, List.lookup_cons, ih]
    by_cases h : name = m
    · simp [h, display]
    · have hb : (name == m) = false := by simp [h]
      simp [h, hb]

mutual

theorem reads_display : ∀ v : Value, v.Readable → Lexer.Reads (v.display names).toList v.lexemes
  | number n, h => by
    obtain ⟨d, hd, -⟩ := Number.read?_text h.self
    obtain ⟨hne, hatom⟩ := (Numeral.read?_eq_some_iff.mp hd).isAtom
    exact .atom hne hatom
  | symbol name, h => by
    obtain ⟨hne, hatom, -⟩ := h.self
    exact .atom (fun hnil => hne (String.toList_eq_nil_iff.mp hnil)) hatom
  | string text, _ => by
    rw [display, displayWith, String.toList_ofList, lexemes]
    exact .string text.toList
  | list b items, h => by
    have hitems := reads_display_items items (readable_list.mp h)
    rw [display_list, String.toList_append, String.toList_append, lexemes, lexemesOfItems_eq_flatMap]
    exact (Lexer.Reads.intercalate rfl Text.isBlank_space _ _ hitems).bracketed b
  | error _, h => h.self.elim
  | lambda .., h => h.self.elim
  | builtin .., h => h.self.elim

lemma reads_display_items : ∀ items : List Value, (∀ v ∈ items, v.Readable) →
    ∀ v ∈ items, Lexer.Reads (v.display names).toList v.lexemes
  | [], _ => by simp
  | v :: rest, h => by
    refine List.forall_mem_cons.mpr ⟨reads_display v (h v List.mem_cons_self), ?_⟩
    exact reads_display_items rest fun w hw => h w (List.mem_cons_of_mem v hw)

end

lemma reads_display_program {values : List Value} (h : ∀ v ∈ values, v.Readable) :
    Lexer.Reads ("\n".intercalate (values.map (display names))).toList (values.flatMap lexemes) :=
  Lexer.Reads.intercalate rfl Text.isBlank_newline _ _ (reads_display_items names values h)

end Value

end CurriedLisp
