import CurriedLisp.Proofs.Eval.Contracts
import CurriedLisp.Proofs.Syntax.Coverage
import CurriedLisp.Proofs.Syntax.Parsing
import CurriedLisp.Proofs.Value.Readable
import CurriedLisp.Session.Prelude
import CurriedLisp.Value.Read

/-! Words: the texts that are read as symbols. No other name comes into a value, since each was a word in
some source. -/

namespace CurriedLisp

def IsWord (name : String) : Prop := (Value.symbol name).Legible

instance : DecidablePred IsWord := fun name =>
  decidable_of_iff (name ≠ "" ∧ name.toList.all Lexer.isAtomChar ∧ Numeral.read? name.toList = none)
    (by rw [IsWord, Value.Legible, List.all_eq_true])

namespace Value

def named : Value → List String
  | symbol name => [name]
  | lambda formals _ _ _ => formals
  | _ => []

def Worded (v : Value) : Prop := v.Every fun w => (∀ name ∈ w.named, IsWord name) ∧ w.own.names.Nodup

lemma worded_list {b : Bracket} {items : List Value} : (list b items).Worded ↔ ∀ v ∈ items, v.Worded :=
  every_list.trans (and_iff_right ⟨by simp [named], List.nodup_nil⟩)

lemma worded_lambda {formals : List String} {body : List Value} {own : Bindings} {frame : Option FrameId} :
    (lambda formals body own frame).Worded ↔ ((∀ name ∈ formals, IsWord name) ∧ own.names.Nodup) ∧
      (∀ v ∈ body, v.Worded) ∧ ∀ b ∈ own, b.2.Worded := every_lambda

lemma worded_of_leaf {v : Value} (hc : v.children = []) (ho : v.own = []) :
    v.Worded ↔ ∀ name ∈ v.named, IsWord name := by
  refine (every_of_children_nil hc).trans (and_iff_left ?_)
  rw [ho]
  exact List.nodup_nil

lemma worded_symbol {name : String} : (symbol name).Worded ↔ IsWord name :=
  (worded_of_leaf rfl rfl).trans List.forall_mem_singleton

lemma worded_number (n : Number) : (number n).Worded := (worded_of_leaf rfl rfl).mpr (List.forall_mem_nil _)

lemma worded_string (text : String) : (string text).Worded :=
  (worded_of_leaf rfl rfl).mpr (List.forall_mem_nil _)

lemma worded_error (message : String) : (error message).Worded :=
  (worded_of_leaf rfl rfl).mpr (List.forall_mem_nil _)

lemma worded_builtin (op : Builtin) (name : String) : (builtin op name).Worded :=
  (worded_of_leaf rfl rfl).mpr (List.forall_mem_nil _)

lemma worded_nothing : nothing.Worded := worded_list.mpr (by simp)

lemma worded_symbols {names : List String} :
    (∀ v ∈ names.map symbol, v.Worded) ↔ ∀ name ∈ names, IsWord name := by
  simp [worded_symbol]

end Value

lemma Lexer.Covers.wellFormed {line : Nat} {text : List Char} {l : Lexed} (h : Covers line text l) :
    ∀ t ∈ l.tokens, t.lexeme.WellFormed := by
  induction h with
  | last _ => simp
  | unclosed _ _ => simp
  | token _ hw _ _ ih => exact List.forall_mem_cons.mpr ⟨hw, ih⟩

lemma worded_ofAtom {text : List Char} (h : (Lexeme.atom text).WellFormed) (line : Nat) :
    (Form.ofAtom line text).value.Worded := by
  rw [Form.ofAtom]
  cases hr : Numeral.read? text with
  | some d => exact Value.worded_number d.toNumber
  | none =>
    refine Value.worded_symbol.mpr ⟨?_, ?_, ?_⟩
    · intro hnil
      exact h.1 (String.ofList_eq_empty_iff.mp hnil)
    · rw [String.toList_ofList]
      exact h.2
    · rw [String.toList_ofList]
      exact hr

lemma Spells.worded {forms : List Form} {tokens : List Token} (h : Spells forms tokens)
    (ht : ∀ t ∈ tokens, t.lexeme.WellFormed) : ∀ form ∈ forms, form.value.Worded := by
  induction h with
  | nil => simp
  | atom line text _ ih =>
    obtain ⟨hatom, hrest⟩ := List.forall_mem_cons.mp ht
    exact List.forall_mem_cons.mpr ⟨worded_ofAtom hatom line, ih hrest⟩
  | string line body _ ih =>
    obtain ⟨-, hrest⟩ := List.forall_mem_cons.mp ht
    exact List.forall_mem_cons.mpr ⟨Value.worded_string _, ih hrest⟩
  | @list b line last items forms inside tokens _ _ ihInside ihRest =>
    have hinside : ∀ form ∈ items, form.value.Worded := ihInside fun t hm => ht t (by simp [hm])
    have hrest : ∀ form ∈ forms, form.value.Worded := ihRest fun t hm => ht t (by simp [hm])
    refine List.forall_mem_cons.mpr ⟨?_, hrest⟩
    rw [Form.value, Form.values_eq_map]
    exact Value.worded_list.mpr (List.forall_mem_map.mpr hinside)

lemma worded_of_parseProgram {limit : Nat} {source : String} {forms : List Form}
    (h : parseProgram limit source = .ok forms) : ∀ form ∈ forms, form.value.Worded :=
  (parseProgram_eq_iff.mp h).2.2.worded (covers_lex source).wellFormed

lemma within_eq_ok {room : Nat} {values vs : List Value} (h : Reading.within room values = .ok vs) :
    vs = values := by
  rw [Reading.within] at h
  split at h
  · exact (Except.ok.inj h).symm
  · cases h

lemma worded_of_readProgram {room : Nat} {source : String} {program : List Value}
    (h : readProgram room source = .ok program) : ∀ v ∈ program, v.Worded := by
  simp only [readProgram, bind_eq_ok] at h
  obtain ⟨forms, hparse, hwithin⟩ := h
  rw [within_eq_ok hwithin]
  exact List.forall_mem_map.mpr (worded_of_parseProgram hparse)

lemma worded_single {forms : List Form} (h : ∀ form ∈ forms, form.value.Worded) :
    (Form.single forms).value.Worded := by
  have hlist : (Form.list 1 .round forms).value.Worded := by
    rw [Form.value, Form.values_eq_map]
    exact Value.worded_list.mpr (List.forall_mem_map.mpr h)
  cases forms with
  | nil => exact hlist
  | cons form rest =>
    cases rest with
    | nil => exact h form List.mem_cons_self
    | cons => exact hlist

lemma worded_of_read {room : Nat} {source : String} {v : Value} (h : read room source = .ok v) :
    v.Worded := by
  simp only [read, bind_eq_ok] at h
  obtain ⟨form, hparse, _, -, ⟨⟩⟩ := h
  cases hp : parseProgram (Reading.parserLimit room) source with
  | error e =>
    rw [parse, hp] at hparse
    cases hparse
  | ok forms =>
    rw [parse, hp] at hparse
    cases hparse
    exact worded_single (worded_of_parseProgram hp)

lemma isWord_builtin (op : Builtin) : IsWord op.name := by
  have hall : ∀ op ∈ Builtin.all, IsWord op.name := by decide +kernel
  exact hall op (Builtin.mem_all op)

lemma worded_prelude : ∀ v ∈ Prelude.program, v.Worded := by
  simp only [Prelude.program, Prelude.constants, Prelude.calling, Prelude.selecting, Prelude.folding,
    Prelude.define, Prelude.function, Prelude.byEmptiness, Prelude.byZero, Prelude.headOf, Prelude.tailOf,
    Prelude.firstOf, Prelude.oneLess, Prelude.number, Value.worded_list, Value.worded_symbol,
    Value.worded_number, List.map_cons, List.map_nil, List.cons_append, List.nil_append,
    List.forall_mem_cons, List.not_mem_nil, false_implies, implies_true, and_true]
  with_reducible and_intros
  all_goals decide +kernel

end CurriedLisp
