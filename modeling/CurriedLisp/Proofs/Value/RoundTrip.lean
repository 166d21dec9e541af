import CurriedLisp.Proofs.Eval.Contracts
import CurriedLisp.Proofs.Value.Readable
import CurriedLisp.Proofs.Value.Sameness
import CurriedLisp.Value.Equality
import CurriedLisp.Value.Read
import Mathlib.Data.List.Forall2

namespace CurriedLisp

namespace TokenStream

def resume (limit : Nat) (unclosed : Option Nat) (done : List Form) (line : Nat) (rest : List Token) :
    Progress → Except ReadError (List Form) × TokenStream
  | .within groups => parseAllFrom limit unclosed done groups line rest
  | .complete form => parseAllFrom limit unclosed (form :: done) [] line rest

lemma parseAllFrom_cons {limit line : Nat} {unclosed : Option Nat} {done : List Form}
    {groups : List Group} {t : Token} {rest : List Token} {p : Progress}
    (h : Parser.shift limit groups t = .ok p) :
    parseAllFrom limit unclosed done groups line (t :: rest) = resume limit unclosed done t.line rest p := by
  rw [parseAllFrom, h]
  cases p <;> rfl

end TokenStream

namespace Value

open TokenStream CurriedLisp.Parser

variable {v w : Value} {limit : Nat} {unclosed : Option Nat} {done : List Form} {outer : List Group}

lemma ofAtom_number {n : Number} (h : n.isFinite) (line : Nat) :
    (number n).same (Form.ofAtom line n.text.toList).value = true := by
  obtain ⟨d, hd, hequal⟩ := Number.read?_text h
  rw [Form.ofAtom, hd]
  show n.same d.toNumber = true
  rw [Number.same_of_not_isNan (Number.isNan_of_isFinite h), hequal]

lemma ofAtom_symbol {name : String} (h : Numeral.read? name.toList = none) (line : Nat) :
    (symbol name).same (Form.ofAtom line name.toList).value = true := by
  rw [Form.ofAtom, h, String.ofList_toList]
  exact beq_self_eq_true name

lemma ofString_encode (text : String) (line : Nat) :
    (string text).same (Form.ofString line (StringLiteral.encode text.toList)).value = true := by
  rw [Form.ofString, StringLiteral.decode_encode, String.ofList_toList]
  exact beq_self_eq_true text

mutual

lemma parseAllFrom_lexemes : ∀ (v : Value) (groups : List Group) (line : Nat) (tokens rest : List Token),
    v.Readable → groups.length + v.nesting ≤ limit → tokens.map Token.lexeme = v.lexemes →
      ∃ (form : Form) (last : Nat), v.same form.value = true ∧
        parseAllFrom limit unclosed done groups line (tokens ++ rest) =
          resume limit unclosed done last rest (settle form groups)
  | number n, groups, line, tokens, rest, hv, _, ht => by
    obtain ⟨⟨_, first⟩, rfl, rfl⟩ := List.map_eq_singleton_iff.mp ht
    exact ⟨_, first, ofAtom_number hv.self first, parseAllFrom_cons rfl⟩
  | symbol name, groups, line, tokens, rest, hv, _, ht => by
    obtain ⟨⟨_, first⟩, rfl, rfl⟩ := List.map_eq_singleton_iff.mp ht
    exact ⟨_, first, ofAtom_symbol hv.self.2.2 first, parseAllFrom_cons rfl⟩
  | string text, groups, line, tokens, rest, _, _, ht => by
    obtain ⟨⟨_, first⟩, rfl, rfl⟩ := List.map_eq_singleton_iff.mp ht
    exact ⟨_, first, ofString_encode text first, parseAllFrom_cons rfl⟩
  | list b items, groups, line, tokens, rest, hv, hroom, ht => by
    rw [nesting] at hroom
    have hdepth : ¬ limit ≤ groups.length := by omega
    obtain ⟨⟨_, first⟩, following, rfl, rfl, hfollowing⟩ := List.map_eq_cons_iff.mp ht
    obtain ⟨inner, ending, rfl, hinner, hending⟩ := List.map_eq_append_iff.mp hfollowing
    obtain ⟨⟨_, last⟩, rfl, rfl⟩ := List.map_eq_singleton_iff.mp hending
    have hopen : shift limit groups ⟨.opening b, first⟩ = .ok (.within (⟨b, first, []⟩ :: groups)) := by
      simp only [shift, hdepth, if_false]
    obtain ⟨forms, before, hsame, hparse⟩ := parseAllFrom_lexemesOfItems items ⟨b, first, []⟩ groups first
      inner (⟨.closing b, last⟩ :: rest) (readable_list.mp hv) (by omega) hinner
    refine ⟨.list first b forms, last, ?_, ?_⟩
    · rw [Form.value, Form.values_eq_map, same, hsame, beq_self_eq_true, Bool.and_self]
    · have hclose : shift limit (⟨b, first, forms.reverse ++ []⟩ :: groups) ⟨.closing b, last⟩ =
          .ok (settle (.list first b forms) groups) := by
        simp [shift, Group.form]
      rw [List.cons_append, parseAllFrom_cons hopen, List.append_assoc, List.singleton_append]
      exact hparse.trans (parseAllFrom_cons hclose)
  | error _, _, _, _, _, hv, _, _ => hv.self.elim
  | lambda .., _, _, _, _, hv, _, _ => hv.self.elim
  | builtin .., _, _, _, _, hv, _, _ => hv.self.elim

lemma parseAllFrom_lexemesOfItems : ∀ (items : List Value) (g : Group) (outer : List Group) (line : Nat)
    (tokens rest : List Token), (∀ v ∈ items, v.Readable) →
      outer.length + 1 + nestingOfItems items ≤ limit → tokens.map Token.lexeme = lexemesOfItems items →
      ∃ (forms : List Form) (last : Nat), sameItems items (forms.map Form.value) = true ∧
        parseAllFrom limit unclosed done (g :: outer) line (tokens ++ rest) =
          parseAllFrom limit unclosed done ({ g with items := forms.reverse ++ g.items } :: outer) last rest
  | [], g, outer, line, tokens, rest, _, _, ht => by
    cases List.map_eq_nil_iff.mp ht
    exact ⟨[], line, rfl, rfl⟩
  | v :: others, g, outer, line, tokens, rest, hv, hroom, ht => by
    rw [nestingOfItems] at hroom
    obtain ⟨first, following, rfl, hfirst, hfollowing⟩ := List.map_eq_append_iff.mp ht
    obtain ⟨form, middle, hsame, hparse⟩ := parseAllFrom_lexemes v (g :: outer) line first
      (following ++ rest) (hv v List.mem_cons_self) (by rw [List.length_cons]; omega) hfirst
    obtain ⟨forms, last, hothers, hrest⟩ := parseAllFrom_lexemesOfItems others
      { g with items := form :: g.items } outer middle following rest
      (fun w hw => hv w (List.mem_cons_of_mem v hw)) (by omega) hfollowing
    refine ⟨form :: forms, last, ?_, ?_⟩
    · rw [List.map_cons, sameItems, hsame, hothers, Bool.and_self]
    · rw [List.append_assoc, hparse, List.reverse_cons, List.append_assoc]
      exact hrest

end

lemma parseAllFrom_flatMap (values : List Value) (done : List Form) (line : Nat) (tokens : List Token)
    (hv : ∀ v ∈ values, v.Readable) (hn : ∀ v ∈ values, v.nesting ≤ limit)
    (ht : tokens.map Token.lexeme = values.flatMap lexemes) :
    ∃ forms : List Form, sameItems values (forms.map Form.value) = true ∧
      (parseAllFrom limit none done [] line tokens).1 = .ok (done.reverse ++ forms) := by
  induction values generalizing done line tokens with
  | nil =>
    cases List.map_eq_nil_iff.mp ht
    exact ⟨[], rfl, by rw [List.append_nil]; rfl⟩
  | cons v others ih =>
    obtain ⟨first, following, rfl, hfirst, hfollowing⟩ := List.map_eq_append_iff.mp ht
    have hroom : ([] : List Group).length + v.nesting ≤ limit := by
      rw [List.length_nil, Nat.zero_add]
      exact hn v List.mem_cons_self
    have hform : ∃ (form : Form) (last : Nat), v.same form.value = true ∧
        parseAllFrom limit none done [] line (first ++ following) =
          resume limit none done last following (settle form []) :=
      parseAllFrom_lexemes v [] line first following (hv v List.mem_cons_self) hroom hfirst
    obtain ⟨form, last, hsame, hparse⟩ := hform
    obtain ⟨forms, hothers, hrest⟩ := ih (form :: done) last following
      (fun w hw => hv w (List.mem_cons_of_mem v hw)) (fun w hw => hn w (List.mem_cons_of_mem v hw)) hfollowing
    refine ⟨form :: forms, ?_, ?_⟩
    · rw [List.map_cons, sameItems, hsame, hothers, Bool.and_self]
    · rw [hparse]
      show (parseAllFrom limit none (form :: done) [] last following).1 = _
      rw [hrest, List.reverse_cons, List.append_assoc, List.singleton_append]

lemma parseProgram_of_reads {source : String} {values : List Value} (hv : ∀ v ∈ values, v.Readable)
    (hn : ∀ v ∈ values, v.nesting ≤ limit) (hs : Lexer.Reads source.toList (values.flatMap lexemes)) :
    ∃ forms, parseProgram limit source = .ok forms ∧ sameItems values (forms.map Form.value) = true := by
  obtain ⟨htokens, hclosed⟩ := lex_of_reads hs
  obtain ⟨forms, hsame, hparse⟩ := parseAllFrom_flatMap values [] 1 (lex source).tokens hv hn htokens
  refine ⟨forms, ?_, hsame⟩
  rw [parseProgram, TokenStream.ofSource, TokenStream.parseAll, TokenStream.ofLexed, hclosed]
  exact hparse

mutual

lemma nesting_eq_of_same : ∀ v w : Value, v.Readable → v.same w = true → w.nesting = v.nesting
  | number _, w, _, h => by cases w <;> first | rfl | cases h
  | symbol _, w, _, h => by cases w <;> first | rfl | cases h
  | string _, w, _, h => by cases w <;> first | rfl | cases h
  | list b items, w, hv, h => by
    cases w with
    | list c others =>
      rw [same, Bool.and_eq_true] at h
      rw [nesting, nesting, nestingOfItems_eq_of_same items others (readable_list.mp hv) h.2]
    | _ => cases h
  | error _, _, hv, _ => hv.self.elim
  | lambda .., _, hv, _ => hv.self.elim
  | builtin .., _, hv, _ => hv.self.elim

lemma nestingOfItems_eq_of_same : ∀ vs ws : List Value, (∀ v ∈ vs, v.Readable) →
    sameItems vs ws = true → nestingOfItems ws = nestingOfItems vs
  | [], [], _, _ => rfl
  | v :: vs, w :: ws, hv, h => by
    rw [sameItems, Bool.and_eq_true] at h
    rw [nestingOfItems, nestingOfItems, nesting_eq_of_same v w (hv v List.mem_cons_self) h.1,
      nestingOfItems_eq_of_same vs ws (fun u hu => hv u (List.mem_cons_of_mem v hu)) h.2]
  | [], _ :: _, _, h => by cases h
  | _ :: _, [], _, h => by cases h

end

lemma equal_of_same (hv : v.Readable) (h : v.same w = true) : v.equal w = true := by
  cases v with
  | number n =>
    cases w with
    | number m =>
      rw [equal, ← Number.same_of_not_isNan (Number.isNan_of_isFinite hv.self)]
      exact h
    | _ => exact h
  | _ => exact h

lemma forall₂_equal {vs ws : List Value} (hv : ∀ v ∈ vs, v.Readable)
    (h : List.Forall₂ (fun v w => v.same w = true) vs ws) :
    List.Forall₂ (fun v w => v.equal w = true) vs ws := by
  induction h with
  | nil => exact .nil
  | cons hsame _ ih =>
    rw [List.forall_mem_cons] at hv
    exact .cons (equal_of_same hv.1 hsame) (ih hv.2)

lemma within_of_same {room : Nat} {vs ws : List Value} (hv : ∀ v ∈ vs, v.Readable)
    (hroom : ∀ v ∈ vs, Reading.bracketLevels * v.nesting ≤ room)
    (h : List.Forall₂ (fun v w => v.same w = true) vs ws) : Reading.within room ws = .ok ws := by
  have hall : ∀ w ∈ ws, Reading.bracketLevels * w.nesting ≤ room := by
    induction h with
    | nil => simp
    | @cons v w vs ws hsame _ ih =>
      rw [List.forall_mem_cons] at hv hroom ⊢
      refine ⟨?_, ih hv.2 hroom.2⟩
      rw [nesting_eq_of_same v w hv.1 hsame]
      exact hroom.1
  rw [Reading.within, if_pos]
  simpa using hall

lemma nesting_le_parserLimit {room : Nat} (h : Reading.bracketLevels * v.nesting ≤ room) :
    v.nesting ≤ Reading.parserLimit room := by
  simp only [Reading.bracketLevels, Reading.parserLimit, Reading.parserLevels] at h ⊢
  omega

end Value

theorem readProgram_display (names : Builtin → Option String) {room : Nat} {values : List Value}
    (hv : ∀ v ∈ values, v.Readable) (hroom : ∀ v ∈ values, Reading.bracketLevels * v.nesting ≤ room) :
    (∃ ws, readProgram room ("\n".intercalate (values.map (Value.display names))) = .ok ws ∧
      List.Forall₂ (fun v w => v.equal w = true) values ws) ∧
    ∀ v ∈ values, ∃ w, read room (v.display names) = .ok w ∧ v.equal w = true := by
  constructor
  · have hn : ∀ v ∈ values, v.nesting ≤ Reading.parserLimit room :=
      fun v hm => Value.nesting_le_parserLimit (hroom v hm)
    obtain ⟨forms, hparse, hsame⟩ :=
      Value.parseProgram_of_reads hv hn (Value.reads_display_program names hv)
    have hpairs := Value.sameItems_iff.mp hsame
    refine ⟨forms.map Form.value, ?_, Value.forall₂_equal hv hpairs⟩
    rw [readProgram, hparse]
    exact Value.within_of_same hv hroom hpairs
  · intro v hm
    have hv' : ∀ u ∈ [v], u.Readable := List.forall_mem_singleton.mpr (hv v hm)
    have hroom' : ∀ u ∈ [v], Reading.bracketLevels * u.nesting ≤ room :=
      List.forall_mem_singleton.mpr (hroom v hm)
    have hn : ∀ u ∈ [v], u.nesting ≤ Reading.parserLimit room :=
      List.forall_mem_singleton.mpr (Value.nesting_le_parserLimit (hroom v hm))
    have hreads : Lexer.Reads (v.display names).toList ([v].flatMap Value.lexemes) := by
      rw [List.flatMap_singleton]
      exact Value.reads_display names v (hv v hm)
    obtain ⟨forms, hparse, hsame⟩ := Value.parseProgram_of_reads hv' hn hreads
    have hpairs := Value.sameItems_iff.mp hsame
    have hwithin := Value.within_of_same hv' hroom' hpairs
    obtain ⟨form, rfl⟩ : ∃ form, forms = [form] := by
      have hlength := hpairs.length_eq
      rw [List.length_map] at hlength
      exact List.length_eq_one_iff.mp hlength.symm
    refine ⟨form.value, ?_, ?_⟩
    · rw [read, parse, hparse]
      show (do let _ ← Reading.within room [form.value]; Except.ok form.value) = _
      rw [List.map_singleton] at hwithin
      rw [hwithin]
      rfl
    · cases Value.forall₂_equal hv' hpairs with
      | cons h _ => exact h

def specimens : List Value :=
  [.string "a \"b\" \\n; (\x7b",
    .sexpr [.symbol "->x!", .qexpr [.number (.finite true 0 fitsBinary64_zero), .nothing], .string "\n\t\\"],
    .number (.finite false 1 (by decide +kernel))]

theorem readProgram_specimens :
    (∃ ws, readProgram 12 ("\n".intercalate (specimens.map (Value.display fun _ => none))) = .ok ws ∧
      List.Forall₂ (fun v w => v.equal w = true) specimens ws) ∧
    ∀ v ∈ specimens, ∃ w, read 12 (v.display fun _ => none) = .ok w ∧ v.equal w = true := by
  apply readProgram_display
  · have hsymbol : (Value.symbol "->x!").Readable := by
      refine (Value.every_of_children_nil rfl).2 ⟨by decide, ?_, by decide +kernel⟩
      exact List.all_eq_true.mp (by decide +kernel)
    have hstring : ∀ text, (Value.string text).Readable :=
      fun _ => (Value.every_of_children_nil rfl).2 trivial
    have hnumber : ∀ s q h, (Value.number (.finite s q h)).Readable :=
      fun _ _ _ => (Value.every_of_children_nil rfl).2 rfl
    simp [specimens, Value.readable_list, hsymbol, hstring, hnumber]
  · simp [specimens, Value.nesting, Value.nestingOfItems, Reading.bracketLevels]

end CurriedLisp
