import CurriedLisp.Proofs.Syntax.Parsing
import CurriedLisp.Proofs.Value.RoundTrip
import CurriedLisp.Proofs.Value.Words
import CurriedLisp.Store.Bindings

/-! What is typed for a value. Its displayed form is that of one or more values that can be read: a symbol for a
builtin, and the items of a call for a function. -/

namespace CurriedLisp

namespace Value

def single : List Value → Value
  | [v] => v
  | values => .sexpr values

def creation (formals : List String) (body : List Value) : List Value :=
  [.symbol Builtin.lambda.name, .qexpr (formals.map .symbol), .qexpr body]

def typed (names : Builtin → Option String) : Value → List Value
  | lambda formals body _ _ => creation formals body
  | builtin op name => [.symbol ((builtin op name).display names)]
  | v => [v]

def depth : Value → Nat
  | lambda _ body _ _ => nestingOfItems body + 2
  | v => v.nesting

def IsData (v : Value) : Prop :=
  v.Every fun w => w.kind ≠ .function ∧ w.kind ≠ .builtin ∧ ∀ n, w = .number n → n.isFinite

inductive Retypable (globals : Bindings) : Value → Prop
  | data {v : Value} : v.isError = false → v.IsData → Retypable globals v
  | builtin {op : Builtin} {bound called name : String} : (bound, .builtin op called) ∈ globals →
    Retypable globals (.builtin op name)
  | lambda {formals : List String} {body : List Value} {frame : Option FrameId} {called : String} :
    globals.find? Builtin.lambda.name = some (.builtin .lambda called) → (∀ v ∈ body, v.IsData) →
    Retypable globals (.lambda formals body [] frame)

variable {names : Builtin → Option String} {globals : Bindings} {v w : Value} {values ws : List Value}

lemma display_symbol (name : String) : (symbol name).display names = name := rfl

lemma display_symbols (formals : List String) : (formals.map symbol).map (display names) = formals := by
  rw [List.map_map]
  exact List.map_id' formals

lemma isData_list {b : Bracket} {items : List Value} : (list b items).IsData ↔ ∀ v ∈ items, v.IsData :=
  every_list.trans (and_iff_right (by cases b <;> simp [kind]))

lemma isData_symbol (name : String) : (symbol name).IsData := (every_of_children_nil rfl).mpr (by simp [kind])

lemma typed_of_isData (h : v.IsData) : v.typed names = [v] := by
  cases v with
  | lambda => exact (h.self.1 rfl).elim
  | builtin => exact (h.self.2.1 rfl).elim
  | _ => rfl

lemma Retypable.display_eq_spaced (h : v.Retypable globals) :
    v.display names = spaced ((v.typed names).map (display names)) := by
  have hone : ∀ text, spaced [text] = text := fun _ => String.intercalate_singleton
  cases h with
  | data _ hd =>
    rw [typed_of_isData hd, List.map_singleton, hone]
  | builtin _ => exact (hone _).symm
  | lambda _ _ =>
    rw [display, displayWith, displayBindings, displayEach_eq_map, typed, creation, List.map_cons, List.map_cons,
      List.map_singleton, display_list, display_list, display_symbols, display_symbol]
    simp [spaced, String.append_assoc, Builtin.name]

lemma readable_single (hv : ∀ v ∈ values, v.Readable) : (single values).Readable := by
  match values, hv with
  | [], hv => exact readable_list.mpr hv
  | [v], hv => exact hv v List.mem_cons_self
  | _ :: _ :: _, hv => exact readable_list.mpr hv

lemma same_single (h : sameItems values ws = true) : (single values).same (single ws) = true := by
  cases sameItems_iff.mp h with
  | nil => rfl
  | cons hfirst hrest =>
    cases hrest with
    | nil => exact hfirst
    | cons => exact h

lemma nestingOfItems_le_single (values : List Value) : nestingOfItems values ≤ (single values).nesting := by
  match values with
  | [] => exact Nat.zero_le _
  | [v] => exact Nat.max_le.mpr ⟨le_rfl, Nat.zero_le _⟩
  | _ :: _ :: _ => exact Nat.le_succ _

lemma nesting_le_nestingOfItems (h : v ∈ values) : v.nesting ≤ nestingOfItems values := by
  induction values with
  | nil => cases h
  | cons first rest ih =>
    rcases List.mem_cons.mp h with rfl | h
    · exact le_max_left _ _
    · exact (ih h).trans (le_max_right _ _)

lemma readable_of_isData (hw : v.Worded) (he : v.Every fun u => u.isError = false) (hd : v.IsData) :
    v.Readable := by
  intro u hu
  obtain ⟨hnames, -⟩ := hw u hu
  have herror := he u hu
  obtain ⟨hfunction, hbuiltin, hfinite⟩ := hd u hu
  cases u with
  | number n => exact hfinite n rfl
  | symbol name => exact hnames name (List.mem_singleton.mpr rfl)
  | string text => trivial
  | list b items => trivial
  | error message => cases herror
  | lambda => exact (hfunction rfl).elim
  | builtin => exact (hbuiltin rfl).elim

lemma readable_symbol {name : String} : (symbol name).Readable ↔ IsWord name := every_of_children_nil rfl

lemma Retypable.readable_typed (h : v.Retypable globals) (hn : ∀ op name, names op = some name → IsWord name)
    (hw : v.Worded) (he : v.Every fun u => u.isError = false) : ∀ u ∈ v.typed names, u.Readable := by
  cases h with
  | data _ hd =>
    rw [typed_of_isData hd]
    exact List.forall_mem_singleton.mpr (readable_of_isData hw he hd)
  | @builtin op _ _ _ _ =>
    refine List.forall_mem_singleton.mpr (readable_symbol.mpr ?_)
    rw [display, displayWith]
    cases hname : names op with
    | none =>
      rw [Option.getD_none]
      decide +kernel
    | some name => exact hn op name hname
  | @lambda formals body _ _ _ hd =>
    obtain ⟨⟨hformals, -⟩, hbody, -⟩ := worded_lambda.mp hw
    obtain ⟨-, hclean, -⟩ := every_lambda.mp he
    have hsymbols : ∀ u ∈ formals.map symbol, u.Readable :=
      List.forall_mem_map.mpr fun name hname => readable_symbol.mpr (hformals name hname)
    have hitems : ∀ u ∈ body, u.Readable :=
      fun u hu => readable_of_isData (hbody u hu) (hclean u hu) (hd u hu)
    have hoperation : (symbol Builtin.lambda.name).Readable := readable_symbol.mpr (isWord_builtin .lambda)
    have hlists : ∀ u ∈ [qexpr (formals.map symbol), qexpr body], u.Readable :=
      List.forall_mem_cons.mpr
        ⟨readable_list.mpr hsymbols, List.forall_mem_singleton.mpr (readable_list.mpr hitems)⟩
    exact List.forall_mem_cons.mpr ⟨hoperation, hlists⟩

lemma eq_of_same_symbol {name : String} (h : (symbol name).same w = true) : w = symbol name := by
  cases w with
  | symbol other => exact congrArg symbol (eq_of_beq h).symm
  | _ => cases h

lemma eq_list_of_same {b : Bracket} (h : (list b values).same w = true) :
    ∃ ws, w = list b ws ∧ sameItems values ws = true := by
  cases w with
  | list c ws =>
    rw [same, Bool.and_eq_true] at h
    obtain rfl := eq_of_beq h.1
    exact ⟨ws, rfl, h.2⟩
  | _ => cases h

lemma eq_symbols_of_same {formals : List String} (h : sameItems (formals.map symbol) ws = true) :
    ws = formals.map symbol := by
  induction formals generalizing ws with
  | nil =>
    cases sameItems_iff.mp h
    rfl
  | cons formal rest ih =>
    cases ws with
    | nil => cases h
    | cons w ws =>
      rw [List.map_cons, sameItems, Bool.and_eq_true] at h
      rw [eq_of_same_symbol h.1, ih h.2, List.map_cons]

lemma eq_of_same_creation {formals : List String} {body : List Value}
    (h : (sexpr (creation formals body)).same w = true) :
    ∃ body', w = sexpr (creation formals body') ∧ sameItems body body' = true := by
  obtain ⟨ws, rfl, hitems⟩ := eq_list_of_same h
  obtain - | ⟨hoperation, - | ⟨hformals, - | ⟨hbody, ⟨⟩⟩⟩⟩ := sameItems_iff.mp hitems
  obtain rfl := eq_of_same_symbol hoperation
  obtain ⟨symbols, rfl, hsymbols⟩ := eq_list_of_same hformals
  obtain rfl := eq_symbols_of_same hsymbols
  obtain ⟨body', rfl, hbody⟩ := eq_list_of_same hbody
  exact ⟨body', rfl, hbody⟩

lemma settled_of_same (hv : v.Settled) (h : v.same w = true) : w.Settled := by
  cases v with
  | error | symbol => exact hv.elim
  | list b items =>
    obtain ⟨ws, rfl, hitems⟩ := eq_list_of_same h
    cases sameItems_iff.mp hitems with
    | nil => exact hv
    | cons => cases b with
      | round => exact hv.elim
      | curly => trivial
  | _ => cases w <;> trivial

lemma nestingOfItems_symbols (formals : List String) : nestingOfItems (formals.map symbol) = 0 := by
  induction formals with
  | nil => rfl
  | cons formal rest ih => simp [nestingOfItems, ih, nesting]

lemma nesting_typed (v : Value) : (single (v.typed names)).nesting = v.depth := by
  cases v with
  | lambda formals body own frame =>
    simp only [typed, creation, single, nesting, nestingOfItems, nestingOfItems_symbols, depth]
    omega
  | _ => rfl

end Value

lemma Form.value_single (forms : List Form) :
    (Form.single forms).value = Value.single (forms.map Form.value) := by
  match forms with
  | [] => rfl
  | [form] => rfl
  | first :: second :: rest =>
    rw [Form.single, Form.value, Form.values_eq_map]
    · rfl
    · simp

lemma parseProgram_of_larger {enough : Nat} {source : String} {forms : List Form}
    (h : parseProgram enough source = .ok forms) (limit : Nat) :
    parseProgram limit source = .ok forms ∨ parseProgram limit source = .error .tooDeep ∧ limit < enough := by
  rcases Nat.lt_or_ge limit enough with hlimit | hlimit
  · rcases parseProgram_mono hlimit.le source with hdeep | hsame
    · exact .inr ⟨hdeep, hlimit⟩
    · exact .inl (hsame.trans h)
  · rcases parseProgram_mono hlimit source with hdeep | hsame
    · cases h.symm.trans hdeep
    · exact .inl (hsame.symm.trans h)

lemma read_of_parse {room : Nat} {source : String} {form : Form}
    (h : parse (Reading.parserLimit room) source = .ok form) :
    read room source =
      if Reading.bracketLevels * form.value.nesting ≤ room then .ok form.value else .error .tooDeep := by
  rw [read, h]
  show (Reading.within room [form.value] >>= fun _ => .ok form.value) = _
  by_cases hroom : Reading.bracketLevels * form.value.nesting ≤ room
  · have hwithin : Reading.within room [form.value] = .ok [form.value] := if_pos (by simpa using hroom)
    rw [hwithin, if_pos hroom]
    rfl
  · have hwithin : Reading.within room [form.value] = .error .tooDeep := if_neg (by simpa using hroom)
    rw [hwithin, if_neg hroom]
    rfl

lemma read_spaced (names : Builtin → Option String) {values : List Value} (hv : ∀ v ∈ values, v.Readable) :
    ∃ w, (Value.single values).same w = true ∧ ∀ room,
      read room (spaced (values.map (Value.display names))) =
        if Reading.bracketLevels * (Value.single values).nesting ≤ room then .ok w else .error .tooDeep := by
  have hreads : Lexer.Reads (spaced (values.map (Value.display names))).toList (values.flatMap Value.lexemes) :=
    Lexer.Reads.intercalate rfl Text.isBlank_space _ _ (Value.reads_display_items names values hv)
  obtain ⟨forms, hparse, hsame⟩ :=
    Value.parseProgram_of_reads hv (fun v hm => Value.nesting_le_nestingOfItems hm) hreads
  have hsingle := Value.same_single hsame
  have hnesting := Value.nesting_eq_of_same _ _ (Value.readable_single hv) hsingle
  refine ⟨_, hsingle, fun room => ?_⟩
  rcases parseProgram_of_larger hparse (Reading.parserLimit room) with hp | ⟨hp, hlimit⟩
  · have hform : parse (Reading.parserLimit room) (spaced (values.map (Value.display names))) =
        .ok (Form.single forms) := by
      rw [parse, hp]
      rfl
    rw [read_of_parse hform, Form.value_single, hnesting]
  · have hdeep : ¬ Reading.bracketLevels * (Value.single values).nesting ≤ room := by
      intro hroom
      have hle := Value.nesting_le_parserLimit hroom
      have := Value.nestingOfItems_le_single values
      omega
    rw [read, parse, hp, if_neg hdeep]
    rfl

lemma Value.Retypable.read_display {names : Builtin → Option String} {globals : Bindings} {v : Value}
    (h : v.Retypable globals) (hn : ∀ op name, names op = some name → IsWord name) (hw : v.Worded)
    (he : v.Every fun u => u.isError = false) :
    ∃ e, (Value.single (v.typed names)).same e = true ∧ ∀ room, read room (v.display names) =
      if Reading.bracketLevels * v.depth ≤ room then .ok e else .error .tooDeep := by
  obtain ⟨e, hsame, hread⟩ := read_spaced names (h.readable_typed hn hw he)
  refine ⟨e, hsame, fun room => ?_⟩
  rw [h.display_eq_spaced, hread, Value.nesting_typed]

end CurriedLisp
