import CurriedLisp.Proofs.Eval.Contexts
import CurriedLisp.Proofs.Eval.Currying
import CurriedLisp.Proofs.Syntax.Continuation
import CurriedLisp.Proofs.Value.Typed
import CurriedLisp.Session.Basic

/-! Redundant round brackets. Around a source that can be read they are read as one more call around its forms, and
a call of one item is that item. So they change nothing but the room that is needed. -/

namespace CurriedLisp

open Eval Evaluator Lexer

/-- The newline ends a comment in which the text may end. -/
def enclosed (text : String) : String := "(" ++ text ++ "\n" ++ ")"

def Token.enclosed (first last : Nat) (tokens : List Token) : List Token :=
  ⟨.opening .round, first⟩ :: tokens ++ [⟨.closing .round, last⟩]

variable {files : Files} {room larger limit enough more : Nat} {env : FrameId} {text : String} {forms : List Form}
  {tokens : List Token} {s t u : State} {e e' v : Value}

section Reading

lemma lex_enclosed (hc : (lex text).unclosed = none) :
    ∃ last, lex (enclosed text) = ⟨Token.enclosed 1 last (lex text).tokens, none⟩ := by
  have hclosing := covers_closing (1 + newlines text.toList + 1) [.round]
  have hinside := (covers_lex text).lines hc hclosing
  have hopening : Covers 1 ([] ++ (Lexeme.opening .round).text.toList ++ (text.toList ++ '\n' :: [')'])) _ :=
    .token .nil trivial trivial hinside
  have htext : (enclosed text).toList =
      [] ++ (Lexeme.opening .round).text.toList ++ (text.toList ++ '\n' :: [')']) := by
    simp [enclosed, Lexeme.text, Bracket.opening]
  exact ⟨_, lex_eq_iff.mpr (htext ▸ hopening)⟩

lemma Sentence.viable_of_prefix {before : List Token} (h : Sentence (tokens.map Token.lexeme))
    (hp : before <+: tokens) : Viable (before.map Token.lexeme) := by
  obtain ⟨after, rfl⟩ := hp
  rw [List.map_append] at h
  exact h.viable.of_append

lemma sentence_enclosed (h : Sentence (tokens.map Token.lexeme)) (first last : Nat) :
    Sentence ((Token.enclosed first last tokens).map Token.lexeme) := by
  rw [Token.enclosed, List.map_append]
  exact .list .round h .nil

lemma bracketBalance_opening (first : Nat) (tokens : List Token) :
    bracketBalance (⟨.opening .round, first⟩ :: tokens) = 1 + bracketBalance tokens := by
  rw [← List.singleton_append, bracketBalance_append, bracketBalance_singleton]
  rfl

lemma Sentence.nestsWithin_iff (h : Sentence (tokens.map Token.lexeme)) :
    NestsWithin limit tokens ↔ ∀ before, before <+: tokens → bracketBalance before ≤ limit :=
  forall₂_congr fun _ hp => forall_prop_of_true (h.viable_of_prefix hp)

lemma nestsWithin_enclosed (h : Sentence (tokens.map Token.lexeme)) (first last : Nat) :
    NestsWithin (limit + 1) (Token.enclosed first last tokens) ↔ NestsWithin limit tokens := by
  rw [(sentence_enclosed h first last).nestsWithin_iff, h.nestsWithin_iff]
  constructor
  · intro hn before hp
    have hbalance := hn (⟨.opening .round, first⟩ :: before)
      (List.cons_prefix_cons.mpr ⟨rfl, hp.trans (List.prefix_append _ _)⟩)
    rw [bracketBalance_opening] at hbalance
    omega
  · intro hn before hp
    cases before with
    | nil => exact Int.natCast_nonneg _
    | cons t inside =>
      obtain ⟨rfl, hinside⟩ := List.cons_prefix_cons.mp hp
      rw [bracketBalance_opening]
      rcases List.prefix_concat_iff.mp hinside with rfl | hinside
      · have hbalance := hn tokens (List.prefix_refl tokens)
        rw [bracketBalance_append, bracketBalance_singleton]
        simp only [Lexeme.change]
        omega
      · have hbalance := hn inside hinside
        omega

lemma parseProgram_enclosed (h : parseProgram enough text = .ok forms) (limit : Nat) :
    parseProgram (limit + 1) (enclosed text) =
      (parseProgram limit text).map fun forms => [.list 1 .round forms] := by
  obtain ⟨-, hclosed, hspells⟩ := parseProgram_eq_iff.mp h
  obtain ⟨last, hlex⟩ := lex_enclosed hclosed
  have hnests : NestsWithin (limit + 1) (Token.enclosed 1 last (lex text).tokens) ↔
      NestsWithin limit (lex text).tokens := nestsWithin_enclosed hspells.sentence 1 last
  rw [parseProgram_eq_iff, hlex]
  rcases parseProgram_of_larger h limit with hok | ⟨hdeep, -⟩
  · rw [hok]
    exact ⟨hnests.mpr (parseProgram_eq_iff.mp hok).1, rfl, .list .round 1 last hspells .nil⟩
  · rw [hdeep]
    exact fun hn => parseProgram_eq_iff.mp hdeep (hnests.mp hn)

lemma read_eq_or_tooDeep (h : parseProgram enough text = .ok forms) (room : Nat) :
    read room text = .ok (Value.single (forms.map Form.value)) ∧
        parseProgram (Reading.parserLimit room) text = .ok forms ∧
        Reading.bracketLevels * (Value.single (forms.map Form.value)).nesting ≤ room ∨
      read room text = .error .tooDeep ∧ ¬ (parseProgram (Reading.parserLimit room) text = .ok forms ∧
        Reading.bracketLevels * (Value.single (forms.map Form.value)).nesting ≤ room) := by
  rcases parseProgram_of_larger h (Reading.parserLimit room) with hp | ⟨hp, -⟩
  · have hparse : parse (Reading.parserLimit room) text = .ok (Form.single forms) := by rw [parse, hp]; rfl
    rw [read_of_parse hparse, Form.value_single, hp]
    split
    · next hroom => exact .inl ⟨rfl, rfl, hroom⟩
    · next hroom => exact .inr ⟨rfl, fun hboth => hroom hboth.2⟩
  · have hparse : parse (Reading.parserLimit room) text = .error .tooDeep := by rw [parse, hp]; rfl
    rw [read, hparse, hp]
    refine .inr ⟨rfl, ?_⟩
    rintro ⟨⟨⟩, -⟩

lemma read_eq_ok (h : parseProgram (Reading.parserLimit room) text = .ok forms)
    (hroom : Reading.bracketLevels * (Value.single (forms.map Form.value)).nesting ≤ room) :
    read room text = .ok (Value.single (forms.map Form.value)) := by
  rcases read_eq_or_tooDeep h room with hread | hdeep
  · exact hread.1
  · exact absurd ⟨h, hroom⟩ hdeep.2

lemma Value.nesting_single_le (values : List Value) : (single values).nesting ≤ nestingOfItems values + 1 := by
  match values with
  | [] => exact Nat.le_refl 1
  | [v] => simp [single, nestingOfItems]
  | v :: w :: rest => exact Nat.le_refl _

lemma parseProgram_of_enclosed (h : parseProgram enough text = .ok forms) :
    parseProgram (enough + 1) (enclosed text) = .ok [.list 1 .round forms] := by
  rw [parseProgram_enclosed h, h]
  rfl

lemma value_enclosed (forms : List Form) :
    Value.single ([Form.list 1 .round forms].map Form.value) = .sexpr (forms.map Form.value) := by
  rw [List.map_singleton, Value.single, Form.value, Form.values_eq_map]

lemma read_of_enclosed (h : parseProgram enough text = .ok forms) (room : Nat) :
    read room (enclosed text) = .error .tooDeep ∨
      read room (enclosed text) = .ok (.sexpr (forms.map Form.value)) ∧
        read room text = .ok (Value.single (forms.map Form.value)) := by
  rcases read_eq_or_tooDeep (parseProgram_of_enclosed h) room with ⟨hread, hparse, hroom⟩ | ⟨hdeep, -⟩
  · rw [value_enclosed] at hread hroom
    have hinside : parseProgram (Reading.parserLimit room) text = .ok forms := by
      rcases parseProgram_mono (Nat.le_succ _) (enclosed text) with hdeep | hsame
      · cases hparse.symm.trans hdeep
      · rw [hparse, Nat.succ_eq_add_one, parseProgram_enclosed h] at hsame
        rcases parseProgram_of_larger h (Reading.parserLimit room) with hok | ⟨hdeep, -⟩
        · exact hok
        · rw [hdeep] at hsame
          cases hsame
    have hnesting := Value.nesting_single_le (forms.map Form.value)
    exact .inr ⟨hread, read_eq_ok hinside ((Nat.mul_le_mul_left _ hnesting).trans hroom)⟩
  · exact .inl hdeep

lemma read_enclosed (h : parseProgram enough text = .ok forms) (room : Nat) :
    read room text = .error .tooDeep ∨
      read room text = .ok (Value.single (forms.map Form.value)) ∧
        ∀ larger, room + Reading.bracketLevels ≤ larger →
          read larger (enclosed text) = .ok (.sexpr (forms.map Form.value)) := by
  rcases read_eq_or_tooDeep h room with ⟨hread, hparse, hroom⟩ | ⟨hdeep, -⟩
  · refine .inr ⟨hread, fun larger hlarger => ?_⟩
    have houtside : parseProgram (Reading.parserLimit larger) (enclosed text) = .ok [.list 1 .round forms] := by
      have hlimit : Reading.parserLimit room + 1 ≤ Reading.parserLimit larger := by
        simp only [Reading.parserLimit, Reading.parserLevels, Reading.bracketLevels] at hlarger ⊢
        omega
      rcases parseProgram_mono hlimit (enclosed text) with hdeep | hsame
      · cases (parseProgram_of_enclosed hparse).symm.trans hdeep
      · exact hsame.symm.trans (parseProgram_of_enclosed hparse)
    have hnesting := Value.nestingOfItems_le_single (forms.map Form.value)
    rw [← value_enclosed]
    refine read_eq_ok houtside ?_
    rw [value_enclosed, Value.nesting, Nat.mul_succ]
    exact (Nat.add_le_add_right ((Nat.mul_le_mul_left _ hnesting).trans hroom) _).trans hlarger
  · exact .inl hdeep

end Reading

lemma evaluate_group (files : Files) (room : Nat) (env : FrameId) (v : Value) :
    evaluate files room env (.sexpr [v]) = evaluate files (room - 2) env v := by
  cases room with
  | zero => rfl
  | succ room =>
    rw [evaluate_sexpr, withValues_cons, show room + 1 - 2 = room - 1 by omega]
    conv_rhs => rw [← bind_pure (evaluate files (room - 1) env v)]
    refine bind_congr fun w => ?_
    cases w <;> rfl

lemma evaluate_single_value (files : Files) (env : FrameId) (values : List Value) :
    ∃ less ≤ 2, ∀ room,
      evaluate files room env (.sexpr values) = evaluate files (room - less) env (Value.single values) := by
  match values with
  | [] => exact ⟨0, Nat.zero_le _, fun _ => rfl⟩
  | [v] => exact ⟨2, Nat.le_refl _, fun room => evaluate_group files room env v⟩
  | v :: w :: rest => exact ⟨0, Nat.zero_le _, fun _ => rfl⟩

lemma Follows.trans {α : Type} {x y z : Eval α} (h : Follows s t x y) (h' : Follows t u y z) : Follows s u x z := by
  rcases h with hcut | ⟨hresult, halike⟩
  · exact .inl hcut
  · rcases h' with hcut | ⟨hresult', halike'⟩
    · exact .inl (hresult.trans hcut)
    · exact .inr ⟨hresult.trans hresult', halike.trans halike'⟩

def evaluateText (files : Files) (room : Nat) (env : FrameId) (text : String) : Eval Value := do
  evaluate files room env (← Session.reading Session.inputName (read room text))

theorem eval_eq_evaluateText (w : World) (code : String) :
    Session.eval w code = evaluateText w.files w.room Session.globalFrame code := rfl

lemma evaluateText_of_read (h : read room text = .ok v) (files : Files) (env : FrameId) :
    evaluateText files room env text = evaluate files room env v := by
  rw [evaluateText, h]
  rfl

lemma evaluateText_of_tooDeep (h : read room text = .error .tooDeep) :
    result (evaluateText files room env text) s = .error .tooDeep := by
  rw [evaluateText, h]
  rfl

lemma enclosed_follows (h : parseProgram enough text = .ok forms) (room : Nat) (hs : s.Alike t) :
    Follows s t (evaluateText files room env (enclosed text)) (evaluateText files room env text) := by
  rcases read_of_enclosed h room with hdeep | ⟨houtside, hinside⟩
  · exact .of_tooDeep (evaluateText_of_tooDeep hdeep)
  obtain ⟨less, -, hsingle⟩ := evaluate_single_value files env (forms.map Form.value)
  rw [evaluateText_of_read houtside, evaluateText_of_read hinside, hsingle]
  exact evaluate_refines files (Nat.sub_le _ _) s t env _ hs

lemma follows_enclosed (h : parseProgram enough text = .ok forms) (hl : room + Reading.bracketLevels ≤ larger)
    (hs : s.Alike t) :
    Follows s t (evaluateText files room env text) (evaluateText files larger env (enclosed text)) := by
  rcases read_enclosed h room with hdeep | ⟨hinside, houtside⟩
  · exact .of_tooDeep (evaluateText_of_tooDeep hdeep)
  obtain ⟨less, hless, hsingle⟩ := evaluate_single_value files env (forms.map Form.value)
  rw [evaluateText_of_read hinside, evaluateText_of_read (houtside larger hl), hsingle]
  have hroom : room ≤ larger - less := by
    simp only [Reading.bracketLevels] at hl
    omega
  exact evaluate_refines files hroom s t env _ hs

lemma iterated_follows (h : parseProgram enough text = .ok forms) (n room : Nat) (hs : s.Alike t) :
    Follows s t (evaluateText files room env (enclosed^[n] text)) (evaluateText files room env text) := by
  induction n generalizing enough text forms with
  | zero =>
    rcases read_eq_or_tooDeep h room with ⟨hread, -⟩ | ⟨hdeep, -⟩
    · rw [Function.iterate_zero_apply, evaluateText_of_read hread]
      exact evaluate_refines files le_rfl s t env _ hs
    · exact .of_tooDeep (evaluateText_of_tooDeep hdeep)
  | succ n ih =>
    rw [Function.iterate_succ_apply]
    exact (ih (parseProgram_of_enclosed h)).trans (enclosed_follows h room (.refl t))

lemma follows_iterated (h : parseProgram enough text = .ok forms) (n room : Nat) (hs : s.Alike t) :
    Follows s t (evaluateText files room env text)
      (evaluateText files (room + Reading.bracketLevels * n) env (enclosed^[n] text)) := by
  induction n generalizing enough text forms room s t with
  | zero => exact iterated_follows h 0 room hs
  | succ n ih =>
    rw [Function.iterate_succ_apply, Nat.mul_succ, Nat.add_comm (Reading.bracketLevels * n), ← Nat.add_assoc]
    exact (follows_enclosed h le_rfl hs).trans (ih (parseProgram_of_enclosed h) _ (.refl t))

def grouped : Nat → Value → Value
  | 0, v => v
  | n + 1, v => .sexpr [grouped n v]

lemma evaluate_grouped (files : Files) (room : Nat) (env : FrameId) (n : Nat) (v : Value) :
    evaluate files room env (grouped n v) = evaluate files (room - 2 * n) env v := by
  induction n generalizing room with
  | zero => rfl
  | succ n ih => rw [grouped, evaluate_group, ih, Nat.sub_sub, Nat.mul_succ, Nat.add_comm]

lemma applyValues_follows {below above : Nat → Evaluator} (hb : ∀ less, (below less).Refines (above less))
    (hr : room ≤ larger) (hs : s.Alike t) (values : List Value) :
    Follows s t (applyValues files room below env values) (applyValues files larger above env values) := by
  match values with
  | [] => exact .pure hs _
  | [v] => exact .pure hs v
  | head :: a :: args => exact apply_follows hb hr hs (a :: args) head

lemma plug_follows (he : ∀ room larger s t, room + more ≤ larger → s.Alike t →
    Follows s t (evaluate files room env e) (evaluate files larger env e')) (c : List Surround) {room larger : Nat}
    (hl : room + more ≤ larger) (hs : s.Alike t) :
    Follows s t (evaluate files room env (plug c e)) (evaluate files larger env (plug c e')) := by
  induction c generalizing room larger s t with
  | nil => exact he room larger s t hl hs
  | cons around rest ih =>
    rcases room with - | room
    · exact .of_tooDeep rfl
    obtain ⟨larger, rfl⟩ : ∃ n, larger = n + 1 := ⟨larger - 1, by omega⟩
    have hroom : room ≤ larger := by omega
    have hitems : (evaluate files (room - 1)).Refines (evaluate files (larger - 1)) :=
      evaluate_refines files (Nat.sub_le_sub_right hroom 1)
    rw [plug, plug, evaluate_sexpr, evaluate_sexpr, withValues_append, withValues_append]
    refine hitems.withValues hs fun before _ s t hs => ?_
    rw [withValues_cons, withValues_cons]
    have hinside : Follows s t (evaluate files (room - 1) env (plug rest e))
        (evaluate files (larger - 1) env (plug rest e')) := by
      rcases room with - | room
      · exact .of_tooDeep rfl
      · exact ih (by omega) hs
    refine hinside.bind fun v s t hs => ?_
    cases hv : v.isError with
    | true =>
      cases v <;> first | exact .pure hs _ | cases hv
    | false =>
      rw [unlessError_eq hv, unlessError_eq hv]
      exact hitems.withValues hs fun after _ s t hs =>
        applyValues_follows (fun less => evaluate_refines files (Nat.sub_le_sub_right hroom less)) hroom hs _

theorem enclosed_same (h : parseProgram enough text = .ok forms) (files : Files) (env : FrameId) (s : State) (n : Nat) :
    (∀ room, result (evaluateText files room env (enclosed^[n] text)) s ≠ .error .tooDeep →
      SameOutcome s (evaluateText files room env (enclosed^[n] text)) (evaluateText files room env text)) ∧
    (∀ room, result (evaluateText files room env text) s ≠ .error .tooDeep →
      SameOutcome s (evaluateText files room env text)
        (evaluateText files (room + Reading.bracketLevels * n) env (enclosed^[n] text))) ∧
    ∀ (around : List Surround) (e : Value),
      (∀ room, result (evaluate files room env (plug around (grouped n e))) s ≠ .error .tooDeep →
        SameOutcome s (evaluate files room env (plug around (grouped n e))) (evaluate files room env (plug around e))) ∧
      ∀ room, result (evaluate files room env (plug around e)) s ≠ .error .tooDeep →
        SameOutcome s (evaluate files room env (plug around e))
          (evaluate files (room + 2 * n) env (plug around (grouped n e))) := by
  refine ⟨fun room => ?_, fun room => ?_, fun around e => ⟨fun room => ?_, fun room => ?_⟩⟩
  · exact (iterated_follows h n room (.refl s)).sameOutcome
  · exact (follows_iterated h n room (.refl s)).sameOutcome
  · have hless : ∀ room larger s t, room + 0 ≤ larger → s.Alike t →
        Follows s t (evaluate files room env (grouped n e)) (evaluate files larger env e) := by
      intro room larger s t hl hs
      rw [evaluate_grouped]
      exact evaluate_refines files (by omega) s t env e hs
    exact (plug_follows hless around le_rfl (.refl s)).sameOutcome
  · refine (plug_follows (fun room larger s t hl hs => ?_) around le_rfl (.refl s)).sameOutcome
    rw [evaluate_grouped]
    exact evaluate_refines files (by omega) s t env e hs

def commented : String := "head \x7b\"a\"\x7d ; ("

theorem enclosed_same_commented :
    result (evaluateText .none 48 0 (enclosed^[2] commented))
      { store := (Store.empty.withGlobal (some .dynamic)).2 } = .ok (.qexpr [.string "a"]) := by
  have hlex : lex commented = ⟨⟨.atom "head".toList, 1⟩ ::
      (⟨.opening .curly, 1⟩ :: [⟨.string ['a'], 1⟩] ++ [⟨.closing .curly, 1⟩]), none⟩ := by decide +kernel
  have hatom : Form.ofAtom 1 "head".toList = .symbol 1 "head" := by
    rw [Form.ofAtom, show Numeral.read? "head".toList = none by decide +kernel, String.ofList_toList]
  have hspells : Spells [.symbol 1 "head", .list 1 .curly [.string 1 "a"]] (lex commented).tokens := by
    rw [hlex, ← hatom]
    exact .atom 1 _ (.list .curly 1 1 (.string 1 ['a'] .nil) .nil)
  have hparse : parseProgram (Reading.parserLimit 40) commented =
      .ok [.symbol 1 "head", .list 1 .curly [.string 1 "a"]] :=
    parseProgram_eq_iff.mpr ⟨by decide +kernel, by rw [hlex], hspells⟩
  have hread : read 40 commented = .ok (.sexpr [.symbol "head", .qexpr [.string "a"]]) :=
    read_eq_ok hparse (by decide)
  have hrun : result (evaluateText .none 40 0 commented)
      { store := (Store.empty.withGlobal (some .dynamic)).2 } = .ok (.qexpr [.string "a"]) := by
    rw [evaluateText_of_read hread]
    rfl
  obtain ⟨-, hmore, -⟩ := enclosed_same hparse .none 0 { store := (Store.empty.withGlobal (some .dynamic)).2 } 2
  exact (hmore 40 (by rw [hrun]; nofun)).result.symm.trans hrun

end CurriedLisp
