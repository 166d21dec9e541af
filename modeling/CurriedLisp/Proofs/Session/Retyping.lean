import CurriedLisp.Proofs.Eval.BuiltinEffects
import CurriedLisp.Proofs.Eval.Currying
import CurriedLisp.Proofs.Session.NormalForms
import CurriedLisp.Proofs.Session.Vocabulary
import CurriedLisp.Proofs.Store.Naming
import CurriedLisp.Proofs.Value.Typed

namespace CurriedLisp

open Eval Session

lemma Value.Retypable.isError {globals : Bindings} {v : Value} (h : v.Retypable globals) :
    v.isError = false := by
  cases h with
  | data h _ => exact h
  | builtin _ => rfl
  | lambda _ _ => rfl

lemma exists_builtin {found : Option Value} {op : Builtin} (h : found.any (·.equal (.ofBuiltin op)) = true) :
    ∃ called, found = some (.builtin op called) := by
  cases found with
  | none => cases h
  | some v =>
    obtain ⟨called, rfl⟩ := Value.equal_builtin_iff.mp h
    exact ⟨called, rfl⟩

section Evaluation

variable {files : Files} {room : Nat} {env : FrameId} {s : State}

lemma lambda_action (st : Store) (env : FrameId) (formals : List String) (body : List Value) :
    ∃ frame, Builtin.action st env .lambda [.qexpr (formals.map .symbol), .qexpr body] =
      .ok (.give (.lambda formals body [] frame)) := by
  have hcreated : ∃ frame, Builtin.newFunction st env (formals.map .symbol) body =
      .ok (.lambda formals body [] frame) := by
    rw [Builtin.newFunction, Contract.symbolNames_eq_ok.mpr rfl]
    exact ⟨_, rfl⟩
  obtain ⟨frame, hframe⟩ := hcreated
  refine ⟨frame, ?_⟩
  show (do .ok (.give (← Builtin.newFunction st env (formals.map .symbol) body)) : Except Complaint Action) = _
  rw [hframe]
  rfl

lemma evaluate_creation {called : String} (formals : List String) (body : List Value)
    (hop : s.store.get? env Builtin.lambda.name = some (.builtin .lambda called)) :
    ∃ frame, result (evaluate files (room + 3) env (.sexpr (Value.creation formals body))) s =
        .ok (.lambda formals body [] frame) ∧
      final (evaluate files (room + 3) env (.sexpr (Value.creation formals body))) s = s := by
  obtain ⟨frame, haction⟩ := lambda_action s.store env formals body
  have hlist : ∀ items, evaluate files (room + 1) env (.qexpr items) = pure (.qexpr items) :=
    fun items => evaluate_eq_pure files room env (.inl trivial)
  have hcall : evaluate files (room + 3) env (.sexpr (Value.creation formals body)) =
      evaluate files (room + 1) env (.symbol Builtin.lambda.name) >>= fun v => Evaluator.unlessError v fun v =>
        Evaluator.applyValues files (room + 2) (fun less => evaluate files (room + 2 - less)) env
          [v, .qexpr (formals.map .symbol), .qexpr body] := by
    rw [evaluate_succ, Evaluator.step, Evaluator.call_eq]
    show (evaluate files (room + 1)).withValues env (Value.creation formals body) _ = _
    simp only [Value.creation, Evaluator.withValues_cons, hlist, pure_bind, Evaluator.unlessError]
    simp [Evaluator.withValues, Evaluator.items]
  obtain ⟨hhead, hstill⟩ := @evaluate_symbol files room env s Builtin.lambda.name
  rw [hop, Option.getD_some] at hhead
  obtain ⟨happlied, hleft⟩ := Evaluator.applyBuiltin_of_action files (room + 2)
    (fun less => evaluate files (room + 2 - less)) haction
  refine ⟨frame, ?_⟩
  rw [hcall, (bind_of_ok hhead).1, (bind_of_ok hhead).2, hstill]
  exact ⟨happlied, hleft⟩

def StandsFor (files : Files) (room : Nat) (env : FrameId) (s : State) (e v : Value) : Prop :=
  (∃ u, result (evaluate files room env e) s = .ok u ∧ v.equal u = true) ∧
    final (evaluate files room env e) s = s

lemma standsFor_data {e v : Value} (hs : v.Settled) (hr : v.Readable) (he : v.same e = true) :
    StandsFor files (room + 1) env s e v := by
  have hpure := evaluate_eq_pure files room env (.inl (Value.settled_of_same hs he))
  rw [StandsFor, hpure]
  exact ⟨⟨e, rfl, Value.equal_of_same hr he⟩, rfl⟩

lemma standsFor_builtin {op : Builtin} {name called shown : String}
    (hop : s.store.get? env shown = some (.builtin op called)) :
    StandsFor files (room + 1) env s (.symbol shown) (.builtin op name) := by
  obtain ⟨hresult, hfinal⟩ := @evaluate_symbol files room env s shown
  rw [hop, Option.getD_some] at hresult
  exact ⟨⟨_, hresult, Value.equal_builtin_iff.mpr ⟨name, rfl⟩⟩, hfinal⟩

lemma standsFor_lambda {formals : List String} {body body' : List Value} {frame : Option FrameId}
    {called : String} (hop : s.store.get? env Builtin.lambda.name = some (.builtin .lambda called))
    (hb : Value.sameItems body body' = true) :
    StandsFor files (room + 3) env s (.sexpr (Value.creation formals body')) (.lambda formals body [] frame) := by
  obtain ⟨frame', hresult, hfinal⟩ := @evaluate_creation files room env s called formals body' hop
  refine ⟨⟨_, hresult, ?_⟩, hfinal⟩
  simp [Value.equal, Value.same, hb, Value.sameBindings]

end Evaluation

namespace Session

inductive Obtains (scoping : Scoping) : State → Value → Prop
  | now (w : World) (i : Input) {s : State} {vs : List Value} {v : Value} : Reachable scoping s →
    result (i.run w) s = .ok vs → v ∈ vs → Obtains scoping (final (i.run w) s) v
  | before (w : World) (i : Input) {s : State} {v : Value} : Obtains scoping s v →
    Obtains scoping (final (i.run w) s) v

variable {scoping : Scoping} {s : State} {v : Value}

lemma Obtains.reachable (h : Obtains scoping s v) : Reachable scoping s := by
  induction h with
  | now w i hs _ _ => exact .input w i hs
  | before w i _ ih => exact .input w i ih

lemma Obtains.normal (h : Obtains scoping s v) : v.Normal ∨ v.isError = true := by
  induction h with
  | now w i hs hvs hv =>
    exact normal_of_result ((run_preserves i (hs.disciplined (.normal scoping))).post _ hvs _ hv)
  | before _ _ _ ih => exact ih

lemma Obtains.worded (h : Obtains scoping s v) : v.Worded := by
  induction h with
  | now w i hs hvs hv => exact (run_worded i _ hs.worded).2 _ hvs _ hv
  | before _ _ _ ih => exact ih

theorem Obtains.comparable (h : Obtains scoping s v)
    (hn : v.Every fun w => ∀ n, w = .number n → n.isNan = false) : v.Comparable :=
  fun w hw => ⟨hn w hw, (h.worded w hw).2⟩

lemma Reachable.get?_global (h : Reachable scoping s) (name : String) :
    s.store.get? globalFrame name = (s.store.bindings globalFrame).find? name :=
  Store.get?_of_endsIn (Reachable.disciplined (.normal scoping) h).global name

lemma Reachable.builtinName?_global (h : Reachable scoping s) (op : Builtin) :
    s.store.builtinName? globalFrame op = (s.store.bindings globalFrame).nameOf? (.ofBuiltin op) := by
  obtain ⟨f, hf, ho⟩ := (Reachable.disciplined (.normal scoping) h).global.global
  rw [Store.builtinName?, Store.nameOf?_of_frame? hf, ho, Store.bindings, hf]
  exact Option.or_none

lemma Reachable.isWord_builtinName? (h : Reachable scoping s) {op : Builtin} {name : String}
    (hn : s.store.builtinName? globalFrame op = some name) : IsWord name := by
  rw [h.builtinName?_global] at hn
  obtain ⟨w, hw, -⟩ := Bindings.find?_of_nameOf? (h.worded.distinct _) hn
  exact h.worded.words name (List.mem_map_of_mem (Bindings.mem_of_find? hw))

lemma Reachable.get?_builtinName? (h : Reachable scoping s) {op : Builtin} {bound called : String}
    (hb : (bound, .builtin op called) ∈ s.store.bindings globalFrame) :
    ∃ shown other, s.store.builtinName? globalFrame op = some shown ∧
      s.store.get? globalFrame shown = some (.builtin op other) := by
  have hnamed : ((s.store.bindings globalFrame).nameOf? (.ofBuiltin op)).isSome :=
    Bindings.isSome_nameOf? hb (Value.equal_builtin_iff.mpr ⟨called, rfl⟩)
  obtain ⟨shown, hshown⟩ := Option.isSome_iff_exists.mp hnamed
  obtain ⟨u, hfind, hequal⟩ := Bindings.find?_of_nameOf? (h.worded.distinct _) hshown
  obtain ⟨other, rfl⟩ := Value.equal_builtin_iff.mp hequal
  refine ⟨shown, other, ?_, ?_⟩
  · rw [h.builtinName?_global]
    exact hshown
  · rw [h.get?_global]
    exact hfind

lemma Obtains.standsFor (h : Obtains scoping s v) (hr : v.Retypable (s.store.bindings globalFrame)) {e : Value}
    (he : (Value.single (v.typed (s.store.builtinName? globalFrame))).same e = true) (files : Files) {room : Nat}
    (hroom : Reading.bracketLevels * v.depth ≤ room + 1) : StandsFor files (room + 1) globalFrame s e v := by
  cases hr with
  | data herror hdata =>
    obtain ⟨hsettled, hclean⟩ := h.normal.resolve_right (by simp [herror])
    rw [Value.typed_of_isData hdata] at he
    exact standsFor_data hsettled (Value.readable_of_isData h.worded (hclean.mono fun _ hw => hw.1) hdata) he
  | builtin hbound =>
    obtain ⟨shown, other, hshown, hget⟩ := h.reachable.get?_builtinName? hbound
    rw [Value.typed, Value.display, Value.displayWith, hshown] at he
    obtain rfl := Value.eq_of_same_symbol he
    exact standsFor_builtin hget
  | lambda hop hbody =>
    obtain ⟨body', rfl, hsame⟩ := Value.eq_of_same_creation he
    obtain ⟨room, rfl⟩ : ∃ more, room = more + 2 := by
      simp only [Reading.bracketLevels, Value.depth] at hroom
      exact ⟨room - 2, by omega⟩
    rw [← h.reachable.get?_global] at hop
    exact standsFor_lambda hop hsame

/-- With too little room there is no value, but never another one. -/
theorem display_evaluates (h : Obtains scoping s v) (hr : v.Retypable (s.store.bindings globalFrame)) (w : World) :
    final (Session.display v >>= Session.eval w) s = s ∧
      ((∃ u, result (Session.display v >>= Session.eval w) s = .ok u ∧ v.equal u = true) ∨
        result (Session.display v >>= Session.eval w) s = .error .tooDeep ∧
          w.room ≤ Reading.bracketLevels * v.depth) := by
  have hshow : result (Session.display v) s = .ok (v.display (s.store.builtinName? globalFrame)) := rfl
  have hstill : final (Session.display v) s = s := rfl
  obtain ⟨-, hclean⟩ := h.normal.resolve_right (by simp [hr.isError])
  obtain ⟨e, hsame, hread⟩ := hr.read_display (fun _ _ => h.reachable.isWord_builtinName?) h.worded
    (hclean.mono fun _ hu => hu.1)
  rw [(bind_of_ok hshow).1, (bind_of_ok hshow).2, hstill, Session.eval, hread]
  by_cases hroom : Reading.bracketLevels * v.depth ≤ w.room
  · rw [if_pos hroom, reading, pure_bind, Session.evaluate, World.evaluate]
    cases hw : w.room with
    | zero => exact ⟨rfl, .inr ⟨rfl, Nat.zero_le _⟩⟩
    | succ room =>
      obtain ⟨hvalue, hfinal⟩ := h.standsFor hr hsame w.files (hw ▸ hroom)
      exact ⟨hfinal, .inl hvalue⟩
  · rw [if_neg hroom]
    exact ⟨rfl, .inr ⟨rfl, Nat.le_of_not_le hroom⟩⟩

def function (frame : Option FrameId) : Value := .lambda ["x", "..."] [.symbol "f", .qexpr [.symbol "x"]] [] frame

def adding (called : String) : Value := .builtin (.arithmetic .add) called

def showFunction : Input := .eval "\\ \x7bx ...\x7d \x7bf \x7bx\x7d\x7d"

def showAdding : Input := .eval "+"

def renamed : State :=
  final (Input.run sampleWorld (.evalAll "(def \x7bplus\x7d +) (def \x7b+\x7d 1)"))
    (final (showAdding.run sampleWorld) (final (showFunction.run sampleWorld) (sample .dynamic)))

lemma run_eval {w : World} {code : String} {e u : Value} (hread : read w.room code = .ok e)
    (hu : result (CurriedLisp.evaluate w.files w.room globalFrame e) s = .ok u) :
    result (Input.run w (.eval code)) s = .ok [u] := by
  have heval : result (Session.eval w code) s = .ok u := by
    rw [Session.eval, hread]
    exact hu
  exact (bind_of_ok heval).1

theorem display_evaluates_renamed :
    (∃ frame, final (Session.display (function frame) >>= Session.eval sampleWorld) renamed = renamed ∧
      ∃ u, result (Session.display (function frame) >>= Session.eval sampleWorld) renamed = .ok u ∧
        (function frame).equal u = true) ∧
    ∃ called, final (Session.display (adding called) >>= Session.eval sampleWorld) renamed = renamed ∧
      ∃ u, result (Session.display (adding called) >>= Session.eval sampleWorld) renamed = .ok u ∧
        (adding called).equal u = true := by
  constructor
  · obtain ⟨_, hlambda⟩ : ∃ called, (sample .dynamic).store.get? globalFrame Builtin.lambda.name =
        some (.builtin .lambda called) := exists_builtin (by decide +kernel)
    obtain ⟨_, hstays⟩ : ∃ called, (renamed.store.bindings globalFrame).find? Builtin.lambda.name =
        some (.builtin .lambda called) := exists_builtin (by decide +kernel)
    have hread : read sampleWorld.room "\\ \x7bx ...\x7d \x7bf \x7bx\x7d\x7d" =
        .ok (.sexpr (Value.creation ["x", "..."] [.symbol "f", .qexpr [.symbol "x"]])) := by cbv
    obtain ⟨frame, hresult, -⟩ := @evaluate_creation .none 17 globalFrame _ _ ["x", "..."]
      [.symbol "f", .qexpr [.symbol "x"]] hlambda
    have hobtains : Obtains .dynamic renamed (function frame) :=
      .before _ _ (.before _ _ (.now sampleWorld showFunction (reachable_sample .dynamic)
        (run_eval hread hresult) (List.mem_singleton.mpr rfl)))
    have hbody : ∀ v ∈ [Value.symbol "f", .qexpr [.symbol "x"]], v.IsData := by
      simp [Value.isData_list, Value.isData_symbol]
    obtain ⟨hfinal, hvalue⟩ := display_evaluates hobtains (.lambda hstays hbody) sampleWorld
    exact ⟨frame, hfinal, hvalue.resolve_right fun hdeep => absurd hdeep.2 (show ¬ 20 ≤ 12 by decide)⟩
  · have hread : read sampleWorld.room "+" = .ok (.symbol "+") := by cbv
    obtain ⟨called, hadding⟩ : ∃ called,
        (final (showFunction.run sampleWorld) (sample .dynamic)).store.get? globalFrame "+" =
          some (adding called) := exists_builtin (by decide +kernel)
    obtain ⟨_, hplus⟩ : ∃ called, (renamed.store.bindings globalFrame).find? "plus" = some (adding called) :=
      exists_builtin (by decide +kernel)
    obtain ⟨hresult, -⟩ := @evaluate_symbol .none 19 globalFrame
      (final (showFunction.run sampleWorld) (sample .dynamic)) "+"
    rw [hadding] at hresult
    have hobtains : Obtains .dynamic renamed (adding called) :=
      .before _ _ (.now sampleWorld showAdding (.input sampleWorld showFunction (reachable_sample .dynamic))
        (run_eval hread hresult) (List.mem_singleton.mpr rfl))
    obtain ⟨hfinal, hvalue⟩ := display_evaluates hobtains (.builtin (Bindings.mem_of_find? hplus)) sampleWorld
    exact ⟨called, hfinal, hvalue.resolve_right fun hdeep => absurd hdeep.2 (show ¬ 20 ≤ 0 by decide)⟩

end Session

end CurriedLisp
