import CurriedLisp.Proofs.Eval.Mirrors
import CurriedLisp.Proofs.Session.BundledPrelude

namespace CurriedLisp

open Eval

namespace Session

def runForms (w : World) (scoping : Scoping) (prelude : Bool) (forms : List Form) : Eval (List Value) := do
  start w (some scoping) prelude
  evaluateEach w (forms.map Form.value)

def runFormsBy (self : Evaluator) (w : World) (scoping : Scoping) (prelude : Bool) (forms : List Form) :
    Eval (List Value) := do
  beginBy self w scoping prelude
  eachBy self (forms.map Form.value)

def settleBy (self : Evaluator) (w : World) (scoping : Scoping) (prelude : Bool) : Eval Unit := do
  Eval.log (.created scoping)
  if prelude then loadUnitsBy self w (← ofExcept w.preludeUnits)

lemma runFormsBy_run (self : Evaluator) (w : World) (scoping : Scoping) (prelude : Bool) (forms : List Form)
    (s : State) :
    result (runFormsBy self w scoping prelude forms) s =
        result (settleBy self w scoping prelude >>= fun _ => eachBy self (forms.map Form.value))
          { s with store := freshStore scoping } ∧
      final (runFormsBy self w scoping prelude forms) s =
        final (settleBy self w scoping prelude >>= fun _ => eachBy self (forms.map Form.value))
          { s with store := freshStore scoping } := by
  have hrun : runFormsBy self w scoping prelude forms = Eval.changeStore (fun _ => freshStore scoping) >>= fun _ =>
      settleBy self w scoping prelude >>= fun _ => eachBy self (forms.map Form.value) := by
    rw [runFormsBy, beginBy, bind_assoc]
    rfl
  have hfirst : result (Eval.changeStore fun _ => freshStore scoping) s = .ok () := rfl
  rw [hrun]
  exact bind_of_ok hfirst

lemma runForms_eq (w : World) (scoping : Scoping) (prelude : Bool) (forms : List Form) :
    runForms w scoping prelude forms = runFormsBy w.evaluate w scoping prelude forms := by
  have hgiven : scopingFor w (some scoping) = .ok scoping := rfl
  rw [runForms, start_eq hgiven, evaluateEach_eq]
  rfl

end Session

namespace Watched

def start (w : World) (prelude : Bool) : Eval Unit :=
  if prelude && (Setting.nonEmpty w.vars "MLISP_PRELUDE_PATH").isSome then
    Session.beginBy (evaluate w.files w.room) w .dynamic prelude
  else Session.start w (some .dynamic) prelude

def runForms (w : World) (prelude : Bool) (forms : List Form) : Eval (List Value) := do
  start w prelude
  Session.eachBy (evaluate w.files w.room) (forms.map Form.value)

lemma runForms_at (w : World) (prelude : Bool) (forms : List Form) (s : State) :
    runForms w prelude forms s = Session.runFormsBy (evaluate w.files w.room) w .dynamic prelude forms s := by
  refine bind_at ?_ fun _ _ => rfl
  unfold start
  split
  · rfl
  · next hown =>
    have hgiven : Session.scopingFor w (some .dynamic) = .ok .dynamic := rfl
    rw [Session.start_eq hgiven]
    exact (Session.beginBy_at fun hp => by simpa [hp] using hown).symm

end Watched

namespace Session

variable {self other : Evaluator} {w : World} {d l s : State}

section InStep

variable (h : self.Mirrors globalFrame other)
include h

lemma eachBy_inStep {forms : List Value} (hs : d.Twins globalFrame l) (hforms : ∀ v ∈ forms, v.Plain) :
    InStep globalFrame (fun _ _ vs ws => vs.map (Value.recapture none) = vs ∧
        ws = vs.map (Value.recapture (some globalFrame))) d l (eachBy self forms) (eachBy other forms) := by
  induction forms generalizing d l with
  | nil => exact .pure hs ⟨rfl, rfl⟩
  | cons form rest ih =>
    refine (h.plain hs hs.store.lt (hforms form List.mem_cons_self)).bind fun v v' d l hs _ hv => ?_
    obtain ⟨hv, rfl⟩ := hv
    refine (ih hs fun v hv => hforms v (List.mem_cons_of_mem _ hv)).bind fun vs ws d l hs _ hvs => .pure hs ?_
    obtain ⟨hvs, rfl⟩ := hvs
    exact ⟨congrArg₂ List.cons hv hvs, rfl⟩

lemma loadUnitBy_inStep (hs : d.Twins globalFrame l) (unit : PreludeUnit) :
    InStep globalFrame (fun _ _ => Value.Twins globalFrame) d l (loadUnitBy self w unit) (loadUnitBy other w unit) := by
  cases unit with
  | file path => exact h.loadFile hs hs.store.lt
  | bundled =>
    have hread : InStep globalFrame (fun _ _ p q => p = q ∧ ∀ v ∈ p, v.Plain) d l
        (reading Prelude.path (Reading.within w.room Prelude.program))
        (reading Prelude.path (Reading.within w.room Prelude.program)) := by
      unfold Reading.within
      split
      · exact .pure hs ⟨rfl, plain_prelude⟩
      · exact .throw _ _
    refine hread.bind fun p q d l hs _ hp => ?_
    obtain ⟨rfl, hp⟩ := hp
    exact h.loadForms hs hs.store.lt hp

lemma loadUnitsBy_inStep (hs : d.Twins globalFrame l) (units : List PreludeUnit) :
    InStep globalFrame (fun _ _ _ _ => True) d l (loadUnitsBy self w units) (loadUnitsBy other w units) := by
  induction units generalizing d l with
  | nil => exact .pure hs trivial
  | cons unit rest ih =>
    refine (loadUnitBy_inStep h hs unit).bind fun v v' d l hs _ hv => ?_
    obtain ⟨-, rfl⟩ := hv
    cases v with
    | error message => exact (InStep.log hs _ _).bind fun _ _ d l hs _ _ => ih hs
    | list b items =>
      rw [Value.recapture_list]
      exact ih hs
    | lambda =>
      rw [Value.recapture_lambda]
      exact ih hs
    | _ => exact ih hs

end InStep

lemma freshStore_bindings (scoping : Scoping) (c : Option FrameId) (id : FrameId) :
    ((freshStore .dynamic).bindings id).recapture c = (freshStore scoping).bindings id := by
  rw [Store.bindings, Store.bindings, freshStore_frame?, freshStore_frame?]
  split
  · exact List.map_map.trans rfl
  · rfl

lemma freshStore_twins : Store.Twins globalFrame (freshStore .dynamic) (freshStore .lexical) where
  size := rfl
  ends _ := freshStore_endsIn
  global := rfl
  outer id f hf := by
    rw [freshStore_frame?] at hf
    split at hf
    · next hid =>
      obtain rfl := Option.some.inj hf
      rw [if_pos hid]
    · cases hf
  dynamic := rfl
  lexical := rfl
  bare := freshStore_bindings .dynamic none
  bindings id := (freshStore_bindings .lexical (some globalFrame) id).symm

section InStep

variable (h : self.Mirrors globalFrame other)
include h

lemma settleBy_inStep (hs : d.Twins globalFrame l) (prelude : Bool) :
    InStep globalFrame (fun _ _ _ _ => True) d l (settleBy self w .dynamic prelude)
      (settleBy other w .lexical prelude) := by
  refine (InStep.log hs _ _).bind fun _ _ d l hs _ _ => ?_
  cases prelude with
  | false => exact .pure hs trivial
  | true =>
    simp only [reduceIte]
    cases w.preludeUnits with
    | error fault => exact .throw_bind _ _ _
    | ok units => exact loadUnitsBy_inStep h hs units

lemma runFormsBy_twins {prelude : Bool} {forms : List Form} {vs : List Value}
    (hrun : result (runFormsBy self w .dynamic prelude forms) s = .ok vs) :
    vs.map (Value.recapture none) = vs ∧
      result (runFormsBy other w .lexical prelude forms) s = .ok (vs.map (Value.recapture (some globalFrame))) ∧
      State.Twins globalFrame (final (runFormsBy self w .dynamic prelude forms) s)
        (final (runFormsBy other w .lexical prelude forms) s) := by
  have hfresh : State.Twins globalFrame { s with store := freshStore .dynamic }
      { s with store := freshStore .lexical } := ⟨freshStore_twins, rfl, rfl⟩
  have hplain : ∀ v ∈ forms.map Form.value, v.Plain := by
    rw [← Form.values_eq_map]
    exact Form.plain_values forms
  obtain ⟨hdynamic, hdynamic'⟩ := runFormsBy_run self w .dynamic prelude forms s
  obtain ⟨hlexical, hlexical'⟩ := runFormsBy_run other w .lexical prelude forms s
  rw [hdynamic] at hrun
  rw [hdynamic', hlexical, hlexical']
  obtain ⟨ws, hws, ⟨hvs, rfl⟩, htwins, -⟩ :=
    (settleBy_inStep h hfresh prelude).bind (fun _ _ d l hs _ _ => eachBy_inStep h hs hplain) vs hrun
  exact ⟨hvs, hws, htwins⟩

end InStep

section Refines

variable (h : self.Refines other)
include h

lemma eachBy_follows (hs : d.Alike l) (forms : List Value) :
    Follows d l (eachBy self forms) (eachBy other forms) := by
  induction forms generalizing d l with
  | nil => exact .pure hs _
  | cons form rest ih =>
    exact (h d l globalFrame form hs).bind fun v d l hs => (ih hs).bind fun vs d l hs => .pure hs _

lemma loadUnitBy_follows (hs : d.Alike l) (unit : PreludeUnit) :
    Follows d l (loadUnitBy self w unit) (loadUnitBy other w unit) := by
  cases unit with
  | file path => exact h.loadFile le_rfl hs _ _ _
  | bundled =>
    have hread : Follows d l (reading Prelude.path (Reading.within w.room Prelude.program))
        (reading Prelude.path (Reading.within w.room Prelude.program)) := by
      unfold reading
      split
      · exact .pure hs _
      · exact .throw hs _
      · exact .throw hs _
    exact hread.bind fun program d l hs => h.loadForms hs _ _ _

lemma loadUnitsBy_follows (hs : d.Alike l) (units : List PreludeUnit) :
    Follows d l (loadUnitsBy self w units) (loadUnitsBy other w units) := by
  induction units generalizing d l with
  | nil => exact .pure hs _
  | cons unit rest ih =>
    refine (loadUnitBy_follows h hs unit).bind fun v d l hs => ?_
    cases v with
    | error message => exact (Follows.record hs _).bind fun _ d l hs => ih hs
    | _ => exact ih hs

lemma runFormsBy_follows (hs : d.Alike l) (scoping : Scoping) (prelude : Bool) (forms : List Form) :
    Follows d l (runFormsBy self w scoping prelude forms) (runFormsBy other w scoping prelude forms) := by
  refine Follows.bind ?_ fun _ d l hs => eachBy_follows h hs _
  refine (Follows.changeStore hs _).bind fun _ d l hs => (Follows.record hs _).bind fun _ d l hs => ?_
  cases prelude with
  | false => exact .pure hs _
  | true =>
    simp only [reduceIte]
    cases w.preludeUnits with
    | error fault => exact (Follows.throw hs fault).bind_of_result (by rintro a ⟨⟩)
    | ok units => exact loadUnitsBy_follows h hs units

end Refines

end Session

open Session

/-- A session that the watch does not stop under dynamic scoping comes to the same under lexical scoping, but for
what functions have captured. Only preludes that are loaded from files need to be watched. -/
theorem scopings_agree {w : World} {prelude : Bool} {forms : List Form} {s : State} {vs : List Value}
    (hrun : result (runForms w .dynamic prelude forms) s = .ok vs)
    (hwatch : result (Watched.runForms w prelude forms) s ≠ .error .tooDeep) :
    ∃ ws, result (runForms w .lexical prelude forms) s = .ok ws ∧
      ws.map Value.uncaptured = vs.map Value.uncaptured ∧
      ((final (runForms w .lexical prelude forms) s).store.bindings globalFrame).recapture none =
        ((final (runForms w .dynamic prelude forms) s).store.bindings globalFrame).recapture none ∧
      (final (runForms w .lexical prelude forms) s).effects = (final (runForms w .dynamic prelude forms) s).effects ∧
      (final (runForms w .lexical prelude forms) s).printed =
        (final (runForms w .dynamic prelude forms) s).printed := by
  have hwatched : result (Watched.runForms w prelude forms) s = _ :=
    congrArg Prod.fst (Watched.runForms_at w prelude forms s)
  have hrefines : (Watched.evaluate w.files w.room).Refines w.evaluate := Watched.evaluate_refines w.files w.room
  have hmirrors : (Watched.evaluate w.files w.room).Mirrors globalFrame w.evaluate :=
    Watched.evaluators_mirrors globalFrame w.files w.room 0
  -- The run under the watch is in between: the dynamic one comes to the same, and the lexical one is in step with it.
  rw [hwatched] at hwatch
  rw [runForms_eq] at hrun ⊢
  rw [runForms_eq]
  obtain ⟨hsame, halike⟩ := (runFormsBy_follows hrefines (.refl s) .dynamic prelude forms).resolve_left hwatch
  obtain ⟨hvs, hlexical, htwins⟩ := runFormsBy_twins hmirrors (hsame.trans hrun)
  have heffects := htwins.effects.symm.trans halike.effects
  refine ⟨_, hlexical, ?_, ?_, heffects, State.printed_of_effects heffects⟩
  · rw [List.map_map]
    exact List.map_congr_left fun v _ => Value.recapture_recapture _ v
  · rw [htwins.store.bindings, Bindings.recapture_recapture, ← halike.store]

def nestedWorld : World := { room := 40 }

def nestedForms : List Form :=
  let name := Form.symbol 1
  let call := Form.list 1 .round
  let data := Form.list 1 .curly
  [call [name "fun", data [name "twice", name "f", name "x"], data [name "f", call [name "f", name "x"]]],
    call [name "def", data [name "k"],
      call [call [name "\\", data [name "x", name "y"], data [name "x"]], .string 1 "a"]],
    call [name "twice",
      call [name "\\", data [name "l"], data [name "join", name "l", call [name "list", name "+", name "k"]]],
      data [name "k"]],
    call [name "println", call [name "k", name "true"], name "twice"]]

theorem scopings_agree_sample :
    ∃ vs ws, result (runForms nestedWorld .dynamic true nestedForms) {} = .ok vs ∧ vs.length = 4 ∧
      result (Watched.runForms nestedWorld true nestedForms) {} ≠ .error .tooDeep ∧
      result (runForms nestedWorld .lexical true nestedForms) {} = .ok ws ∧
      ws.map Value.uncaptured = vs.map Value.uncaptured ∧
      (final (runForms nestedWorld .lexical true nestedForms) {}).printed =
        (final (runForms nestedWorld .dynamic true nestedForms) {}).printed := by
  have hlength : (result (runForms nestedWorld .dynamic true nestedForms) {}).toOption.map List.length = some 4 := by
    decide +kernel
  have hpasses : (result (Watched.runForms nestedWorld true nestedForms) {}).toOption.isSome = true := by
    decide +kernel
  have hwatch : result (Watched.runForms nestedWorld true nestedForms) {} ≠ .error .tooDeep := by
    intro hstopped
    rw [hstopped] at hpasses
    cases hpasses
  cases hrun : result (runForms nestedWorld .dynamic true nestedForms) {} with
  | error e => simp [hrun, Except.toOption] at hlength
  | ok vs =>
    obtain ⟨ws, hlexical, hvalues, -, -, hprinted⟩ := scopings_agree hrun hwatch
    exact ⟨vs, ws, rfl, by simpa [hrun, Except.toOption] using hlength, hwatch, hlexical, hvalues, hprinted⟩

end CurriedLisp
