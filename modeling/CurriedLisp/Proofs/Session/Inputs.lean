import CurriedLisp.Proofs.Eval.Soundness
import CurriedLisp.Session.Basic

/-! Inputs of a session, and its start. What a session does is given for any evaluator first, since it
evaluates the same expressions whatever comes out. -/

namespace CurriedLisp

open Eval

namespace Session

inductive Input where
  | eval (code : String)
  | evalAll (code : String)
  | loadFile (sink : Sink) (path : String)
  | loadSource (name source : String)

def Input.run (w : World) : Input → Eval (List Value)
  | .eval code => do return [← Session.eval w code]
  | .evalAll code => Session.evalAll w code
  | .loadFile sink path => do return [← Session.loadFile w sink path]
  | .loadSource name source => do return [← Session.loadSource w name source]

section Evaluator

variable (self : Evaluator) (w : World)

def evalBy (code : String) : Eval Value := do
  self globalFrame (← reading inputName (read w.room code))

def eachBy : List Value → Eval (List Value)
  | [] => return []
  | v :: rest => do
    let first ← self globalFrame v
    return first :: (← eachBy rest)

def Input.runBy : Input → Eval (List Value)
  | .eval code => do return [← evalBy self w code]
  | .evalAll code => do eachBy self (← reading inputName (readProgram w.room code))
  | .loadFile sink path => do return [← self.loadFile w.files w.room globalFrame sink path path]
  | .loadSource name source => do return [← self.loadSource w.room globalFrame .standard name source]

def loadUnitBy : PreludeUnit → Eval Value
  | .bundled => do
    let program ← reading Prelude.path (Reading.within w.room Prelude.program)
    self.loadForms globalFrame .standard Prelude.path program
  | .file path => self.loadFile w.files w.room globalFrame .standard path path

def loadUnitsBy : List PreludeUnit → Eval Unit
  | [] => return ()
  | unit :: rest => do
    match ← loadUnitBy self w unit with
    | .error message => Eval.log (.preludeNotLoaded message)
    | _ => pure ()
    loadUnitsBy rest

def freshStore (scoping : Scoping) : Store := (Store.empty.withGlobal (some scoping)).2

def beginBy (scoping : Scoping) (prelude : Bool) : Eval Unit := do
  Eval.changeStore fun _ => freshStore scoping
  Eval.log (.created scoping)
  if prelude then loadUnitsBy self w (← ofExcept w.preludeUnits)

end Evaluator

variable {δ : Discipline} {g : FrameId} {W : FrameId → Prop} {s : State} {w : World} {self : Evaluator}

lemma evaluateEach_eq (l : List Value) : evaluateEach w l = eachBy w.evaluate l := by
  induction l with
  | nil => rfl
  | cons v rest ih =>
    rw [evaluateEach, eachBy, ih]
    rfl

lemma eachBy_eq_ok {form : Value} {rest vs : List Value} (h : result (eachBy self (form :: rest)) s = .ok vs) :
    ∃ v others, result (self globalFrame form) s = .ok v ∧
      result (eachBy self rest) (final (self globalFrame form) s) = .ok others ∧ vs = v :: others ∧
      final (eachBy self (form :: rest)) s = final (eachBy self rest) (final (self globalFrame form) s) := by
  obtain ⟨v, hv, hrest⟩ := bind_eq_ok_iff.mp h
  obtain ⟨others, hothers, hlast⟩ := bind_eq_ok_iff.mp hrest
  refine ⟨v, others, hv, hothers, (Except.ok.inj hlast).symm, ?_⟩
  rw [eachBy, (bind_of_ok hv).2, (bind_of_ok hothers).2]
  rfl

lemma length_eachBy {forms vs : List Value} (h : result (eachBy self forms) s = .ok vs) :
    vs.length = forms.length := by
  induction forms generalizing s vs with
  | nil =>
    cases h
    rfl
  | cons form rest ih =>
    obtain ⟨v, others, -, hothers, rfl, -⟩ := eachBy_eq_ok h
    rw [List.length_cons, List.length_cons, ih hothers]

lemma Input.run_eq (i : Input) : i.run w = i.runBy w.evaluate w := by
  cases i with
  | evalAll code =>
    have heach : evaluateEach w = eachBy w.evaluate := funext evaluateEach_eq
    rw [Input.run, Session.evalAll, heach]
    rfl
  | _ => rfl

lemma loadUnits_eq (units : List PreludeUnit) : loadUnits w units = loadUnitsBy w.evaluate w units := by
  induction units with
  | nil => rfl
  | cons unit rest ih =>
    have hunit : loadUnit w unit = loadUnitBy w.evaluate w unit := by cases unit <;> rfl
    rw [loadUnits, loadUnitsBy, hunit]
    apply bind_congr
    intro v
    cases v <;> simp only [ih]

def scopingFor (w : World) : Option Scoping → Except SettingProblem Scoping
  | some scoping => .ok scoping
  | none => Setting.scoping w.vars

lemma start_eq {given : Option Scoping} {scoping : Scoping} {prelude : Bool}
    (h : scopingFor w given = .ok scoping) :
    start w given prelude = beginBy w.evaluate w scoping prelude := by
  have hunits : loadUnits w = loadUnitsBy w.evaluate w := funext loadUnits_eq
  unfold start beginBy
  rw [hunits]
  cases given with
  | some sc =>
    cases h
    rfl
  | none =>
    simp only [scopingFor] at h
    simp only [h]
    rfl

lemma plain_of_read {room : Nat} {source : String} {v : Value} (h : read room source = .ok v) :
    v.Plain := by
  simp only [read, bind_eq_ok] at h
  obtain ⟨form, -, _, -, ⟨⟩⟩ := h
  exact form.plain_value

lemma plain_prelude : ∀ v ∈ Prelude.program, v.Plain := by
  simp [Prelude.program, Prelude.constants, Prelude.calling, Prelude.selecting, Prelude.folding,
    Prelude.define, Prelude.function, Prelude.byEmptiness, Prelude.byZero, Prelude.headOf, Prelude.tailOf,
    Prelude.firstOf, Prelude.oneLess, Prelude.number, Value.plain_list, Value.plain_symbol,
    Value.plain_number]

lemma reading_preserves {α : Type} {source : String} {r : Except ReadError α} {Q : Store → α → Prop}
    (hs : δ.Holds g s.store) (hr : ∀ a, r = .ok a → Q s.store a) :
    Preserves δ g W s (reading source r) Q := by
  unfold reading
  split
  · exact .pure hs (hr _ rfl)
  · exact .throw _ hs
  · exact .throw _ hs

section Sound

variable (h : self.Sound δ globalFrame)
include h

lemma eachBy_preserves {l : List Value} (hs : δ.Holds globalFrame s.store)
    (he : s.store.EndsIn globalFrame globalFrame) (hl : ∀ v ∈ l, v.Plain) :
    Preserves δ globalFrame (· = globalFrame) s (eachBy self l) fun t vs =>
      ∀ v ∈ vs, δ.Result globalFrame t v := by
  induction l generalizing s with
  | nil => exact .pure hs (by simp)
  | cons v rest ih =>
    have hv := h s globalFrame v hs he (Discipline.fits_of_plain (hl v List.mem_cons_self))
    refine (hv.mono (by simp)).bind fun r t ht hg hr => ?_
    refine (ih ht (hg.endsIn he) fun v hv => hl v (List.mem_cons_of_mem _ hv)).bind fun rs u hu hg' hrs => ?_
    refine .pure hu fun v hv => ?_
    rcases List.mem_cons.mp hv with rfl | hv
    · exact hr.mono hg'
    · exact hrs v hv

lemma Input.runBy_preserves (i : Input) (hs : δ.Holds globalFrame s.store)
    (he : s.store.EndsIn globalFrame globalFrame) :
    Preserves δ globalFrame (· = globalFrame) s (i.runBy self w) fun t vs =>
      ∀ v ∈ vs, δ.Result globalFrame t v := by
  have single : ∀ x : Eval Value,
      Preserves δ globalFrame (fun id => id = globalFrame ∨ id = globalFrame) s x (δ.Result globalFrame) →
      Preserves δ globalFrame (· = globalFrame) s (do return [← x]) fun t vs =>
        ∀ v ∈ vs, δ.Result globalFrame t v :=
    fun x hx => (hx.mono (by simp)).bind fun v t ht _ hv => .pure ht (by simpa using hv)
  cases i with
  | eval code =>
    refine single _ ((reading_preserves (Q := fun _ v => v.Plain) hs fun v hv => plain_of_read hv).bind ?_)
    exact fun v t ht hg hv => h t globalFrame v ht (hg.endsIn he) (Discipline.fits_of_plain hv)
  | evalAll code =>
    refine (reading_preserves (Q := fun _ l => ∀ v ∈ l, v.Plain) hs fun l hl =>
      plain_of_readProgram hl).bind fun l t ht hg hl => ?_
    exact eachBy_preserves h ht (hg.endsIn he) hl
  | loadFile sink path => exact single _ (Evaluator.Sound.loadFile h hs he)
  | loadSource name source => exact single _ (Evaluator.Sound.loadSource h hs he)

lemma loadUnitBy_preserves (unit : PreludeUnit) (hs : δ.Holds globalFrame s.store)
    (he : s.store.EndsIn globalFrame globalFrame) :
    Preserves δ globalFrame (· = globalFrame) s (loadUnitBy self w unit) (δ.Result globalFrame) := by
  cases unit with
  | file path => exact (Evaluator.Sound.loadFile h hs he).mono (by simp)
  | bundled =>
    refine (reading_preserves (Q := fun _ l => ∀ v ∈ l, v.Plain) hs fun l hl => ?_).bind
      fun l t ht hg hl => ?_
    · unfold Reading.within at hl
      split at hl
      · cases hl
        exact plain_prelude
      · cases hl
    · have hfits : ∀ v ∈ l, δ.Fits globalFrame t.store v := fun v hv => Discipline.fits_of_plain (hl v hv)
      exact (Evaluator.Sound.loadForms h ht (hg.endsIn he) hfits).mono (by simp)

lemma loadUnitsBy_preserves {units : List PreludeUnit} (hs : δ.Holds globalFrame s.store)
    (he : s.store.EndsIn globalFrame globalFrame) :
    Preserves δ globalFrame (· = globalFrame) s (loadUnitsBy self w units) fun _ _ => True := by
  induction units generalizing s with
  | nil => exact .pure hs trivial
  | cons unit rest ih =>
    refine (loadUnitBy_preserves h unit hs he).bind fun v t ht hg _ => ?_
    split
    · refine (Preserves.record _ ht).bind fun _ u hu hg' _ => ?_
      exact ih hu (hg'.endsIn (hg.endsIn he))
    · exact ih ht (hg.endsIn he)

end Sound

lemma freshStore_frame? (scoping : Scoping) (id : FrameId) :
    (freshStore scoping).frame? id =
      if id = globalFrame then
        some { bindings := Builtin.all.map fun op => (op.name, .ofBuiltin op), scoping := some scoping }
      else none := by
  cases id with
  | zero => rfl
  | succ n => rfl

lemma freshStore_endsIn {scoping : Scoping} {id : FrameId}
    (h : ((freshStore scoping).frame? id).isSome) : (freshStore scoping).EndsIn id globalFrame := by
  by_cases hid : id = globalFrame
  · subst hid
    exact (Store.endsIn_of_outer_none (freshStore_frame? scoping globalFrame) rfl).mpr rfl
  · simp [freshStore_frame?, hid] at h

lemma freshStore_holds (δ : Discipline) : δ.Holds globalFrame (freshStore δ.scoping) where
  scoping := rfl
  good id hid b hb := by
    rw [Store.bindings, freshStore_frame?] at hb
    split at hb
    · simp only [Option.elim_some, List.mem_map] at hb
      obtain ⟨op, -, rfl⟩ := hb
      exact Discipline.good_builtin op op.name
    · cases hb
  alone _ _ := freshStore_endsIn

end Session

end CurriedLisp
