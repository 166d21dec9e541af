import CurriedLisp.Proofs.Eval.Wording
import CurriedLisp.Proofs.Session.Reachable

namespace CurriedLisp

open Eval Evaluator

namespace Session

variable {scoping : Scoping} {s : State} {w : World} {self : Evaluator}

lemma freshStore_worded (scoping : Scoping) : (freshStore scoping).Worded globalFrame := by
  have hglobal : (freshStore scoping).bindings globalFrame =
      Builtin.all.map fun op => (op.name, .ofBuiltin op) := by
    rw [Store.bindings, freshStore_frame?]
    rfl
  have hnames : ((freshStore scoping).bindings globalFrame).names = Builtin.all.map Builtin.name := by
    rw [hglobal, Bindings.names, List.map_map]
    rfl
  have hother : ∀ id, id ≠ globalFrame → (freshStore scoping).bindings id = [] := by
    intro id hne
    simp [Store.bindings, freshStore_frame?, hne]
  refine ⟨fun id b hb => ?_, by simp [freshStore_frame?], ?_, fun id => ?_⟩
  · have hid : id = globalFrame := by
      by_contra hne
      simp [hother id hne] at hb
    rw [hid, hglobal] at hb
    obtain ⟨op, -, rfl⟩ := List.mem_map.mp hb
    exact Value.worded_builtin op op.name
  · rw [hnames]
    exact List.forall_mem_map.mpr fun op _ => isWord_builtin op
  · by_cases hid : id = globalFrame
    · rw [hid, hnames]
      decide
    · rw [hother id hid]
      exact List.nodup_nil

lemma reading_worded {α : Type} {source : String} {r : Except ReadError α} {Q : α → Prop}
    (hr : ∀ a, r = .ok a → Q a) : KeepsWords globalFrame (reading source r) Q := by
  match r, hr with
  | .ok a, hr => exact .pure (hr a rfl)
  | .error (.unreadable e), _ => exact .throw _
  | .error .tooDeep, _ => exact .throw _

section MakesNoNames

variable (h : MakesNoNames globalFrame self)
include h

lemma eachBy_worded {l : List Value} (hl : ∀ v ∈ l, v.Worded) :
    KeepsWords globalFrame (eachBy self l) fun vs => ∀ v ∈ vs, v.Worded := by
  induction l with
  | nil => exact .pure (by simp)
  | cons v rest ih =>
    obtain ⟨hv, hrest⟩ := List.forall_mem_cons.mp hl
    refine (h globalFrame v hv).bind fun first hfirst => (ih hrest).bind fun others hothers => ?_
    exact .pure (List.forall_mem_cons.mpr ⟨hfirst, hothers⟩)

lemma Input.runBy_worded (i : Input) :
    KeepsWords globalFrame (i.runBy self w) fun vs => ∀ v ∈ vs, v.Worded := by
  have single : ∀ {x : Eval Value}, KeepsWords globalFrame x Value.Worded →
      KeepsWords globalFrame (do return [← x]) fun vs => ∀ v ∈ vs, v.Worded :=
    fun hx => hx.bind fun v hv => .pure (List.forall_mem_singleton.mpr hv)
  cases i with
  | eval code =>
    exact single ((reading_worded fun v hv => worded_of_read hv).bind fun v hv => h globalFrame v hv)
  | evalAll code =>
    exact (reading_worded fun l hl => worded_of_readProgram hl).bind fun l hl => eachBy_worded h hl
  | loadFile sink path => exact single h.loadFile
  | loadSource name source => exact single h.loadSource

lemma loadUnitBy_worded (unit : PreludeUnit) :
    KeepsWords globalFrame (loadUnitBy self w unit) Value.Worded := by
  cases unit with
  | file path => exact h.loadFile
  | bundled =>
    have hprelude : ∀ l, Reading.within w.room Prelude.program = .ok l → ∀ v ∈ l, v.Worded := by
      intro l hl
      rw [within_eq_ok hl]
      exact worded_prelude
    exact (reading_worded hprelude).bind fun l hl => h.loadForms hl

lemma loadUnitsBy_worded (units : List PreludeUnit) :
    KeepsWords globalFrame (loadUnitsBy self w units) fun _ => True := by
  induction units with
  | nil => exact .pure trivial
  | cons unit rest ih =>
    refine (loadUnitBy_worded h unit).bind fun v _ => ?_
    split
    · exact (KeepsWords.record _).bind fun _ _ => ih
    · exact ih

lemma begin_worded (scoping : Scoping) (prelude : Bool) (s : State) :
    (final (beginBy self w scoping prelude) s).store.Worded globalFrame := by
  have hload : KeepsWords globalFrame (do
      Eval.log (.created scoping)
      if prelude then loadUnitsBy self w (← ofExcept w.preludeUnits)) fun _ => True := by
    refine (KeepsWords.record _).bind fun _ _ => ?_
    cases prelude with
    | false => exact .pure trivial
    | true =>
      simp only [reduceIte]
      cases w.preludeUnits with
      | error fault => exact (KeepsWords.throw (Q := fun _ => False) fault).bind fun _ hfalse => hfalse.elim
      | ok units =>
        exact (KeepsWords.pure (Q := fun _ => True) trivial).bind fun units _ => loadUnitsBy_worded h units
  exact (hload _ (freshStore_worded scoping)).1

end MakesNoNames

lemma run_worded (i : Input) : KeepsWords globalFrame (i.run w) fun vs => ∀ v ∈ vs, v.Worded := by
  rw [i.run_eq]
  exact Input.runBy_worded (evaluate_makesNoNames globalFrame w.files w.room) i

theorem Reachable.worded (h : Reachable scoping s) : s.store.Worded globalFrame := by
  induction h with
  | start w given prelude s hscoping _ =>
    rw [start_eq hscoping]
    exact begin_worded (evaluate_makesNoNames globalFrame w.files w.room) scoping prelude s
  | input w i _ ih => exact (run_worded i _ ih).1

end Session

end CurriedLisp
