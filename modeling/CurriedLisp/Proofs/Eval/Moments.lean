import CurriedLisp.Proofs.Eval.Soundness

/-! The evaluations inside a run. Stopping one of them by a fault stops the run, which tells which ones
there are. -/

namespace CurriedLisp

open Eval

structure Moment where
  env : FrameId
  value : Value
  state : State

namespace Moment

variable {α : Type} {δ : Discipline} {g : FrameId} {files : Files} {room n : Nat} {m k : Moment} {s : State}
  {below : Nat → Evaluator} {x : (Nat → Evaluator) → Eval α}

open Classical in
noncomputable def stop (below : Nat → Evaluator) (n : Nat) (m : Moment) (e : Fault) (t : State) :
    Nat → Evaluator :=
  fun less env v s => if less = n ∧ (⟨env, v, s⟩ : Moment) = m then (.error e, t) else below less env v s

/-- From `s`, `x` evaluates the expression of `m` with `n` levels less: whatever stops that evaluation stops
`x` as well. -/
def ComesIn (m : Moment) (x : (Nat → Evaluator) → Eval α) (below : Nat → Evaluator) (s : State)
    (n : Nat) : Prop :=
  ∀ e t, result (x (stop below n m e t)) s = .error e ∧ final (x (stop below n m e t)) s = t

inductive Inside (files : Files) : (room : Nat) → Moment → Nat → Moment → Prop
  | refl (room : Nat) (m : Moment) : Inside files room m room m
  | step {room n last : Nat} {m k l : Moment} :
    k.ComesIn (fun below => Evaluator.step files room below m.env m.value)
      (fun less => evaluate files (room - less)) m.state n →
    Inside files (room - n) k last l → Inside files (room + 1) m last l

def result (files : Files) (room : Nat) (m : Moment) : Except Fault Value :=
  Eval.result (evaluate files room m.env m.value) m.state

def final (files : Files) (room : Nat) (m : Moment) : State :=
  Eval.final (evaluate files room m.env m.value) m.state

lemma stops_bind {α β : Type} {x : Eval α} {f : α → Eval β} {e : Fault} {t : State}
    (h : Eval.result x s = .error e ∧ Eval.final x s = t) :
    Eval.result (x >>= f) s = .error e ∧ Eval.final (x >>= f) s = t := by
  obtain ⟨hresult, hfinal⟩ := bind_of_error (f := f) h.1
  exact ⟨hresult, hfinal.trans h.2⟩

lemma stop_self (below : Nat → Evaluator) (n : Nat) (m : Moment) (e : Fault) (t : State) :
    Eval.result (stop below n m e t n m.env m.value) m.state = .error e ∧
      Eval.final (stop below n m e t n m.env m.value) m.state = t := by
  have hstop : stop below n m e t n m.env m.value m.state = (.error e, t) := if_pos ⟨rfl, rfl⟩
  exact ⟨congrArg Prod.fst hstop, congrArg Prod.snd hstop⟩

lemma inside_call {env : FrameId} {item : Value} {rest : List Value} :
    Inside files (room + 1) ⟨env, .sexpr (item :: rest), s⟩ (room - Evaluator.Part.item.levels)
      ⟨env, item, s⟩ := by
  refine .step (fun e t => ?_) (.refl _ _)
  exact stops_bind (stops_bind (stop_self _ _ ⟨env, item, s⟩ e t))

structure Meets (δ : Discipline) (g : FrameId) (m : Moment) : Prop where
  holds : δ.Holds g m.state.store
  endsIn : m.state.store.EndsIn m.env g
  fits : δ.Fits g m.state.store m.value

lemma Meets.preserves (h : m.Meets δ g) (files : Files) (room : Nat) :
    Preserves δ g (fun id => id = m.env ∨ id = g) m.state (evaluate files room m.env m.value)
      (δ.Result g) :=
  evaluate_sound δ g files room m.state m.env m.value h.holds h.endsIn h.fits

lemma sound_stop {e : Fault} {t : State} (hb : ∀ less, (below less).Sound δ g) (hm : ¬ m.Meets δ g)
    (less : Nat) : (stop below n m e t less).Sound δ g := by
  intro s env v hs he hv
  have hother : ¬ (less = n ∧ (⟨env, v, s⟩ : Moment) = m) := by
    rintro ⟨-, rfl⟩
    exact hm ⟨hs, he, hv⟩
  have hsame : stop below n m e t less env v s = below less env v s := if_neg hother
  exact (hb less s env v hs he hv).congr hsame

lemma ComesIn.meets (id : FrameId) (h : m.ComesIn x below s n) (hb : ∀ less, (below less).Sound δ g)
    (hx : ∀ below' : Nat → Evaluator, (∀ less, (below' less).Sound δ g) →
      ((Eval.final (x below') s).store.frame? id).isSome) : m.Meets δ g := by
  by_contra hm
  have hkept := hx (stop below n m .tooDeep {}) (sound_stop hb hm)
  rw [(h .tooDeep {}).2] at hkept
  simp [Store.frame?, Store.empty] at hkept

lemma Inside.meets {last : Nat} (h : Inside files room m last k) (hm : m.Meets δ g) : k.Meets δ g := by
  induction h with
  | refl => exact hm
  | @step room n last m k l hk _ ih =>
    refine ih (hk.meets m.env (fun less => evaluate_sound δ g files _) fun below' hb => ?_)
    have hrun : Preserves δ g (fun id => id = m.env ∨ id = g) m.state
        (Evaluator.step files room below' m.env m.value) (δ.Result g) :=
      Evaluator.step_sound hb m.state m.env m.value hm.holds hm.endsIn hm.fits
    exact hrun.grown.isSome hm.endsIn.isSome

end Moment

end CurriedLisp
