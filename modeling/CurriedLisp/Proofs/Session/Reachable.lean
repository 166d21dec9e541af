import CurriedLisp.Proofs.Eval.Moments
import CurriedLisp.Proofs.Session.Inputs

namespace CurriedLisp

open Eval

namespace Session

/-- Files, variables and room may change from one input to the next, and an input may be stopped by a
fault. -/
inductive Reachable (scoping : Scoping) : State → Prop
  | start (w : World) (given : Option Scoping) (prelude : Bool) (s : State) :
    scopingFor w given = .ok scoping → result (start w given prelude) s = .ok () →
      Reachable scoping (final (start w given prelude) s)
  | input (w : World) (i : Input) {s : State} : Reachable scoping s → Reachable scoping (final (i.run w) s)

inductive Evaluates (scoping : Scoping) : Files → Nat → Moment → Prop
  | start (w : World) (prelude : Bool) (s : State) {m : Moment} :
    m.ComesIn (fun below => beginBy (below 0) w scoping prelude) (fun _ => w.evaluate) s 0 →
      Evaluates scoping w.files w.room m
  | input (w : World) (i : Input) {s : State} {m : Moment} : Reachable scoping s →
    m.ComesIn (fun below => i.runBy (below 0) w) (fun _ => w.evaluate) s 0 →
      Evaluates scoping w.files w.room m
  | inside {files : Files} {room last : Nat} {m k : Moment} : Evaluates scoping files room m →
    Moment.Inside files room m last k → Evaluates scoping files last k

lemma evaluates_eval {scoping : Scoping} {s : State} {w : World} {code : String} {v : Value}
    (hs : Reachable scoping s) (hv : read w.room code = .ok v) :
    Evaluates scoping w.files w.room ⟨globalFrame, v, s⟩ := by
  refine .input w (.eval code) hs fun e t => ?_
  have hread : reading inputName (read w.room code) = pure v := by
    rw [hv]
    rfl
  simp only [Input.runBy, evalBy, hread, pure_bind]
  exact Moment.stops_bind (Moment.stop_self _ 0 ⟨globalFrame, v, s⟩ e t)

def sampleWorld : World := { room := 20 }

def sample (scoping : Scoping) : State :=
  final (Input.run sampleWorld (.eval "(def \x7bk\x7d ((\\ \x7bx y\x7d \x7bx\x7d) \"a\"))"))
    (final (start sampleWorld (some scoping) false) {})

lemma reachable_sample (scoping : Scoping) : Reachable scoping (sample scoping) := by
  refine .input _ _ (.start _ _ _ _ rfl ?_)
  cases scoping <;> decide +kernel

structure Disciplined (δ : Discipline) (s : Store) : Prop where
  holds : δ.Holds globalFrame s
  global : s.EndsIn globalFrame globalFrame

variable {δ : Discipline} {W : FrameId → Prop} {s : State} {w : World}

lemma Disciplined.preserved {α : Type} {x : Eval α} {Q : Store → α → Prop}
    (h : Disciplined δ s.store) (hx : Preserves δ globalFrame W s x Q) :
    Disciplined δ (final x s).store where
  holds := hx.holds
  global := hx.grown.endsIn h.global

lemma disciplined_freshStore (δ : Discipline) : Disciplined δ (freshStore δ.scoping) where
  holds := freshStore_holds δ
  global := freshStore_endsIn (by simp [freshStore_frame?])

lemma disciplined_begin {self : Evaluator} (h : self.Sound δ globalFrame) (w : World) (prelude : Bool)
    (s : State) : Disciplined δ (final (beginBy self w δ.scoping prelude) s).store := by
  let t : State := { s with store := freshStore δ.scoping }
  have ht : Disciplined δ t.store := disciplined_freshStore δ
  have hfirst : result (Eval.changeStore fun _ => freshStore δ.scoping) s = .ok () := rfl
  unfold beginBy
  rw [(bind_of_ok hfirst).2]
  refine ht.preserved (W := (· = globalFrame)) (Q := fun _ _ => True) ?_
  refine (Preserves.record _ ht.holds).bind fun _ u hu hg _ => ?_
  cases prelude with
  | false => exact .pure hu trivial
  | true =>
    simp only [reduceIte]
    cases w.preludeUnits with
    | error fault =>
      exact (Preserves.throw (Q := fun _ _ => False) fault hu).bind fun _ _ _ _ h => h.elim
    | ok units =>
      refine (Preserves.pure (Q := fun _ _ => True) hu trivial).bind fun units v hv hg' _ => ?_
      exact loadUnitsBy_preserves h hv (hg'.endsIn (hg.endsIn ht.global))

lemma run_preserves (i : Input) (h : Disciplined δ s.store) :
    Preserves δ globalFrame (· = globalFrame) s (i.run w) fun t vs => ∀ v ∈ vs, δ.Result globalFrame t v := by
  rw [i.run_eq]
  exact i.runBy_preserves (evaluate_sound δ globalFrame w.files w.room) h.holds h.global

theorem Reachable.disciplined (δ : Discipline) {s : State} (h : Reachable δ.scoping s) :
    Disciplined δ s.store := by
  induction h with
  | start w given prelude s hsc _ =>
    rw [start_eq hsc]
    exact disciplined_begin (evaluate_sound δ globalFrame w.files w.room) w prelude s
  | input w i _ ih => exact ih.preserved (run_preserves i ih)

theorem Evaluates.meets (δ : Discipline) {files : Files} {room : Nat} {m : Moment}
    (h : Evaluates δ.scoping files room m) : m.Meets δ globalFrame := by
  induction h with
  | start w prelude s hm =>
    refine hm.meets globalFrame (fun _ => evaluate_sound δ globalFrame w.files w.room) ?_
    intro below' hb
    exact (disciplined_begin (hb 0) w prelude s).global.isSome
  | input w i hs hm =>
    have hd := Reachable.disciplined δ hs
    refine hm.meets globalFrame (fun _ => evaluate_sound δ globalFrame w.files w.room) ?_
    intro below' hb
    exact (i.runBy_preserves (hb 0) hd.holds hd.global).grown.isSome hd.global.isSome
  | inside _ hk ih => exact hk.meets ih

end Session

end CurriedLisp
