import CurriedLisp.Proofs.Eval.Equations
import CurriedLisp.Proofs.Session.Reachable

namespace CurriedLisp

open Eval Session

namespace Value

def Clean (v : Value) : Prop := v.Every fun w => w.isError = false ∧ ∀ b ∈ w.own, b.2.Settled

def Normal (v : Value) : Prop := v.Settled ∧ v.Clean

end Value

def Store.Normal (s : Store) : Prop := ∀ id, ∀ b ∈ s.bindings id, b.2.Normal

def Discipline.normal (scoping : Scoping) : Discipline where
  scoping := scoping
  alone := True
  part v := v.isError = false ∧ ∀ b ∈ v.own, b.2.Settled
  bound := Value.Settled
  part_of_kind v he hf := by
    cases v <;> simp_all [Value.isError, Value.own, Value.kind]
  part_created _ _ _ := ⟨rfl, by simp [Value.own]⟩
  part_applied _ _ _ _ _ _ _ ho := ⟨rfl, ho⟩
  bound_own _ _ _ _ h := h.2
  bound_of_settled _ h := h

variable {scoping : Scoping} {s : Store} {v : Value}

lemma normal_of_good (h : (Discipline.normal scoping).Good globalFrame s v) : v.Normal :=
  ⟨h.1, Value.Every.mono h.2 fun _ hw => hw.1⟩

lemma normal_of_result (h : (Discipline.normal scoping).Result globalFrame s v) :
    v.Normal ∨ v.isError = true :=
  h.symm.imp_left normal_of_good

lemma normal_of_holds (h : (Discipline.normal scoping).Holds globalFrame s) : s.Normal := by
  intro id b hb
  have he := h.alone trivial id (Store.isSome_of_mem_bindings hb)
  exact normal_of_good (h.good id he b hb)

theorem session_normal (scoping : Scoping) :
    (∀ s, Reachable scoping s → s.store.Normal ∧
      ∀ w (i : Input) vs, result (i.run w) s = .ok vs → ∀ v ∈ vs, v.Normal ∨ v.isError = true) ∧
    (∀ files room m, Evaluates scoping files room m → m.state.store.Normal ∧ m.value.Clean ∧
      ∀ v, m.result files room = .ok v → v.Normal ∨ v.isError = true) ∧
    ∀ v : Value, v.Normal ∨ v.isError = true →
      ∀ files room env, evaluate files (room + 1) env v = pure v := by
  refine ⟨?_, ?_, ?_⟩
  · intro s hs
    have hd : Disciplined (.normal scoping) s.store := Reachable.disciplined (.normal scoping) hs
    refine ⟨normal_of_holds hd.holds, fun w i vs hvs v hv => ?_⟩
    exact normal_of_result ((run_preserves (w := w) i hd).post vs hvs v hv)
  · intro files room m hm
    have hmeets : m.Meets (.normal scoping) globalFrame := Evaluates.meets (.normal scoping) hm
    refine ⟨normal_of_holds hmeets.holds, Value.Every.mono hmeets.fits fun _ hw => hw.1, fun v hv => ?_⟩
    exact normal_of_result ((hmeets.preserves files room).post v hv)
  · intro v hv files room env
    exact evaluate_eq_pure files room env (hv.imp_left (·.1))

theorem session_normal_sample :
    (sample .dynamic).store.Normal ∧
    (∃ vs, result (Input.run sampleWorld (.evalAll "k (k 1 2) (k 1)")) (sample .dynamic) = .ok vs ∧
      ∀ v ∈ vs, v.Normal ∨ v.isError = true) ∧
    (∃ v, Moment.result .none 18 ⟨globalFrame, .symbol "k", sample .dynamic⟩ = .ok v ∧
      (v.Normal ∨ v.isError = true) ∧
        ∀ files room env, evaluate files (room + 1) env v = pure v) := by
  obtain ⟨hstates, hmoments, hagain⟩ := session_normal .dynamic
  obtain ⟨hnormal, hresults⟩ := hstates _ (reachable_sample .dynamic)
  obtain ⟨vs, hvs⟩ : ∃ vs, result (Input.run sampleWorld (.evalAll "k (k 1 2) (k 1)")) (sample .dynamic) =
      .ok vs := exists_ok (by decide +kernel)
  obtain ⟨v, hv⟩ : ∃ v, Moment.result .none 18 ⟨globalFrame, .symbol "k", sample .dynamic⟩ = .ok v :=
    exists_ok (by decide +kernel)
  have hcall : read sampleWorld.room "(k)" = .ok (.sexpr [.symbol "k"]) := by cbv
  have hsymbol : Evaluates .dynamic .none 18 ⟨globalFrame, .symbol "k", sample .dynamic⟩ :=
    .inside (evaluates_eval (reachable_sample .dynamic) hcall) Moment.inside_call
  have hresult := (hmoments _ _ _ hsymbol).2.2 v hv
  exact ⟨hnormal, ⟨vs, hvs, hresults _ _ _ hvs⟩, v, hv, hresult, hagain v hresult⟩

end CurriedLisp
