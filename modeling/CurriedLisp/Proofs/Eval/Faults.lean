import CurriedLisp.Proofs.Eval.Composition

namespace CurriedLisp

open Eval

def StopsBy (F : Fault → Prop) {α : Type} (x : Eval α) : Prop := ∀ s e, result x s = .error e → F e

namespace StopsBy

variable {α β : Type} {F G : Fault → Prop} {x : Eval α} {f : α → Eval β}

lemma pure (a : α) : StopsBy F (Pure.pure a) := by
  rintro s e ⟨⟩

lemma throw {e : Fault} (h : F e) : StopsBy F (MonadExcept.throw e : Eval α) := by
  rintro s _ ⟨⟩
  exact h

lemma bind (hx : StopsBy F x) (hf : ∀ a, StopsBy F (f a)) : StopsBy F (x >>= f) := by
  intro s e he
  cases hr : result x s with
  | error e' =>
    obtain rfl := Except.error.inj ((bind_of_error hr).1.symm.trans he)
    exact hx s e' hr
  | ok a => exact hf a _ e ((bind_of_ok hr).1.symm.trans he)

lemma modifyGet (f : State → α × State) : StopsBy F (MonadStateOf.modifyGet f) := by
  rintro s e ⟨⟩

lemma throw_bind {e : Fault} (h : F e) : StopsBy F ((MonadExcept.throw e : Eval α) >>= f) := by
  rintro s _ ⟨⟩
  exact h

lemma record (e : Event) : StopsBy F (Eval.record e) := modifyGet _

lemma store : StopsBy F Eval.store := by
  rintro s e ⟨⟩

lemma mono (h : StopsBy F x) (hFG : ∀ e, F e → G e) : StopsBy G x := fun s e he => hFG e (h s e he)

lemma outcome (h : StopsBy F x) (s : State) :
    (∃ a, result x s = .ok a) ∨ ∃ e, result x s = .error e ∧ F e := by
  cases hr : result x s with
  | ok a => exact .inl ⟨a, rfl⟩
  | error e => exact .inr ⟨e, rfl, h s e hr⟩

lemma tryCatch {handle : Fault → Eval α} (hx : StopsBy G x) (hh : ∀ e, G e → StopsBy F (handle e)) :
    StopsBy F (MonadExcept.tryCatch x handle) := by
  intro s e he
  cases hr : result x s with
  | ok a =>
    rw [(tryCatch_of_ok hr).1] at he
    cases he
  | error e' =>
    rw [(tryCatch_of_error hr).1] at he
    exact hh e' (hx s e' hr) _ e he

end StopsBy

def Files.Halts (files : Files) (e : Fault) : Prop := e = .tooDeep ∨ files.Misread e

lemma composable_stopsBy (files : Files) : Composable files (StopsBy files.Halts) where
  pure := StopsBy.pure
  bind := StopsBy.bind
  throw h := StopsBy.throw h
  record := StopsBy.record
  store := StopsBy.store
  changeStore _ := StopsBy.modifyGet _
  newFrame _ := StopsBy.modifyGet _
  newNumber _ := StopsBy.modifyGet _

theorem evaluate_stopsBy (files : Files) (room : Nat) (env : FrameId) (v : Value) :
    StopsBy files.Halts (evaluate files room env v) :=
  (composable_stopsBy files).evaluate room env v

end CurriedLisp
