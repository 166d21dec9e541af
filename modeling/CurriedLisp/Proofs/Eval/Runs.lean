import CurriedLisp.Eval.State
import Mathlib.Tactic.Lemma

namespace CurriedLisp.Eval

variable {α β : Type} {x : Eval α} {f : α → Eval β} {s : State}

def result (x : Eval α) (s : State) : Except Fault α := (x.run.run s).1

def final (x : Eval α) (s : State) : State := (x.run.run s).2

lemma bind_of_ok {a : α} (h : result x s = .ok a) :
    result (x >>= f) s = result (f a) (final x s) ∧ final (x >>= f) s = final (f a) (final x s) := by
  simp only [result, final, ExceptT.run_bind, StateT.run_bind] at h ⊢
  generalize x.run.run s = r at h ⊢
  obtain ⟨r, t⟩ := r
  cases h
  exact ⟨rfl, rfl⟩

lemma bind_of_error {e : Fault} (h : result x s = .error e) :
    result (x >>= f) s = .error e ∧ final (x >>= f) s = final x s := by
  simp only [result, final, ExceptT.run_bind, StateT.run_bind] at h ⊢
  generalize x.run.run s = r at h ⊢
  obtain ⟨r, t⟩ := r
  cases h
  exact ⟨rfl, rfl⟩

lemma tryCatch_of_ok {handle : Fault → Eval α} {a : α} (h : result x s = .ok a) :
    result (tryCatch x handle) s = .ok a ∧ final (tryCatch x handle) s = final x s := by
  simp only [result, final, ExceptT.run_tryCatch, StateT.run_bind] at h ⊢
  generalize x.run.run s = r at h ⊢
  obtain ⟨r, t⟩ := r
  cases h
  exact ⟨rfl, rfl⟩

lemma tryCatch_of_error {handle : Fault → Eval α} {e : Fault} (h : result x s = .error e) :
    result (tryCatch x handle) s = result (handle e) (final x s) ∧
      final (tryCatch x handle) s = final (handle e) (final x s) := by
  simp only [result, final, ExceptT.run_tryCatch, StateT.run_bind] at h ⊢
  generalize x.run.run s = r at h ⊢
  obtain ⟨r, t⟩ := r
  cases h
  exact ⟨rfl, rfl⟩

lemma run_eq {y : Eval α} {t : State} (h : x s = y t) : result x s = result y t ∧ final x s = final y t :=
  ⟨congrArg Prod.fst h, congrArg Prod.snd h⟩

lemma bind_of_same {y : Eval α} {t : State} (hresult : result x s = result y t)
    (hfinal : final x s = final y t) :
    result (x >>= f) s = result (y >>= f) t ∧ final (x >>= f) s = final (y >>= f) t := by
  cases h : result y t with
  | error e =>
    obtain ⟨hx, hleft⟩ := bind_of_error (f := f) (hresult.trans h)
    obtain ⟨hy, hright⟩ := bind_of_error (f := f) h
    exact ⟨hx.trans hy.symm, hleft.trans (hfinal.trans hright.symm)⟩
  | ok a =>
    obtain ⟨hx, hleft⟩ := bind_of_ok (f := f) (hresult.trans h)
    obtain ⟨hy, hright⟩ := bind_of_ok (f := f) h
    rw [hfinal] at hx hleft
    exact ⟨hx.trans hy.symm, hleft.trans hright.symm⟩

lemma bind_at {y : Eval α} {k : α → Eval β} (hx : x s = y s)
    (hf : ∀ a, result y s = .ok a → f a (final y s) = k a (final y s)) : (x >>= f) s = (y >>= k) s := by
  have hresult : result x s = result y s := congrArg Prod.fst hx
  have hfinal : final x s = final y s := congrArg Prod.snd hx
  cases h : result y s with
  | error e =>
    have hleft := bind_of_error (f := f) (hresult.trans h)
    have hright := bind_of_error (f := k) h
    exact Prod.ext (hleft.1.trans hright.1.symm) (hleft.2.trans (hfinal.trans hright.2.symm))
  | ok a =>
    have hleft := bind_of_ok (f := f) (hresult.trans h)
    have hright := bind_of_ok (f := k) h
    rw [hfinal] at hleft
    have hnext := hf a h
    exact Prod.ext (hleft.1.trans ((congrArg Prod.fst hnext).trans hright.1.symm))
      (hleft.2.trans ((congrArg Prod.snd hnext).trans hright.2.symm))

lemma final_bind_self (hx : final x s = s)
    (hf : ∀ a, final (f a) s = s) : final (x >>= f) s = s := by
  cases h : result x s with
  | error e => rw [(bind_of_error h).2, hx]
  | ok a => rw [(bind_of_ok h).2, hx, hf]

lemma bind_eq_ok_iff {b : β} :
    result (x >>= f) s = .ok b ↔ ∃ a, result x s = .ok a ∧ result (f a) (final x s) = .ok b := by
  cases h : result x s with
  | error e =>
    rw [(bind_of_error h).1]
    simp
  | ok a =>
    rw [(bind_of_ok h).1]
    simp

lemma exists_ok (h : (result x s).toOption.isSome) : ∃ a, result x s = .ok a := by
  cases hr : result x s with
  | error e => simp [hr, Except.toOption] at h
  | ok a => exact ⟨a, rfl⟩

lemma modifyGet_run (f : State → α × State) :
    result (modifyGet f) s = .ok (f s).1 ∧ final (modifyGet f) s = (f s).2 := ⟨rfl, rfl⟩

lemma newNumber_run (n : Number) :
    (∃ m, result (newNumber n) s = .ok (.number m)) ∧ (final (newNumber n) s).store = s.store := by
  obtain ⟨hr, hf⟩ := modifyGet_run (s := s) fun s : State =>
    if n.isNan then (Value.number (n.marked s.marks), { s with marks := s.marks + 1 }) else (.number n, s)
  unfold newNumber
  rw [hr, hf]
  cases n.isNan <;> exact ⟨⟨_, rfl⟩, rfl⟩

end CurriedLisp.Eval
