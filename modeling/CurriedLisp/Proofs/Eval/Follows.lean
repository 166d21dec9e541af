import CurriedLisp.Proofs.Eval.Runs

/-! Runs that come to the same unless one of them is cut off. Log records are left out of account: they are
written, but nothing that is evaluated depends on them. -/

namespace CurriedLisp

def Event.isRecord : Event → Bool
  | .logged _ => true
  | _ => false

def State.effects (s : State) : List Event := s.transcript.toList.filter fun e => !e.isRecord

structure State.Alike (s t : State) : Prop where
  store : s.store = t.store
  marks : s.marks = t.marks
  effects : s.effects = t.effects

open Eval

/-- Unless the run of `x` from `s` is cut off, that of `y` from `t` comes to the same. -/
def Follows {α : Type} (s t : State) (x y : Eval α) : Prop :=
  result x s = .error .tooDeep ∨ result x s = result y t ∧ (final x s).Alike (final y t)

namespace State

variable {s t u : State}

lemma Alike.refl (s : State) : s.Alike s := ⟨rfl, rfl, rfl⟩

lemma Alike.symm (h : s.Alike t) : t.Alike s := ⟨h.store.symm, h.marks.symm, h.effects.symm⟩

lemma Alike.trans (h : s.Alike t) (hu : t.Alike u) : s.Alike u :=
  ⟨h.store.trans hu.store, h.marks.trans hu.marks, h.effects.trans hu.effects⟩

lemma textOf_eq_effects (s : State) {part : Event → String} (hp : ∀ r, part (.logged r) = "") :
    s.textOf part = s.effects.foldl (fun text e => text ++ part e) "" := by
  have hskip : ∀ text e, (if !e.isRecord then text ++ part e else text) = text ++ part e := by
    intro text e
    cases e <;> simp [Event.isRecord, hp]
  rw [textOf, effects, ← Array.foldl_toList, List.foldl_filter]
  simp only [hskip]

lemma printed_of_effects (h : s.effects = t.effects) : s.printed = t.printed := by
  rw [State.printed, State.printed, textOf_eq_effects s fun _ => rfl, textOf_eq_effects t fun _ => rfl, h]

lemma Alike.printed (h : s.Alike t) : s.printed = t.printed := printed_of_effects h.effects

end State

namespace Follows

variable {α β : Type} {s t : State} {x y : Eval α} {f g : α → Eval β}

lemma of_tooDeep (h : result x s = .error .tooDeep) : Follows s t x y := .inl h

lemma pure (h : s.Alike t) (a : α) : Follows s t (Pure.pure a) (Pure.pure a) := .inr ⟨rfl, h⟩

lemma throw (h : s.Alike t) (e : Fault) : Follows s t (MonadExcept.throw e : Eval α) (MonadExcept.throw e) :=
  .inr ⟨rfl, h⟩

lemma bind_of_result (hx : Follows s t x y)
    (hf : ∀ a, result x s = .ok a → (final x s).Alike (final y t) →
      Follows (final x s) (final y t) (f a) (g a)) :
    Follows s t (x >>= f) (y >>= g) := by
  rcases hx with h | ⟨hr, hal⟩
  · exact .inl (bind_of_error h).1
  cases h : result x s with
  | error e =>
    obtain ⟨hxr, hxf⟩ := bind_of_error (f := f) h
    obtain ⟨hyr, hyf⟩ := bind_of_error (f := g) (hr.symm.trans h)
    right
    rw [hxr, hxf, hyr, hyf]
    exact ⟨rfl, hal⟩
  | ok a =>
    obtain ⟨hxr, hxf⟩ := bind_of_ok (f := f) h
    obtain ⟨hyr, hyf⟩ := bind_of_ok (f := g) (hr.symm.trans h)
    unfold Follows
    rw [hxr, hxf, hyr, hyf]
    exact hf a h hal

lemma bind (hx : Follows s t x y) (hf : ∀ a s t, s.Alike t → Follows s t (f a) (g a)) :
    Follows s t (x >>= f) (y >>= g) :=
  hx.bind_of_result fun a _ hal => hf a _ _ hal

lemma effects_record (s : State) (e : Event) :
    (final (Eval.record e) s).effects = s.effects ++ [e].filter fun e => !e.isRecord := by
  have hfinal : final (Eval.record e) s = { s with transcript := s.transcript.push e } := rfl
  rw [hfinal, State.effects, Array.toList_push, List.filter_append]
  rfl

lemma record (h : s.Alike t) (e : Event) : Follows s t (Eval.record e) (Eval.record e) := by
  refine .inr ⟨rfl, h.store, h.marks, ?_⟩
  rw [effects_record, effects_record, h.effects]

lemma alike_log (s : State) (r : LogRecord) : (final (Eval.log r) s).Alike s :=
  ⟨rfl, rfl, (effects_record s (.logged r)).trans (List.append_nil _)⟩

lemma log (h : s.Alike t) (q r : LogRecord) : Follows s t (Eval.log q) (Eval.log r) :=
  .inr ⟨rfl, ((alike_log s q).trans h).trans (alike_log t r).symm⟩

lemma log_left {z : Eval α} {r : LogRecord} (h : s.Alike t) (hz : ∀ s, s.Alike t → Follows s t z y) :
    Follows s t (Eval.log r >>= fun _ => z) y := by
  obtain ⟨hr, hf⟩ := bind_of_ok (f := fun _ => z) (show result (Eval.log r) s = .ok () from rfl)
  unfold Follows
  rw [hr, hf]
  exact hz _ ((alike_log s r).trans h)

lemma log_right {z : Eval α} {r : LogRecord} (h : s.Alike t) (hz : ∀ t, s.Alike t → Follows s t x z) :
    Follows s t x (Eval.log r >>= fun _ => z) := by
  obtain ⟨hr, hf⟩ := bind_of_ok (f := fun _ => z) (show result (Eval.log r) t = .ok () from rfl)
  unfold Follows
  rw [hr, hf]
  exact hz _ (h.trans (alike_log t r).symm)

lemma store (h : s.Alike t) : Follows s t Eval.store Eval.store :=
  .inr ⟨congrArg Except.ok h.store, h⟩

lemma changeStore (h : s.Alike t) (change : Store → Store) :
    Follows s t (Eval.changeStore change) (Eval.changeStore change) :=
  .inr ⟨rfl, congrArg change h.store, h.marks, h.effects⟩

lemma newFrame (h : s.Alike t) (f : Frame) : Follows s t (Eval.newFrame f) (Eval.newFrame f) := by
  have hresult : ∀ s, result (Eval.newFrame f) s = .ok (s.store.alloc f).1 := fun _ => rfl
  have hstore : ∀ s, (final (Eval.newFrame f) s).store = (s.store.alloc f).2 := fun _ => rfl
  refine .inr ⟨?_, ?_, h.marks, h.effects⟩
  · rw [hresult, hresult, h.store]
  · rw [hstore, hstore, h.store]

lemma newNumber (h : s.Alike t) (n : Number) : Follows s t (Eval.newNumber n) (Eval.newNumber n) := by
  obtain ⟨hs, hsf⟩ := modifyGet_run (s := s) fun s : State =>
    if n.isNan then (Value.number (n.marked s.marks), { s with marks := s.marks + 1 }) else (.number n, s)
  obtain ⟨ht, htf⟩ := modifyGet_run (s := t) fun s : State =>
    if n.isNan then (Value.number (n.marked s.marks), { s with marks := s.marks + 1 }) else (.number n, s)
  unfold Follows Eval.newNumber
  rw [hs, hsf, ht, htf, h.marks]
  cases n.isNan with
  | true => exact .inr ⟨rfl, h.store, rfl, h.effects⟩
  | false => exact .inr ⟨rfl, h⟩

end Follows

end CurriedLisp
