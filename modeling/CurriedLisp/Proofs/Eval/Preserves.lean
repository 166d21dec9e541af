import CurriedLisp.Proofs.Eval.Discipline
import CurriedLisp.Proofs.Eval.Runs

namespace CurriedLisp

open Eval

/-- A run of `x` keeps a store to its discipline, rebinds names in frames of `W` only and gives what `post`
says of the store it leaves. -/
structure Preserves {α : Type} (δ : Discipline) (g : FrameId) (W : FrameId → Prop) (s : State)
    (x : Eval α) (post : Store → α → Prop) : Prop where
  holds : δ.Holds g (final x s).store
  grown : s.store.Grown g W (final x s).store
  post : ∀ a, result x s = .ok a → post (final x s).store a

namespace Preserves

variable {α β : Type} {δ : Discipline} {g : FrameId} {V W : FrameId → Prop} {s : State} {x : Eval α}
  {Q : Store → α → Prop}

lemma pure {a : α} (hs : δ.Holds g s.store) (ha : Q s.store a) :
    Preserves δ g W s (Pure.pure a) Q where
  holds := hs
  grown := .refl g W s.store
  post := by
    rintro _ ⟨⟩
    exact ha

lemma throw (e : Fault) (hs : δ.Holds g s.store) :
    Preserves δ g W s (MonadExcept.throw e : Eval α) Q where
  holds := hs
  grown := .refl g W s.store
  post := by
    rintro _ ⟨⟩

lemma bind_fresh {f : α → Eval β} {Q' : Store → β → Prop} (hx : Preserves δ g W s x Q)
    (hf : ∀ a t, δ.Holds g t.store → s.store.Grown g W t.store → Q t.store a →
      ∃ V, Preserves δ g V t (f a) Q' ∧ ∀ id, V id → (s.store.frame? id).isSome → W id) :
    Preserves δ g W s (x >>= f) Q' := by
  cases hr : result x s with
  | error e =>
    obtain ⟨hre, hst⟩ := bind_of_error (f := f) hr
    refine ⟨by rw [hst]; exact hx.holds, by rw [hst]; exact hx.grown, ?_⟩
    rw [hre]
    rintro _ ⟨⟩
  | ok a =>
    obtain ⟨hre, hst⟩ := bind_of_ok (f := f) hr
    obtain ⟨V, hfa, hv⟩ := hf a _ hx.holds hx.grown (hx.post a hr)
    refine ⟨by rw [hst]; exact hfa.holds, ?_, by rw [hre, hst]; exact hfa.post⟩
    rw [hst]
    exact hx.grown.trans hfa.grown hv

lemma bind {f : α → Eval β} {Q' : Store → β → Prop} (hx : Preserves δ g W s x Q)
    (hf : ∀ a t, δ.Holds g t.store → s.store.Grown g W t.store → Q t.store a →
      Preserves δ g W t (f a) Q') :
    Preserves δ g W s (x >>= f) Q' :=
  hx.bind_fresh fun a t ht hg ha => ⟨W, hf a t ht hg ha, fun _ h _ => h⟩

lemma mono (h : Preserves δ g V s x Q) (hv : ∀ id, V id → W id) : Preserves δ g W s x Q :=
  ⟨h.holds, h.grown.mono hv, h.post⟩

lemma congr {y : Eval α} (h : Preserves δ g W s x Q) (hy : y s = x s) : Preserves δ g W s y Q := by
  have hresult : result y s = result x s := congrArg Prod.fst hy
  have hfinal : final y s = final x s := congrArg Prod.snd hy
  refine ⟨?_, ?_, ?_⟩
  · rw [hfinal]
    exact h.holds
  · rw [hfinal]
    exact h.grown
  · rw [hresult, hfinal]
    exact h.post

lemma record (e : Event) (hs : δ.Holds g s.store) :
    Preserves δ g W s (Eval.record e) fun _ _ => True :=
  ⟨hs, .refl g W s.store, fun _ _ => trivial⟩

lemma store (hs : δ.Holds g s.store) : Preserves δ g W s Eval.store fun t a => a = t where
  holds := hs
  grown := .refl g W s.store
  post := by
    rintro _ ⟨⟩
    rfl

lemma newNumber (n : Number) (hs : δ.Holds g s.store) :
    Preserves δ g W s (Eval.newNumber n) (δ.Result g) := by
  obtain ⟨⟨m, hm⟩, hst⟩ := newNumber_run (s := s) n
  refine ⟨by rwa [hst], by rw [hst]; exact .refl g W _, fun a ha => ?_⟩
  obtain rfl := Except.ok.inj (hm.symm.trans ha)
  exact .inr (Discipline.good_number m)

lemma changeBindings (target : Store → FrameId) {new : List (String × Value)}
    (hs : δ.Holds g s.store) (hid : W (target s.store)) (hn : ∀ b ∈ new, δ.Good g s.store b.2) :
    Preserves δ g W s (Eval.changeStore fun t => t.update (target t) (·.putAll new)) fun _ _ => True := by
  have hg : s.store.Grown g W (s.store.update (target s.store) (·.putAll new)) := Store.grown_update g hid
  exact ⟨hs.update hn, hg, fun _ _ => trivial⟩

lemma newFrame {own : Bindings} {o : FrameId} (hs : δ.Holds g s.store) (ho : s.store.EndsIn o g)
    (hb : ∀ b ∈ own, δ.Good g s.store b.2) :
    Preserves δ g W s (Eval.newFrame { bindings := own, outer := some o }) fun t id =>
      t.EndsIn id g ∧ s.store.frame? id = none := by
  refine ⟨hs.alloc rfl ho hb, Store.grown_alloc rfl ho, ?_⟩
  rintro _ ⟨⟩
  refine ⟨Store.endsIn_alloc rfl ho, ?_⟩
  simp [Store.frame?]

end Preserves

end CurriedLisp
