import CurriedLisp.Store.Basic
import Mathlib.Tactic.Lemma

namespace CurriedLisp.Store

lemma frame?_update (s : Store) (id i : FrameId) (change : Bindings → Bindings) :
    (s.update id change).frame? i =
      (s.frame? i).map fun f => if i = id then { f with bindings := change f.bindings } else f := by
  simp only [frame?, update, Array.getElem?_modify]
  by_cases h : id = i
  · simp [h]
  · simp [h, Ne.symm h]

lemma chainWithin_update (s : Store) (id : FrameId) (change : Bindings → Bindings) (n : Nat)
    (i : FrameId) : (s.update id change).chainWithin n i = s.chainWithin n i := by
  induction n generalizing i with
  | zero => rfl
  | succ n ih =>
    simp only [chainWithin, frame?_update]
    cases s.frame? i with
    | none => rfl
    | some f => by_cases h : i = id <;> simp [h, ih]

lemma chain_update (s : Store) (id : FrameId) (change : Bindings → Bindings) (i : FrameId) :
    (s.update id change).chain i = s.chain i := s.chainWithin_update id change (i + 1) i

lemma chainWithin_eq_chain (s : Store) {n id : Nat} (h : id < n) :
    s.chainWithin n id = s.chain id := by
  induction n using Nat.strongRecOn generalizing id with
  | ind n ih =>
    cases n with
    | zero => omega
    | succ n =>
      rw [chain]
      simp only [chainWithin]
      cases hf : s.frame? id with
      | none => rfl
      | some f =>
        cases ho : f.outer with
        | none => simp [ho]
        | some o =>
          have hlt := s.older id o f hf ho
          simp only [ho]
          rw [ih n (by omega) (by omega), ih id h hlt]

lemma chain_of_frame? (s : Store) {id : FrameId} {f : Frame} (h : s.frame? id = some f) :
    s.chain id = id :: f.outer.elim [] s.chain := by
  rw [chain]
  simp only [chainWithin, h]
  cases ho : f.outer with
  | none => rfl
  | some o => simp [s.chainWithin_eq_chain (s.older id o f h ho)]

lemma chain_of_frame?_none (s : Store) {id : FrameId} (h : s.frame? id = none) : s.chain id = [] := by
  simp [chain, chainWithin, h]

lemma frame?_alloc (s : Store) (f : Frame) {id : FrameId} (h : id < s.frames.size) :
    (s.alloc f).2.frame? id = s.frame? id := by
  have hne : id ≠ s.frames.size := by exact Nat.ne_of_lt h
  simp [frame?, alloc, Array.getElem?_push, hne]

lemma frame?_alloc_new (s : Store) (f : Frame) :
    (s.alloc f).2.frame? (s.alloc f).1 =
      some { f with outer := f.outer.filter (· < s.frames.size) } := by
  simp [frame?, alloc]

lemma chain_alloc (s : Store) (f : Frame) {id : FrameId} (h : id < s.frames.size) :
    (s.alloc f).2.chain id = s.chain id := by
  induction id using Nat.strongRecOn with
  | ind id ih =>
    have hf := s.frame?_alloc f h
    cases hs : s.frame? id with
    | none => rw [chain_of_frame?_none _ hs, chain_of_frame?_none _ (hf.trans hs)]
    | some g =>
      rw [chain_of_frame? _ hs, chain_of_frame? _ (hf.trans hs)]
      cases ho : g.outer with
      | none => rfl
      | some o =>
        have hlt := s.older id o g hs ho
        simp [ih o hlt (Nat.lt_trans hlt h)]

end CurriedLisp.Store
