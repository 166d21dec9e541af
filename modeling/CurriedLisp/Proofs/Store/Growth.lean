import CurriedLisp.Proofs.Store.Chains

/-! Growth of stores. A run rebinds names in some of the frames there are and makes new ones; it moves no
link, so chains stay as they were. -/

namespace CurriedLisp

namespace Store

variable {s t u : Store} {id g : FrameId} {W V : FrameId → Prop}

def AllEndIn (s : Store) (g : FrameId) : Prop := ∀ id, (s.frame? id).isSome → s.EndsIn id g

/-- From `s` to `t` only frames in `W` got other bindings, and new frames lead to `g`. -/
structure Grown (g : FrameId) (W : FrameId → Prop) (s t : Store) : Prop where
  old : ∀ id f, s.frame? id = some f →
    ∃ f', t.frame? id = some f' ∧ f'.outer = f.outer ∧ f'.scoping = f.scoping ∧ (¬ W id → f' = f)
  new : ∀ id, s.frame? id = none → (t.frame? id).isSome → t.EndsIn id g

namespace Grown

lemma refl (g : FrameId) (W : FrameId → Prop) (s : Store) : Grown g W s s where
  old _ f hf := ⟨f, hf, rfl, rfl, fun _ => rfl⟩
  new id hn hs := by simp [hn] at hs

lemma unchanged {f : Frame} (h : Grown g W s t) (hf : s.frame? id = some f) (hw : ¬ W id) :
    t.frame? id = some f := by
  obtain ⟨f', hf', -, -, he⟩ := h.old id f hf
  rw [hf', he hw]

lemma isSome (h : Grown g W s t) (hs : (s.frame? id).isSome) : (t.frame? id).isSome := by
  obtain ⟨f, hf⟩ := Option.isSome_iff_exists.mp hs
  obtain ⟨f', hf', -⟩ := h.old id f hf
  simp [hf']

lemma chain (h : Grown g W s t) (hs : (s.frame? id).isSome) : t.chain id = s.chain id := by
  induction id using Nat.strongRecOn with
  | ind id ih =>
    obtain ⟨f, hf⟩ := Option.isSome_iff_exists.mp hs
    obtain ⟨f', hf', houter, -⟩ := h.old id f hf
    rw [chain_of_frame? _ hf, chain_of_frame? _ hf', houter]
    cases ho : f.outer with
    | none => rfl
    | some o =>
      have ho' := ih o (s.older id o f hf ho) (outer_isSome hf ho)
      simp only [Option.elim_some, ho']

lemma endsIn {k : FrameId} (h : Grown g W s t) (he : s.EndsIn id k) : t.EndsIn id k := by
  rw [EndsIn, h.chain he.isSome]
  exact he

lemma allEndIn (h : Grown g W s t) (ha : s.AllEndIn g) : t.AllEndIn g := by
  intro id hid
  cases hs : s.frame? id with
  | none => exact h.new id hs hid
  | some f => exact h.endsIn (ha id (by simp [hs]))

lemma scoping (h : Grown g W s t) (hs : (s.frame? id).isSome) :
    (t.frame? id).bind (·.scoping) = (s.frame? id).bind (·.scoping) := by
  obtain ⟨f, hf⟩ := Option.isSome_iff_exists.mp hs
  obtain ⟨f', hf', -, hsc, -⟩ := h.old id f hf
  simp [hf, hf', hsc]

lemma trans (h : Grown g W s t) (h' : Grown g V t u)
    (hv : ∀ id, V id → (s.frame? id).isSome → W id) : Grown g W s u where
  old id f hf := by
    obtain ⟨f₁, hf₁, ho₁, hs₁, he₁⟩ := h.old id f hf
    obtain ⟨f₂, hf₂, ho₂, hs₂, he₂⟩ := h'.old id f₁ hf₁
    refine ⟨f₂, hf₂, ho₂.trans ho₁, hs₂.trans hs₁, fun hw => ?_⟩
    have hnv : ¬ V id := fun hvi => hw (hv id hvi (by simp [hf]))
    exact (he₂ hnv).trans (he₁ hw)
  new id hn hs := by
    cases ht : t.frame? id with
    | none => exact h'.new id ht hs
    | some f => exact h'.endsIn (h.new id hn (by simp [ht]))

lemma mono (h : Grown g W s t) (hw : ∀ id, W id → V id) : Grown g V s t where
  old id f hf := by
    obtain ⟨f', hf', ho, hs, he⟩ := h.old id f hf
    exact ⟨f', hf', ho, hs, fun hv => he fun hwi => hv (hw id hwi)⟩
  new := h.new

end Grown

lemma grown_update (g : FrameId) {change : Bindings → Bindings} (hw : W id) :
    Grown g W s (s.update id change) where
  old i f hf := by
    refine ⟨if i = id then { f with bindings := change f.bindings } else f, ?_, ?_, ?_, ?_⟩
    · rw [frame?_update, hf]
      rfl
    · split <;> rfl
    · split <;> rfl
    · intro hn
      rw [if_neg]
      rintro rfl
      exact hn hw
  new i hn hs := by
    rw [frame?_update, hn] at hs
    simp at hs

lemma alloc_new {f : Frame} {o : FrameId} (ho : f.outer = some o) (he : s.EndsIn o g) :
    (s.alloc f).2.frame? (s.alloc f).1 = some f := by
  have hlt : o < s.frames.size := frame?_isSome_iff.mp he.isSome
  rw [frame?_alloc_new, ho, Option.filter_some, if_pos (by simpa using hlt), ← ho]

lemma eq_alloc_of_isSome {f : Frame} (hn : s.frame? id = none)
    (hs : ((s.alloc f).2.frame? id).isSome) : id = (s.alloc f).1 := by
  have hge : ¬ id < s.frames.size := by
    rw [← frame?_isSome_iff, hn]
    simp
  have hlt := frame?_isSome_iff.mp hs
  simp only [alloc, Array.size_push] at hlt ⊢
  exact Nat.le_antisymm (Nat.lt_succ_iff.mp hlt) (Nat.not_lt.mp hge)

lemma grown_alloc {f : Frame} {o : FrameId} (ho : f.outer = some o) (he : s.EndsIn o g) :
    Grown g W s (s.alloc f).2 where
  old i f' hf := by
    have hold := s.frame?_alloc f (frame?_isSome_iff.mp (by simp [hf] : (s.frame? i).isSome))
    exact ⟨f', hold.trans hf, rfl, rfl, fun _ => rfl⟩
  new i hn hs := by
    obtain rfl := eq_alloc_of_isSome hn hs
    rw [endsIn_of_outer_some (alloc_new ho he) ho, EndsIn,
      s.chain_alloc f (frame?_isSome_iff.mp he.isSome)]
    exact he

lemma endsIn_alloc {f : Frame} {o : FrameId} (ho : f.outer = some o) (he : s.EndsIn o g) :
    (s.alloc f).2.EndsIn (s.alloc f).1 g := by
  apply (grown_alloc (W := fun _ => False) ho he).new
  · simp [frame?, alloc]
  · simp [alloc_new ho he]

lemma endsIn_update {change : Bindings → Bindings} {i : FrameId} :
    (s.update id change).EndsIn i g ↔ s.EndsIn i g := by
  rw [EndsIn, chain_update, EndsIn]

lemma bindings_update (s : Store) (id i : FrameId) (change : Bindings → Bindings) :
    (s.update id change).bindings i =
      if i = id ∧ (s.frame? i).isSome then change (s.bindings i) else s.bindings i := by
  rw [bindings, bindings, frame?_update]
  cases s.frame? i with
  | none => simp
  | some f => by_cases hi : i = id <;> simp [hi]

lemma bindings_alloc (s : Store) (f : Frame) (i : FrameId) :
    (s.alloc f).2.bindings i = if i = s.frames.size then f.bindings else s.bindings i := by
  rw [bindings, bindings, frame?, frame?, alloc, Array.getElem?_push]
  split <;> rfl

end Store

lemma Bindings.mem_put {b : Bindings} {name : String} {v : Value} {entry : String × Value}
    (h : entry ∈ b.put name v) : entry ∈ b ∨ entry.2 = v := by
  induction b with
  | nil =>
    obtain rfl := List.mem_singleton.mp h
    exact .inr rfl
  | cons first rest ih =>
    obtain ⟨m, w⟩ := first
    simp only [Bindings.put] at h
    split at h
    · rcases List.mem_cons.mp h with rfl | h
      · exact .inr rfl
      · exact .inl (List.mem_cons_of_mem _ h)
    · rcases List.mem_cons.mp h with rfl | h
      · exact .inl List.mem_cons_self
      · exact (ih h).imp_left (List.mem_cons_of_mem _)

lemma Bindings.mem_putAll {b : Bindings} {new : List (String × Value)} {entry : String × Value}
    (h : entry ∈ b.putAll new) : entry ∈ b ∨ ∃ other ∈ new, entry.2 = other.2 := by
  induction new generalizing b with
  | nil => exact .inl h
  | cons first rest ih =>
    rcases ih h with h | ⟨other, ho, he⟩
    · exact (Bindings.mem_put h).imp_right fun he => ⟨first, List.mem_cons_self, he⟩
    · exact .inr ⟨other, List.mem_cons_of_mem _ ho, he⟩

lemma Bindings.mem_of_find? {b : Bindings} {name : String} {v : Value} (h : b.find? name = some v) :
    (name, v) ∈ b := by
  induction b with
  | nil => cases h
  | cons first rest ih =>
    rw [Bindings.find?_cons] at h
    split at h
    · next he =>
      cases h
      exact he ▸ List.mem_cons_self
    · exact List.mem_cons_of_mem _ (ih h)

lemma Bindings.find?_eq_none_iff {b : Bindings} {name : String} : b.find? name = none ↔ name ∉ b.names := by
  induction b with
  | nil => simp [Bindings.find?, Bindings.names]
  | cons entry rest ih =>
    obtain ⟨m, w⟩ := entry
    rw [Bindings.find?_cons]
    by_cases h : name = m
    · simp [h, Bindings.names]
    · simpa [h, Bindings.names] using ih

lemma Bindings.find?_of_mem {b : Bindings} {name : String} {v : Value} (h : b.names.Nodup) (hm : (name, v) ∈ b) :
    b.find? name = some v := by
  induction b with
  | nil => cases hm
  | cons entry rest ih =>
    obtain ⟨other, w⟩ := entry
    obtain ⟨hother, hrest⟩ := List.nodup_cons.mp h
    rw [Bindings.find?_cons]
    rcases List.mem_cons.mp hm with hfirst | hlater
    · obtain ⟨rfl, rfl⟩ := Prod.mk.inj hfirst
      exact if_pos rfl
    · have hname : name ∈ Bindings.names rest := List.mem_map_of_mem hlater
      have hne : name ≠ other := fun he => hother (he ▸ hname)
      rw [if_neg hne, ih hrest hlater]

end CurriedLisp
