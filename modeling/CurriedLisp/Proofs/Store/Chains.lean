import CurriedLisp.Store.Lemmas
import Mathlib.Data.List.Chain
import Mathlib.Logic.Relation

/-! Chains of frames and the frame in which they end. Outer frames are older, so no chain meets a frame
twice, and looking outwards from a frame is looking into it first and then outwards from its outer one. -/

namespace CurriedLisp.Store

variable {s : Store} {id g : FrameId}

def Outer (s : Store) (id o : FrameId) : Prop := ∃ f, s.frame? id = some f ∧ f.outer = some o

def EndsIn (s : Store) (id g : FrameId) : Prop := (s.chain id).getLast? = some g

lemma frame?_isSome_iff : (s.frame? id).isSome ↔ id < s.frames.size := by
  simp [frame?]

lemma Outer.lt {o : FrameId} (h : s.Outer id o) : o < id := by
  obtain ⟨f, hf, ho⟩ := h
  exact s.older id o f hf ho

lemma acyclic (s : Store) (id : FrameId) : ¬ Relation.TransGen s.Outer id id := by
  have hlt : ∀ o, Relation.TransGen s.Outer id o → o < id := by
    intro o h
    induction h with
    | single h => exact h.lt
    | tail _ h ih => exact Nat.lt_trans h.lt ih
  intro h
  exact Nat.lt_irrefl id (hlt id h)

lemma outer_isSome {f : Frame} {o : FrameId} (hf : s.frame? id = some f) (ho : f.outer = some o) :
    (s.frame? o).isSome := by
  have hlt := s.older id o f hf ho
  have hid : id < s.frames.size := frame?_isSome_iff.mp (by simp [hf])
  exact frame?_isSome_iff.mpr (Nat.lt_trans hlt hid)

lemma isSome_of_mem_bindings {b : String × Value} (h : b ∈ s.bindings id) : (s.frame? id).isSome := by
  cases hf : s.frame? id with
  | none => simp [bindings, hf] at h
  | some f => rfl

lemma chain_ne_nil (h : (s.frame? id).isSome) : s.chain id ≠ [] := by
  obtain ⟨f, hf⟩ := Option.isSome_iff_exists.mp h
  rw [chain_of_frame? s hf]
  exact List.cons_ne_nil _ _

lemma EndsIn.isSome (h : s.EndsIn id g) : (s.frame? id).isSome := by
  cases hf : s.frame? id with
  | none => simp [EndsIn, chain_of_frame?_none s hf] at h
  | some f => rfl

lemma endsIn_of_outer_none {f : Frame} (hf : s.frame? id = some f) (ho : f.outer = none) :
    s.EndsIn id g ↔ id = g := by
  simp [EndsIn, chain_of_frame? s hf, ho]

lemma endsIn_of_outer_some {f : Frame} {o : FrameId} (hf : s.frame? id = some f)
    (ho : f.outer = some o) : s.EndsIn id g ↔ s.EndsIn o g := by
  have hne := chain_ne_nil (outer_isSome hf ho)
  simp only [EndsIn, chain_of_frame? s hf, ho, Option.elim_some]
  rw [List.getLast?_cons_of_ne_nil hne]

lemma EndsIn.root (h : s.EndsIn id g) : s.root id = g := by
  rw [Store.root, show (s.chain id).getLast? = some g from h]
  rfl

lemma EndsIn.scoping (h : s.EndsIn id g) :
    s.scoping id = ((s.frame? g).bind (·.scoping)).getD .dynamic := by
  rw [Store.scoping, h.root]

lemma EndsIn.global (h : s.EndsIn id g) : ∃ f, s.frame? g = some f ∧ f.outer = none := by
  induction id using Nat.strongRecOn with
  | ind id ih =>
    obtain ⟨f, hf⟩ := Option.isSome_iff_exists.mp h.isSome
    cases ho : f.outer with
    | none =>
      obtain rfl := (endsIn_of_outer_none hf ho).mp h
      exact ⟨f, hf, ho⟩
    | some o => exact ih o (s.older id o f hf ho) ((endsIn_of_outer_some hf ho).mp h)

lemma EndsIn.self (h : s.EndsIn id g) : s.EndsIn g g := by
  obtain ⟨f, hf, ho⟩ := h.global
  exact (endsIn_of_outer_none hf ho).mpr rfl

lemma EndsIn.of_mem_chain {i : FrameId} (h : s.EndsIn id g) (hi : i ∈ s.chain id) : s.EndsIn i g := by
  induction id using Nat.strongRecOn with
  | ind id ih =>
    obtain ⟨f, hf⟩ := Option.isSome_iff_exists.mp h.isSome
    rw [chain_of_frame? s hf] at hi
    rcases List.mem_cons.mp hi with rfl | hi
    · exact h
    · cases ho : f.outer with
      | none => simp [ho] at hi
      | some o =>
        rw [ho] at hi
        exact ih o (s.older id o f hf ho) ((endsIn_of_outer_some hf ho).mp h) hi

lemma chain_isChain (s : Store) (id : FrameId) : (s.chain id).IsChain s.Outer := by
  induction id using Nat.strongRecOn with
  | ind id ih =>
    cases hf : s.frame? id with
    | none => simp [chain_of_frame?_none s hf]
    | some f =>
      rw [chain_of_frame? s hf]
      cases ho : f.outer with
      | none => simp
      | some o =>
        obtain ⟨f', hf'⟩ := Option.isSome_iff_exists.mp (outer_isSome hf ho)
        have hi := ih o (s.older id o f hf ho)
        simp only [Option.elim_some, chain_of_frame? s hf'] at hi ⊢
        exact List.isChain_cons_cons.mpr ⟨⟨f, hf, ho⟩, hi⟩

lemma EndsIn.path (h : s.EndsIn id g) : Relation.ReflTransGen s.Outer id g := by
  induction id using Nat.strongRecOn with
  | ind id ih =>
    obtain ⟨f, hf⟩ := Option.isSome_iff_exists.mp h.isSome
    cases ho : f.outer with
    | none =>
      obtain rfl := (endsIn_of_outer_none hf ho).mp h
      exact .refl
    | some o =>
      exact .head ⟨f, hf, ho⟩ (ih o (s.older id o f hf ho) ((endsIn_of_outer_some hf ho).mp h))

lemma get?_of_frame? {f : Frame} (hf : s.frame? id = some f) (name : String) :
    s.get? id name = (f.bindings.find? name).or (f.outer.bind fun o => s.get? o name) := by
  have hb : s.bindings id = f.bindings := by simp [bindings, hf]
  rw [get?, chain_of_frame? s hf, List.findSome?_cons, hb]
  cases f.bindings.find? name <;> cases f.outer <;> rfl

lemma get?_of_endsIn (h : s.EndsIn g g) (name : String) : s.get? g name = (s.bindings g).find? name := by
  obtain ⟨f, hf, ho⟩ := h.global
  rw [get?_of_frame? hf, ho, bindings, hf]
  exact Option.or_none

lemma nameOf?_of_frame? {f : Frame} (hf : s.frame? id = some f) (v : Value) :
    s.nameOf? id v = (f.bindings.nameOf? v).or (f.outer.bind fun o => s.nameOf? o v) := by
  have hb : s.bindings id = f.bindings := by simp [bindings, hf]
  rw [nameOf?, chain_of_frame? s hf, List.findSome?_cons, hb]
  cases f.bindings.nameOf? v <;> cases f.outer <;> rfl

def Within (s t : Store) : Prop := ∀ id f, s.frame? id = some f → t.frame? id = some f

namespace Within

variable {t u : Store}

lemma trans (h : s.Within t) (hu : t.Within u) : s.Within u := fun id f hf => hu id f (h id f hf)

lemma chain (h : s.Within t) (hs : (s.frame? id).isSome) : t.chain id = s.chain id := by
  induction id using Nat.strongRecOn with
  | ind id ih =>
    obtain ⟨f, hf⟩ := Option.isSome_iff_exists.mp hs
    rw [chain_of_frame? _ hf, chain_of_frame? _ (h id f hf)]
    cases ho : f.outer with
    | none => rfl
    | some o =>
      have houter := ih o (s.older id o f hf ho) (outer_isSome hf ho)
      simp only [Option.elim_some, houter]

lemma endsIn (h : s.Within t) (he : s.EndsIn id g) : t.EndsIn id g := by
  rw [EndsIn, h.chain he.isSome]
  exact he

lemma get?_eq (h : s.Within t) (hs : (s.frame? id).isSome) (name : String) : t.get? id name = s.get? id name := by
  induction id using Nat.strongRecOn with
  | ind id ih =>
    obtain ⟨f, hf⟩ := Option.isSome_iff_exists.mp hs
    rw [get?_of_frame? hf, get?_of_frame? (h id f hf)]
    cases ho : f.outer with
    | none => rfl
    | some o => rw [Option.bind_some, Option.bind_some, ih o (s.older id o f hf ho) (outer_isSome hf ho)]

lemma get? {name : String} {v : Value} (h : s.Within t) (hv : s.get? id name = some v) : t.get? id name = some v := by
  cases hf : s.frame? id with
  | none => simp [Store.get?, chain_of_frame?_none _ hf] at hv
  | some f => rw [h.get?_eq (Option.isSome_of_eq_some hf), hv]

end Within

lemma within_alloc (s : Store) (f : Frame) : s.Within (s.alloc f).2 := by
  intro id f' hf
  have hlt : id < s.frames.size := frame?_isSome_iff.mp (Option.isSome_of_eq_some hf)
  exact (s.frame?_alloc f hlt).trans hf

end CurriedLisp.Store
