import CurriedLisp.Proofs.Store.Growth
import CurriedLisp.Proofs.Store.Rebinding

namespace CurriedLisp.Store

variable {s t : Store} {c e i : FrameId} {name : String} {v : Value}

def Reaches (s : Store) (i e : FrameId) (name : String) : Prop :=
  ∃ before after, s.chain i = before ++ e :: after ∧ ∀ j ∈ before, (s.bindings j).find? name = none

section Search

variable {α : Type} {f g : FrameId → Option α} {a : α} {l before after : List FrameId}

lemma findSome?_reached (hg : ∀ j, j ≠ e → g j = f j) (he : g e = some a) (hl : l = before ++ e :: after)
    (hb : ∀ j ∈ before, f j = none) : l.findSome? g = some a := by
  subst hl
  induction before with
  | nil => rw [List.nil_append, List.findSome?_cons, he]
  | cons j before ih =>
    rw [List.cons_append, List.findSome?_cons]
    by_cases hj : j = e
    · rw [hj, he]
    · rw [hg j hj, hb j List.mem_cons_self]
      exact ih fun k hk => hb k (List.mem_cons_of_mem _ hk)

lemma findSome?_unreached (hg : ∀ j, j ≠ e → g j = f j)
    (hl : ¬ ∃ before after, l = before ++ e :: after ∧ ∀ j ∈ before, f j = none) :
    l.findSome? g = l.findSome? f := by
  induction l with
  | nil => rfl
  | cons j rest ih =>
    have hj : j ≠ e := fun hj => hl ⟨[], rest, by rw [hj, List.nil_append], nofun⟩
    rw [List.findSome?_cons, List.findSome?_cons, hg j hj]
    cases hf : f j with
    | some a => rfl
    | none =>
      refine ih fun ⟨before, after, hrest, hb⟩ => hl ⟨j :: before, after, by rw [hrest, List.cons_append], ?_⟩
      exact List.forall_mem_cons.mpr ⟨hf, hb⟩

end Search

lemma find?_bindings_put (he : (s.frame? e).isSome) (i : FrameId) (other : String) :
    ((s.put e name v).bindings i).find? other =
      if i = e ∧ other = name then some v else (s.bindings i).find? other := by
  rw [put, bindings_update]
  by_cases hi : i = e
  · subst hi
    simp [he, Bindings.find?_put]
  · simp [hi]

lemma chain_put (s : Store) (e : FrameId) (name : String) (v : Value) (i : FrameId) :
    (s.put e name v).chain i = s.chain i := s.chain_update e _ i

lemma endsIn_root (h : (s.frame? e).isSome) : s.EndsIn e (s.root e) := by
  have hlast := List.getLast?_eq_some_getLast (chain_ne_nil h)
  rw [EndsIn, root, hlast, Option.getD_some]

structure Written (s t : Store) (e : FrameId) (name : String) (v : Value) : Prop where
  seen : ∀ i, s.Reaches i e name → t.get? i name = some v
  unseen : ∀ i, ¬ s.Reaches i e name → t.get? i name = s.get? i name
  otherNames : ∀ i other, other ≠ name → t.get? i other = s.get? i other
  otherFrames : ∀ i, i ≠ e → t.frame? i = s.frame? i
  frame : ∃ f f', s.frame? e = some f ∧ t.frame? e = some f' ∧ f'.outer = f.outer ∧ f'.scoping = f.scoping ∧
    f'.bindings.names = (if name ∈ f.bindings.names then f.bindings.names else f.bindings.names ++ [name]) ∧
    (f.bindings.names.Nodup → f'.bindings.names.Nodup)

lemma written_put (he : (s.frame? e).isSome) (name : String) (v : Value) :
    s.Written (s.put e name v) e name v where
  seen i h := by
    obtain ⟨before, after, hchain, hbefore⟩ := h
    rw [get?, chain_put]
    refine findSome?_reached (fun j hj => ?_) ?_ hchain hbefore
    · rw [find?_bindings_put he, if_neg fun h => hj h.1]
    · rw [find?_bindings_put he, if_pos ⟨rfl, rfl⟩]
  unseen i h := by
    rw [get?, chain_put, get?]
    exact findSome?_unreached (fun j hj => by rw [find?_bindings_put he, if_neg fun h => hj h.1]) h
  otherNames i other ho := by
    have hsame : ∀ j, ((s.put e name v).bindings j).find? other = (s.bindings j).find? other := fun j => by
      rw [find?_bindings_put he, if_neg fun h => ho h.2]
    rw [get?, chain_put, get?]
    simp only [hsame]
  otherFrames i hi := by
    rw [put, frame?_update]
    simp [hi]
  frame := by
    obtain ⟨f, hf⟩ := Option.isSome_iff_exists.mp he
    refine ⟨f, { f with bindings := f.bindings.put name v }, hf, ?_, rfl, rfl, f.bindings.names_put name v,
      fun hd => Bindings.nodup_put hd name v⟩
    rw [put, frame?_update, hf]
    simp

structure Write where
  frame : FrameId
  global : Bool
  name : String
  value : Value

def write (s : Store) (w : Write) : Store :=
  if w.global then s.define w.frame w.name w.value else s.put w.frame w.name w.value

def writeAll (s : Store) (writes : List Write) : Store := writes.foldl write s

lemma write_eq_put (s : Store) (w : Write) :
    s.write w = s.put (if w.global then s.root w.frame else w.frame) w.name w.value := by
  unfold write
  split <;> rfl

lemma isSome_write (s : Store) (w : Write) (i : FrameId) : ((s.write w).frame? i).isSome = (s.frame? i).isSome := by
  rw [write_eq_put, put, frame?_update, Option.isSome_map]

lemma isSome_writeAll (s : Store) (writes : List Write) (i : FrameId) :
    ((s.writeAll writes).frame? i).isSome = (s.frame? i).isSome := by
  induction writes generalizing s with
  | nil => rfl
  | cons w rest ih => exact (ih (s.write w)).trans (isSome_write s w i)

lemma Within.put (h : s.Within t) (e : FrameId) (name : String) (v : Value) :
    (s.put e name v).Within (t.put e name v) := by
  intro i f hf
  rw [Store.put, frame?_update, Option.map_eq_some_iff] at hf
  obtain ⟨f', hf', rfl⟩ := hf
  rw [Store.put, frame?_update, h i f' hf', Option.map_some]

lemma Within.write (h : s.Within t) (w : Write) (hw : (s.frame? w.frame).isSome) :
    (s.write w).Within (t.write w) := by
  have hroot : t.root w.frame = s.root w.frame := by rw [root, root, h.chain hw]
  rw [write_eq_put, write_eq_put, hroot]
  exact h.put _ _ _

structure Beside (s t : Store) (c : FrameId) (b : Bindings) : Prop where
  within : s.Within t
  apart : s.frame? c = none
  frame : t.frame? c = some { bindings := b }

lemma Beside.write_into {b : Bindings} (h : s.Beside t c b) {w : Write} (hw : w.frame = c) :
    s.Beside (t.write w) c (b.put w.name w.value) := by
  have hends : t.EndsIn c c := (endsIn_of_outer_none h.frame rfl).mpr rfl
  have hput : t.write w = t.put c w.name w.value := by
    rw [write_eq_put, hw, hends.root, ite_self]
  refine ⟨fun i f hf => ?_, h.apart, ?_⟩
  · have hi : i ≠ c := by
      rintro rfl
      cases hf.symm.trans h.apart
    rw [hput, Store.put, frame?_update, h.within i f hf]
    simp [hi]
  · rw [hput, Store.put, frame?_update, h.frame]
    simp

lemma Beside.write_past {b : Bindings} (h : s.Beside t c b) {w : Write} (hw : (s.frame? w.frame).isSome) :
    (s.write w).Beside (t.write w) c b := by
  have hroot : t.root w.frame = s.root w.frame := by rw [root, root, h.within.chain hw]
  have hc : ∀ i, (s.frame? i).isSome → c ≠ i := by
    rintro i hi rfl
    simp [h.apart] at hi
  refine ⟨h.within.write w hw, ?_, ?_⟩
  · rw [← Option.isNone_iff_eq_none, ← Option.not_isSome, isSome_write, h.apart]
    rfl
  · have hplace : c ≠ if w.global then s.root w.frame else w.frame := by
      split
      · exact hc _ (endsIn_root hw).self.isSome
      · exact hc _ hw
    rw [write_eq_put, hroot, Store.put, frame?_update, h.frame]
    simp [hplace]

lemma Beside.writeAll {b : Bindings} (h : s.Beside t c b) {writes : List Write}
    (hw : ∀ w ∈ writes, w.frame = c ∨ (s.frame? w.frame).isSome) :
    (s.writeAll (writes.filter (·.frame ≠ c))).Beside (t.writeAll writes) c
      (b.putAll ((writes.filter (·.frame = c)).map fun w => (w.name, w.value))) := by
  induction writes generalizing s t b with
  | nil => exact h
  | cons w rest ih =>
    obtain ⟨hfirst, hrest⟩ := List.forall_mem_cons.mp hw
    by_cases hc : w.frame = c
    · rw [List.filter_cons_of_neg (by simp [hc]), List.filter_cons_of_pos (by simp [hc])]
      exact ih (h.write_into hc) hrest
    · rw [List.filter_cons_of_pos (by simp [hc]), List.filter_cons_of_neg (by simp [hc])]
      refine ih (h.write_past (hfirst.resolve_left hc)) fun w' hw' => ?_
      rw [isSome_write]
      exact hrest w' hw'

lemma beside_copy (s : Store) (e : FrameId) : s.Beside (s.copy e).2 (s.copy e).1 (s.bindings e) where
  within := s.within_alloc _
  apart := by simp [copy, alloc, frame?]
  frame := s.frame?_alloc_new _

/-- Of the writes that come after a copy, those into it are seen from the copy alone, and all others only from
elsewhere. -/
theorem scope_laws (s : Store) (e : FrameId) (he : (s.frame? e).isSome) :
    (∀ name v, s.Written (s.put e name v) e name v) ∧
    (s.EndsIn e (s.root e) ∧ ∀ name v, s.Written (s.define e name v) (s.root e) name v) ∧
    ∀ writes : List Write, (∀ w ∈ writes, ((s.copy e).2.frame? w.frame).isSome) →
      (∀ i name, (s.frame? i).isSome → ((s.copy e).2.writeAll writes).get? i name =
        (s.writeAll (writes.filter (·.frame ≠ (s.copy e).1))).get? i name) ∧
      ∀ name, ((s.copy e).2.writeAll writes).get? (s.copy e).1 name =
        ((s.bindings e).putAll
          ((writes.filter (·.frame = (s.copy e).1)).map fun w => (w.name, w.value))).find? name := by
  have hroot : s.EndsIn e (s.root e) := endsIn_root he
  refine ⟨written_put he, ⟨hroot, written_put hroot.self.isSome⟩, fun writes hw => ?_⟩
  have hplaces : ∀ w ∈ writes, w.frame = (s.copy e).1 ∨ (s.frame? w.frame).isSome := by
    intro w hmem
    have hsize := frame?_isSome_iff.mp (hw w hmem)
    rw [copy, alloc, Array.size_push] at hsize
    rw [frame?_isSome_iff]
    exact (Nat.lt_succ_iff_lt_or_eq.mp hsize).symm
  have hbeside := (s.beside_copy e).writeAll hplaces
  refine ⟨fun i name hi => hbeside.within.get?_eq ?_ name, fun name => ?_⟩
  · rwa [isSome_writeAll]
  · rw [get?_of_frame? hbeside.frame]
    exact Option.or_none

def forked : Store :=
  let first := (Store.empty.alloc { bindings := [("x", .string "global"), ("y", .string "why")] }).2
  let second := (first.alloc { bindings := [("x", .string "local")], outer := some 0 }).2
  let third := (second.alloc { outer := some 0 }).2
  (third.alloc { outer := some 1 }).2

def divergingWrites : List Write := [⟨4, true, "x", .nothing⟩, ⟨1, false, "y", .nothing⟩]

theorem scope_laws_forked :
    (forked.frame? 0).isSome ∧ (forked.put 0 "x" .nothing).get? 2 "x" = some .nothing ∧
    (forked.put 0 "x" .nothing).get? 3 "x" = some (.string "local") ∧
    (forked.define 3 "z" .nothing).get? 2 "z" = some .nothing ∧
    ((forked.copy 1).2.writeAll divergingWrites).get? 3 "x" = some (.string "local") ∧
    ((forked.copy 1).2.writeAll divergingWrites).get? 4 "x" = some .nothing ∧
    ((forked.copy 1).2.writeAll divergingWrites).get? 4 "y" = none := by
  have hput := (scope_laws forked 0 rfl).1 "x" .nothing
  have hdefine := (scope_laws forked 3 rfl).2.1.2 "z" .nothing
  obtain ⟨hothers, hcopy⟩ := (scope_laws forked 1 rfl).2.2 divergingWrites
    (List.forall_mem_cons.mpr ⟨rfl, List.forall_mem_cons.mpr ⟨rfl, nofun⟩⟩)
  have hseen : ∀ name, (forked.bindings 2).find? name = none → forked.Reaches 2 0 name := fun _ hnone =>
    ⟨[2], [], rfl, fun _ hj => List.mem_singleton.mp hj ▸ hnone⟩
  refine ⟨rfl, hput.seen 2 (hseen "x" rfl), ?_, hdefine.seen 2 (hseen "z" rfl), hothers 3 "x" rfl, hcopy "x",
    hcopy "y"⟩
  refine hput.unseen 3 ?_
  -- On the way to the global frame stands the second one, which binds the name.
  rintro ⟨before, after, hchain, hbefore⟩
  have hlocal : [3, 1, 0] = before ++ 0 :: after := hchain
  rcases before with _ | ⟨_, _ | ⟨_, before⟩⟩
  · cases hlocal
  · cases hlocal
  · obtain ⟨-, rfl, -⟩ : 3 = _ ∧ 1 = _ ∧ _ := by simpa using hlocal
    exact absurd (hbefore 1 (by simp)) nofun

end CurriedLisp.Store
