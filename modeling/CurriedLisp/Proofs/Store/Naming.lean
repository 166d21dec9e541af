import CurriedLisp.Proofs.Store.Growth

namespace CurriedLisp

namespace Bindings

variable {b : Bindings} {name : String} {v : Value}

lemma find?_of_nameOf? (h : b.names.Nodup) (hn : b.nameOf? v = some name) :
    ∃ w, b.find? name = some w ∧ w.equal v = true := by
  obtain ⟨⟨_, w⟩, hfound, rfl⟩ := Option.map_eq_some_iff.mp hn
  have hequal := List.find?_some hfound
  exact ⟨w, find?_of_mem h (List.mem_of_find?_eq_some hfound), hequal⟩

lemma nameOf?_eq_none_iff : b.nameOf? v = none ↔ ∀ entry ∈ b, entry.2.equal v = false := by
  rw [nameOf?, Option.map_eq_none_iff, List.find?_eq_none]
  simp only [Bool.not_eq_true]

lemma isSome_nameOf? {w : Value} (hm : (name, w) ∈ b) (he : w.equal v = true) : (b.nameOf? v).isSome := by
  rw [nameOf?, Option.isSome_map, List.find?_isSome]
  exact ⟨_, hm, he⟩

end Bindings

lemma Value.equal_builtin_iff {v : Value} {op : Builtin} {name : String} :
    v.equal (.builtin op name) = true ↔ ∃ other, v = .builtin op other := by
  cases v <;> simp [Value.equal, Value.same]

namespace Store

variable {s : Store} {env i : FrameId} {name : String} {u v w : Value} {before after : List FrameId}

structure Calls (s : Store) (env : FrameId) (v : Value) (name : String) (before : List FrameId) (i : FrameId) :
    Prop where
  chain : ∃ after, s.chain env = before ++ i :: after
  found : ∃ w, (s.bindings i).find? name = some w ∧ w.equal v = true
  nearer : ∀ j ∈ before, ∀ entry ∈ s.bindings j, entry.2.equal v = false

lemma calls_of_nameOf? (hd : ∀ i ∈ s.chain env, (s.bindings i).names.Nodup) (h : s.nameOf? env v = some name) :
    ∃ before i, s.Calls env v name before i := by
  obtain ⟨before, i, after, hchain, hname, hbefore⟩ := List.findSome?_eq_some_iff.mp h
  have hi : i ∈ s.chain env := by simp [hchain]
  exact ⟨before, i, ⟨after, hchain⟩, Bindings.find?_of_nameOf? (hd i hi) hname,
    fun j hj => Bindings.nameOf?_eq_none_iff.mp (hbefore j hj)⟩

lemma Calls.mem_chain (h : s.Calls env v name before i) : i ∈ s.chain env := by
  obtain ⟨after, hchain⟩ := h.chain
  simp [hchain]

lemma Calls.get? (h : s.Calls env v name before i) : ∃ u, s.get? env name = some u ∧
    (u.equal v = true ↔ ∀ j ∈ before, (s.bindings j).find? name = none) := by
  obtain ⟨after, hchain⟩ := h.chain
  obtain ⟨w, hfind, hequal⟩ := h.found
  rw [Store.get?, hchain, List.findSome?_append, List.findSome?_cons, hfind]
  cases hb : before.findSome? fun j => (s.bindings j).find? name with
  | none => exact ⟨w, rfl, fun _ => List.findSome?_eq_none_iff.mp hb, fun _ => hequal⟩
  | some u =>
    obtain ⟨j, hj, hu⟩ := List.exists_of_findSome?_eq_some hb
    have hother : u.equal v = false := h.nearer j hj _ (Bindings.mem_of_find? hu)
    refine ⟨u, rfl, fun h => ?_, fun h => ?_⟩
    · cases hother.symm.trans h
    · cases hu.symm.trans (h j hj)

lemma nameOf?_eq_none_iff : s.nameOf? env v = none ↔
    ∀ i ∈ s.chain env, ∀ entry ∈ s.bindings i, entry.2.equal v = false := by
  rw [nameOf?, List.findSome?_eq_none_iff]
  exact forall₂_congr fun i _ => Bindings.nameOf?_eq_none_iff

lemma frames_of_one_name {p q : Builtin} {near far : List FrameId} {j : FrameId} (hpq : p ≠ q)
    (hp : s.Calls env (.ofBuiltin p) name near i) (hq : s.Calls env (.ofBuiltin q) name far j) : i ≠ j := by
  rintro rfl
  obtain ⟨_, hfirst, hequal⟩ := hp.found
  obtain ⟨_, rfl⟩ := Value.equal_builtin_iff.mp hequal
  obtain ⟨_, hsecond, hequal⟩ := hq.found
  obtain ⟨_, rfl⟩ := Value.equal_builtin_iff.mp hequal
  cases hfirst.symm.trans hsecond
  exact hpq rfl

theorem nameOf?_means (s : Store) (env : FrameId) (hd : ∀ i ∈ s.chain env, (s.bindings i).names.Nodup) :
    (∀ v name, s.nameOf? env v = some name → ∃ before i, s.Calls env v name before i ∧
      ∃ u, s.get? env name = some u ∧
        (u.equal v = true ↔ ∀ j ∈ before, (s.bindings j).find? name = none)) ∧
    (∀ p q name, p ≠ q → s.builtinName? env p = some name → s.builtinName? env q = some name →
      ∃ i ∈ s.chain env, ∃ j ∈ s.chain env, i ≠ j ∧
        name ∈ (s.bindings i).names ∧ name ∈ (s.bindings j).names) ∧
    ∀ v, s.nameOf? env v = none ↔ ∀ i ∈ s.chain env, ∀ entry ∈ s.bindings i, entry.2.equal v = false := by
  refine ⟨fun v name h => ?_, fun p q name hpq hp hq => ?_, fun v => nameOf?_eq_none_iff⟩
  · obtain ⟨before, i, hcalls⟩ := calls_of_nameOf? hd h
    exact ⟨before, i, hcalls, hcalls.get?⟩
  · obtain ⟨near, i, hfirst⟩ := calls_of_nameOf? hd hp
    obtain ⟨far, j, hsecond⟩ := calls_of_nameOf? hd hq
    have hbound : ∀ {v before k}, s.Calls env v name before k → name ∈ (s.bindings k).names := by
      intro v before k h
      obtain ⟨w, hw, -⟩ := h.found
      exact List.mem_map_of_mem (Bindings.mem_of_find? hw)
    exact ⟨i, hfirst.mem_chain, j, hsecond.mem_chain, frames_of_one_name hpq hfirst hsecond, hbound hfirst,
      hbound hsecond⟩

def shadowing : Store :=
  let global := (Store.empty.alloc { bindings := [("+", .ofBuiltin (.arithmetic .add)),
    ("add", .ofBuiltin (.arithmetic .add)), ("-", .ofBuiltin (.arithmetic .sub))] }).2
  (global.alloc { bindings := [("+", .ofBuiltin (.arithmetic .sub))], outer := some 0 }).2

lemma shadowing_distinct : ∀ i ∈ shadowing.chain 1, (shadowing.bindings i).names.Nodup := by decide

theorem nameOf?_means_shadowing :
    (∃ before i, shadowing.Calls 1 (.ofBuiltin (.arithmetic .sub)) "+" before i) ∧
    ∃ i ∈ shadowing.chain 1, ∃ j ∈ shadowing.chain 1, i ≠ j ∧
      "+" ∈ (shadowing.bindings i).names ∧ "+" ∈ (shadowing.bindings j).names := by
  obtain ⟨hcalls, hboth, -⟩ := nameOf?_means shadowing 1 shadowing_distinct
  have hadd : shadowing.builtinName? 1 (.arithmetic .add) = some "+" := by decide
  have hsub : shadowing.builtinName? 1 (.arithmetic .sub) = some "+" := by decide
  obtain ⟨before, i, h, -⟩ := hcalls _ _ hsub
  exact ⟨⟨before, i, h⟩, hboth _ _ "+" (by decide) hadd hsub⟩

theorem nameOf?_misleads :
    (∀ i ∈ shadowing.chain 1, (shadowing.bindings i).names.Nodup) ∧
    shadowing.builtinName? 1 (.arithmetic .add) = some "+" ∧
    (∀ u, shadowing.get? 1 "+" = some u → u.equal (.ofBuiltin (.arithmetic .add)) = false) ∧
    shadowing.builtinName? 1 (.arithmetic .sub) = some "+" := by
  refine ⟨shadowing_distinct, by decide, fun u hu => ?_, by decide⟩
  cases hu
  rfl

end Store

end CurriedLisp
