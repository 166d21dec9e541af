import CurriedLisp.Proofs.Store.Chains

namespace CurriedLisp

namespace Bindings

lemma find?_putAll (b : Bindings) (new : List (String × Value)) (name : String) :
    (b.putAll new).find? name = (new.reverse.lookup name).or (b.find? name) := by
  induction new generalizing b with
  | nil => rfl
  | cons entry rest ih =>
    obtain ⟨other, v⟩ := entry
    have hstep : (b.putAll ((other, v) :: rest)).find? name = ((b.put other v).putAll rest).find? name := rfl
    rw [hstep, ih, find?_put, List.reverse_cons, List.lookup_append]
    cases rest.reverse.lookup name with
    | some w => rfl
    | none =>
      by_cases h : name = other
      · simp [h]
      · have hb : (name == other) = false := beq_false_of_ne h
        simp [h, hb, List.lookup_cons]

lemma names_putAll (b : Bindings) (new : List (String × Value)) :
    (b.putAll new).names = b.names ++ ((new.map Prod.fst).filter (· ∉ b.names)).eraseDups := by
  induction new generalizing b with
  | nil => simp [putAll]
  | cons entry rest ih =>
    obtain ⟨name, v⟩ := entry
    have hstep : (b.putAll ((name, v) :: rest)).names = ((b.put name v).putAll rest).names := rfl
    rw [hstep, ih, names_put]
    by_cases h : name ∈ b.names
    · simp [h]
    · have hnew : (rest.map Prod.fst).filter (· ∉ b.names ++ [name]) =
          ((rest.map Prod.fst).filter (· ∉ b.names)).filter (fun other => !(other == name)) := by
        rw [List.filter_filter]
        refine List.filter_congr fun other _ => ?_
        by_cases ho : other = name <;> simp [ho]
      rw [if_neg h, hnew, List.append_assoc, List.map_cons, List.filter_cons_of_pos (by simp [h]),
        List.eraseDups_cons]
      rfl

lemma nodup_put {b : Bindings} (h : b.names.Nodup) (name : String) (v : Value) : (b.put name v).names.Nodup := by
  rw [names_put]
  split
  · exact h
  · next hnew =>
    refine List.nodup_append.mpr ⟨h, by simp, fun other ho last hlast => ?_⟩
    rintro rfl
    exact hnew (List.mem_singleton.mp hlast ▸ ho)

lemma nodup_putAll {b : Bindings} (h : b.names.Nodup) (new : List (String × Value)) :
    (b.putAll new).names.Nodup := by
  induction new generalizing b with
  | nil => exact h
  | cons entry rest ih => exact ih (nodup_put h entry.1 entry.2)

end Bindings

namespace Store

structure Rebinds (s t : Store) (id : FrameId) (new : List (String × Value)) : Prop where
  size : t.frames.size = s.frames.size
  others : ∀ i, i ≠ id → t.frame? i = s.frame? i
  frame : ∃ f f', s.frame? id = some f ∧ t.frame? id = some f' ∧
    f'.outer = f.outer ∧ f'.scoping = f.scoping ∧
    f'.bindings.names = f.bindings.names ++ ((new.map Prod.fst).filter (· ∉ f.bindings.names)).eraseDups ∧
    ∀ name, f'.bindings.find? name = (new.reverse.lookup name).or (f.bindings.find? name)

lemma rebinds_update {s : Store} {id : FrameId} (h : (s.frame? id).isSome) (new : List (String × Value)) :
    s.Rebinds (s.update id (·.putAll new)) id new where
  size := Array.size_modify
  others i hi := by
    rw [frame?_update]
    simp [hi]
  frame := by
    obtain ⟨f, hf⟩ := Option.isSome_iff_exists.mp h
    refine ⟨f, { f with bindings := f.bindings.putAll new }, hf, ?_, rfl, rfl, ?_, fun name => ?_⟩
    · rw [frame?_update, hf]
      simp
    · exact f.bindings.names_putAll new
    · exact f.bindings.find?_putAll new name

end Store

end CurriedLisp
