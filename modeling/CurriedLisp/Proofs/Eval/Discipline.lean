import CurriedLisp.Eval.Action
import CurriedLisp.Proofs.Eval.Contracts
import CurriedLisp.Proofs.Store.Growth
import CurriedLisp.Proofs.Value.Parts

/-! Disciplines: conditions on the parts of values and on the values bound to names that every operation
keeps up. A store holds to a discipline if all values bound in the frames of a session do, a session being
the frames whose chains end in one and the same global frame. Some disciplines want the store for one
session alone. -/

namespace CurriedLisp

structure Discipline where
  scoping : Scoping
  alone : Prop
  part : Value → Prop
  bound : Value → Prop
  part_of_kind : ∀ v, v.kind ≠ .error → v.kind ≠ .function → part v
  part_created : ∀ formals body env,
    part (.lambda formals body [] (if scoping = .lexical then some env else none))
  part_applied : ∀ formals formals' body own own' frame, part (.lambda formals body own frame) →
    (∀ b ∈ own', bound b.2) → part (.lambda formals' body own' frame)
  bound_own : ∀ formals body own frame, part (.lambda formals body own frame) → ∀ b ∈ own, bound b.2
  bound_of_settled : ∀ v, v.Settled → bound v

namespace Discipline

variable (δ : Discipline) (g : FrameId) (s : Store)

def Fits (v : Value) : Prop := v.Every fun w => δ.part w ∧ ∀ c, w.captured = some c → s.EndsIn c g

def Good (v : Value) : Prop := δ.bound v ∧ δ.Fits g s v

def Result (v : Value) : Prop := v.isError = true ∨ δ.Good g s v

structure Holds : Prop where
  scoping : ((s.frame? g).bind (·.scoping)).getD .dynamic = δ.scoping
  good : ∀ id, s.EndsIn id g → ∀ b ∈ s.bindings id, δ.Good g s b.2
  alone : δ.alone → s.AllEndIn g

variable {δ} {g : FrameId} {s t : Store} {W : FrameId → Prop} {v : Value}

lemma Fits.mono (hg : s.Grown g W t) (h : δ.Fits g s v) : δ.Fits g t v :=
  Value.Every.mono h fun _ hw => ⟨hw.1, fun c hc => hg.endsIn (hw.2 c hc)⟩

lemma Good.mono (hg : s.Grown g W t) (h : δ.Good g s v) : δ.Good g t v := ⟨h.1, h.2.mono hg⟩

lemma Result.mono (hg : s.Grown g W t) (h : δ.Result g s v) : δ.Result g t v := h.imp_right (·.mono hg)

lemma fits_list {b : Bracket} {items : List Value} :
    δ.Fits g s (.list b items) ↔ ∀ v ∈ items, δ.Fits g s v := by
  have hp : δ.part (.list b items) := δ.part_of_kind _ (by cases b <;> simp [Value.kind])
    (by cases b <;> simp [Value.kind])
  unfold Fits
  rw [Value.every_list]
  simp [hp, Value.captured]

lemma fits_of_plain (h : v.Plain) : δ.Fits g s v := by
  refine Value.Every.mono h fun w hw => ⟨δ.part_of_kind w hw.1 hw.2.1, fun c hc => ?_⟩
  cases w <;> simp_all [Value.captured, Value.kind]

lemma fits_of_children_nil (hc : v.children = []) (he : v.kind ≠ .error) (hf : v.kind ≠ .function) :
    δ.Fits g s v := by
  refine (Value.every_of_children_nil hc).2 ⟨δ.part_of_kind v he hf, fun c h => ?_⟩
  cases v <;> simp_all [Value.captured, Value.kind]

lemma good_number (n : Number) : δ.Good g s (.number n) :=
  ⟨δ.bound_of_settled _ trivial, fits_of_children_nil rfl (by simp [Value.kind]) (by simp [Value.kind])⟩

lemma good_builtin (op : Builtin) (name : String) : δ.Good g s (.builtin op name) :=
  ⟨δ.bound_of_settled _ trivial, fits_of_children_nil rfl (by simp [Value.kind]) (by simp [Value.kind])⟩

lemma good_nothing : δ.Good g s .nothing :=
  ⟨δ.bound_of_settled _ trivial, fits_list.2 (by simp)⟩

lemma good_qexpr {items : List Value} (h : ∀ v ∈ items, δ.Fits g s v) : δ.Good g s (.qexpr items) :=
  ⟨δ.bound_of_settled _ trivial, fits_list.2 h⟩

lemma good_created {env : FrameId} (names : List String) {body : List Value} (he : s.EndsIn env g)
    (hb : ∀ v ∈ body, δ.Fits g s v) :
    δ.Good g s (.lambda names body [] (if δ.scoping = .lexical then some env else none)) := by
  refine ⟨δ.bound_of_settled _ trivial, Value.every_lambda.2 ⟨⟨δ.part_created _ _ _, ?_⟩, hb, by simp⟩⟩
  intro c hc
  simp only [Value.captured, Option.ite_none_right_eq_some, Option.some.injEq] at hc
  exact hc.2 ▸ he

lemma good_own {formals : List String} {body : List Value} {own : Bindings} {frame : Option FrameId}
    (h : δ.Fits g s (.lambda formals body own frame)) : ∀ b ∈ own, δ.Good g s b.2 := by
  obtain ⟨⟨hp, -⟩, -, hown⟩ := Value.every_lambda.1 h
  exact fun b hb => ⟨δ.bound_own _ _ _ _ hp b hb, hown b hb⟩

lemma good_applied {formals : List String} (formals' : List String) {body : List Value}
    {own own' : Bindings} {frame : Option FrameId} (h : δ.Fits g s (.lambda formals body own frame))
    (ho : ∀ b ∈ own', δ.Good g s b.2) : δ.Good g s (.lambda formals' body own' frame) := by
  obtain ⟨⟨hp, hc⟩, hbody, -⟩ := Value.every_lambda.1 h
  refine ⟨δ.bound_of_settled _ trivial, Value.every_lambda.2 ⟨⟨?_, hc⟩, hbody, fun b hb => (ho b hb).2⟩⟩
  exact δ.part_applied _ _ _ _ _ _ hp fun b hb => (ho b hb).1

lemma Holds.update {id : FrameId} {new : List (String × Value)} (h : δ.Holds g s)
    (hn : ∀ b ∈ new, δ.Good g s b.2) :
    δ.Holds g (s.update id (·.putAll new)) where
  scoping := by
    rw [Store.frame?_update, ← h.scoping]
    cases s.frame? g with
    | none => rfl
    | some f => by_cases hi : g = id <;> simp [hi]
  good i hi b hb := by
    have hi := Store.endsIn_update.mp hi
    have hgrown : s.Grown g (· = id) (s.update id (·.putAll new)) := Store.grown_update g rfl
    apply Good.mono hgrown
    obtain ⟨f, hf⟩ := Option.isSome_iff_exists.mp hi.isSome
    have hold : ∀ b ∈ f.bindings, δ.Good g s b.2 := by
      have := h.good i hi
      rwa [Store.bindings, hf] at this
    rw [Store.bindings, Store.frame?_update, hf] at hb
    by_cases he : i = id
    · simp only [he, if_true, Option.map_some, Option.elim_some] at hb
      rcases Bindings.mem_putAll hb with hb | ⟨other, ho, he⟩
      · exact hold b hb
      · rw [he]
        exact hn other ho
    · simp only [he, if_false, Option.map_some, Option.elim_some] at hb
      exact hold b hb
  alone ha := by
    have hgrown : s.Grown g (· = id) (s.update id (·.putAll new)) := Store.grown_update g rfl
    exact hgrown.allEndIn (h.alone ha)

lemma Holds.alloc {f : Frame} {o : FrameId} (h : δ.Holds g s) (ho : f.outer = some o)
    (he : s.EndsIn o g) (hb : ∀ b ∈ f.bindings, δ.Good g s b.2) : δ.Holds g (s.alloc f).2 := by
  have hgrown : s.Grown g (fun _ => False) (s.alloc f).2 := Store.grown_alloc ho he
  refine ⟨?_, fun i hi b hm => Good.mono hgrown ?_, fun ha => hgrown.allEndIn (h.alone ha)⟩
  · rw [hgrown.scoping he.self.isSome, h.scoping]
  · cases hs : s.frame? i with
    | some f' =>
      have hsame := s.frame?_alloc f (Store.frame?_isSome_iff.mp (by simp [hs] : (s.frame? i).isSome))
      have hend : s.EndsIn i g := by
        rwa [Store.EndsIn, ← hgrown.chain (by simp [hs])]
      rw [Store.bindings, hsame] at hm
      exact h.good i hend b hm
    | none =>
      obtain rfl := Store.eq_alloc_of_isSome hs hi.isSome
      rw [Store.bindings, Store.alloc_new ho he] at hm
      exact hb b hm

end Discipline

end CurriedLisp
