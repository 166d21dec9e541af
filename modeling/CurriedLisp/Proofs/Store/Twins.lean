import CurriedLisp.Proofs.Store.Growth
import CurriedLisp.Proofs.Value.Captures

/-! Two stores for one program under both scopings. Frames have the same numbers and bindings in both. In the
first, functions keep no frames, so that a frame is linked to that of the caller; in the second all functions
have captured the global frame, to which all others are linked. -/

namespace CurriedLisp.Store

def answersNear (s : Store) (env : FrameId) (answers : Bindings → Bool) : Bool :=
  match (s.chain env).find? fun i => answers (s.bindings i) with
  | none => true
  | some i => i == env || i == s.root env

/-- In `d` chains may be long but all end in `g`, and no value has captured a frame; in `l` they have at most two
frames, and every function has captured `g`. -/
structure Twins (g : FrameId) (d l : Store) : Prop where
  size : l.frames.size = d.frames.size
  ends : d.AllEndIn g
  global : (d.frame? g).isSome
  outer : ∀ id f, l.frame? id = some f → f.outer = if id = g then none else some g
  dynamic : ((d.frame? g).bind (·.scoping)).getD .dynamic = .dynamic
  lexical : ((l.frame? g).bind (·.scoping)).getD .dynamic = .lexical
  bare : ∀ id, (d.bindings id).recapture none = d.bindings id
  bindings : ∀ id, l.bindings id = (d.bindings id).recapture (some g)

lemma findSome?_eq_find? {α β : Type} (f : α → Option β) (l : List α) :
    l.findSome? f = (l.find? fun a => (f a).isSome).bind f := by
  induction l with
  | nil => rfl
  | cons a rest ih =>
    rw [List.findSome?_cons, List.find?_cons, ih]
    cases h : f a <;> simp [h]

variable {s d l : Store} {g env : FrameId}

lemma chain_head (h : (s.frame? env).isSome) : ∃ rest, s.chain env = env :: rest := by
  obtain ⟨f, hf⟩ := Option.isSome_iff_exists.mp h
  exact ⟨_, chain_of_frame? s hf⟩

lemma findSome?_of_near {α : Type} {ask : Bindings → Option α} (he : s.EndsIn env g)
    (hnear : s.answersNear env (fun b => (ask b).isSome) = true) :
    (s.chain env).findSome? (fun i => ask (s.bindings i)) = (ask (s.bindings env)).or (ask (s.bindings g)) := by
  obtain ⟨rest, hrest⟩ := chain_head he.isSome
  have hg : g ∈ s.chain env := List.mem_of_getLast? he
  unfold answersNear at hnear
  rw [findSome?_eq_find?]
  cases hfound : (s.chain env).find? fun i => (ask (s.bindings i)).isSome with
  | none =>
    have hnone : ∀ i ∈ s.chain env, ask (s.bindings i) = none := by
      simpa using hfound
    rw [hnone g hg, hnone env (by simp [hrest])]
    rfl
  | some i =>
    rw [hfound, he.root] at hnear
    have hi : (ask (s.bindings i)).isSome = true := by
      have := List.find?_some hfound
      exact this
    rw [hrest, List.find?_cons] at hfound
    cases henv : ask (s.bindings env) with
    | some a =>
      rw [henv] at hfound
      obtain rfl : env = i := by simpa using hfound
      rw [Option.bind_some, henv]
      rfl
    | none =>
      have hne : i ≠ env := by
        rintro rfl
        rw [henv] at hi
        cases hi
      obtain rfl : i = g := by simpa [hne] using hnear
      rfl

namespace Twins

variable (h : Twins g d l)
include h

lemma endsIn (he : env < d.frames.size) : d.EndsIn env g := h.ends env (frame?_isSome_iff.mpr he)

lemma lt : g < d.frames.size := frame?_isSome_iff.mp h.global

lemma chain (he : env < d.frames.size) : l.chain env = if env = g then [g] else [env, g] := by
  have hchain : ∀ {id}, id < d.frames.size → l.chain id = id :: (if id = g then none else some g).elim [] l.chain := by
    intro id hid
    obtain ⟨f, hf⟩ := Option.isSome_iff_exists.mp (frame?_isSome_iff.mpr (h.size ▸ hid))
    rw [chain_of_frame? l hf, h.outer id f hf]
  have hglobal : l.chain g = [g] := by
    rw [hchain h.lt, if_pos rfl]
    rfl
  rw [hchain he]
  split
  · next heq =>
    rw [heq]
    rfl
  · rw [Option.elim_some, hglobal]

lemma endsIn_lexical (he : env < d.frames.size) : l.EndsIn env g := by
  rw [EndsIn, h.chain he]
  split <;> rfl

lemma root_eq (he : env < d.frames.size) : l.root env = d.root env := by
  rw [(h.endsIn he).root, (h.endsIn_lexical he).root]

lemma scoping_dynamic (he : env < d.frames.size) : d.scoping env = .dynamic :=
  (h.endsIn he).scoping.trans h.dynamic

lemma scoping_lexical (he : env < d.frames.size) : l.scoping env = .lexical :=
  (h.endsIn_lexical he).scoping.trans h.lexical

lemma findSome?_eq {α β : Type} (ask : Bindings → Option α) (ask' : Bindings → Option β) {f : α → β}
    (hask : ∀ b, ask' (b.recapture (some g)) = (ask b).map f) (he : env < d.frames.size)
    (hnear : d.answersNear env (fun b => (ask b).isSome) = true) :
    (l.chain env).findSome? (fun i => ask' (l.bindings i)) =
      ((d.chain env).findSome? fun i => ask (d.bindings i)).map f := by
  have hboth : ∀ i, ask' (l.bindings i) = (ask (d.bindings i)).map f := by
    intro i
    rw [h.bindings, hask]
  rw [findSome?_of_near (h.endsIn he) hnear, h.chain he]
  split
  · next heq =>
    subst heq
    rw [List.findSome?_cons, hboth, List.findSome?_nil]
    cases ask (d.bindings env) <;> rfl
  · rw [List.findSome?_cons, List.findSome?_cons, hboth, hboth, List.findSome?_nil]
    cases ask (d.bindings env) <;> cases ask (d.bindings g) <;> rfl

lemma get?_eq {name : String} (he : env < d.frames.size)
    (hnear : d.answersNear env (fun b => (b.find? name).isSome) = true) :
    l.get? env name = (d.get? env name).map (Value.recapture (some g)) :=
  h.findSome?_eq (·.find? name) (·.find? name) (·.find?_recapture name) he hnear

lemma recapture_get? {name : String} {v : Value} (hv : d.get? env name = some v) : v.recapture none = v := by
  obtain ⟨i, -, hi⟩ := List.exists_of_findSome?_eq_some hv
  have hsame := Bindings.find?_recapture (c := none) (d.bindings i) name
  rw [h.bare, hi] at hsame
  exact (Option.some.inj hsame).symm

lemma builtinName?_eq {op : Builtin} (he : env < d.frames.size)
    (hnear : d.answersNear env (fun b => (b.nameOf? (.ofBuiltin op)).isSome) = true) :
    l.builtinName? env op = d.builtinName? env op := by
  have hask : ∀ b : Bindings, (b.recapture (some g)).nameOf? (.ofBuiltin op) = (b.nameOf? (.ofBuiltin op)).map id := by
    intro b
    rw [Option.map_id]
    exact b.nameOf?_recapture op op.name
  have hsame : l.builtinName? env op = (d.builtinName? env op).map id :=
    h.findSome?_eq (·.nameOf? (.ofBuiltin op)) (·.nameOf? (.ofBuiltin op)) hask he hnear
  rw [hsame, Option.map_id]
  rfl

lemma isSome_iff {id : FrameId} : (l.frame? id).isSome ↔ (d.frame? id).isSome := by
  rw [frame?_isSome_iff, frame?_isSome_iff, h.size]

lemma update {id : FrameId} {new : Bindings} (hnew : new.recapture none = new) :
    Twins g (d.update id (·.putAll new)) (l.update id (·.putAll (new.recapture (some g)))) := by
  have hd : d.Grown g (· = id) (d.update id (·.putAll new)) := grown_update g rfl
  have hl : l.Grown g (· = id) (l.update id (·.putAll (new.recapture (some g)))) := grown_update g rfl
  have hlt : g < l.frames.size := h.size ▸ h.lt
  refine ⟨?_, hd.allEndIn h.ends, hd.isSome h.global, fun i f hf => ?_, ?_, ?_, fun i => ?_, fun i => ?_⟩
  · simpa [Store.update] using h.size
  · rw [frame?_update, Option.map_eq_some_iff] at hf
    obtain ⟨f', hf', rfl⟩ := hf
    rw [← h.outer i f' hf']
    split <;> rfl
  · rw [hd.scoping h.global, h.dynamic]
  · rw [hl.scoping (frame?_isSome_iff.mpr hlt), h.lexical]
  · rw [bindings_update]
    split
    · rw [Bindings.putAll_recapture, h.bare, hnew]
    · exact h.bare i
  · rw [bindings_update, bindings_update, h.bindings]
    simp only [h.isSome_iff]
    split
    · rw [Bindings.putAll_recapture]
    · rfl

lemma alloc {own : Bindings} (hown : own.recapture none = own) (he : env < d.frames.size) :
    Twins g (d.alloc { bindings := own, outer := some env }).2
      (l.alloc { bindings := own.recapture (some g), outer := some g }).2 := by
  have hlt : g < l.frames.size := h.size ▸ h.lt
  have hd : d.Grown g (fun _ => False) (d.alloc { bindings := own, outer := some env }).2 :=
    grown_alloc rfl (h.endsIn he)
  have hend : l.EndsIn g g := h.endsIn_lexical h.lt
  refine ⟨?_, hd.allEndIn h.ends, hd.isSome h.global, fun i f hf => ?_, ?_, ?_, fun i => ?_, fun i => ?_⟩
  · simpa [Store.alloc] using h.size
  · cases hold : l.frame? i with
    | some f' =>
      rw [frame?_alloc _ _ (frame?_isSome_iff.mp (by simp [hold]))] at hf
      exact h.outer i f hf
    | none =>
      obtain rfl := eq_alloc_of_isSome hold (Option.isSome_of_eq_some hf)
      rw [alloc_new rfl hend] at hf
      obtain rfl := Option.some.inj hf
      exact (if_neg (Nat.ne_of_gt hlt)).symm
  · rw [frame?_alloc _ _ h.lt, h.dynamic]
  · rw [frame?_alloc _ _ hlt, h.lexical]
  · rw [bindings_alloc]
    split
    · exact hown
    · exact h.bare i
  · rw [bindings_alloc, bindings_alloc, h.size]
    split
    · rfl
    · exact h.bindings i

end Twins

end CurriedLisp.Store
