import CurriedLisp.Store.Bindings

/-! Frames of bindings, linked outwards. A frame's outer one is always older than itself, so that every
chain of frames ends. -/

namespace CurriedLisp

/-- Where the frame of a called function is linked. -/
inductive Scoping where
  | dynamic
  | lexical
  deriving DecidableEq

namespace Scoping

def name : Scoping → String
  | dynamic => "dynamic"
  | lexical => "lexical"

def ofName? (name : String) : Option Scoping :=
  if name = "dynamic" then some .dynamic else if name = "lexical" then some .lexical else none

end Scoping

structure Frame where
  bindings : Bindings := []
  outer : Option FrameId := none
  /-- The scoping of all chains that end in this frame. -/
  scoping : Option Scoping := none

structure Store where
  frames : Array Frame
  older : ∀ (id o : Nat) (f : Frame), frames[id]? = some f → f.outer = some o → o < id

namespace Store

def empty : Store := ⟨#[], by simp⟩

instance : Inhabited Store := ⟨empty⟩

def frame? (s : Store) (id : FrameId) : Option Frame := s.frames[id]?

def bindings (s : Store) (id : FrameId) : Bindings := (s.frame? id).elim [] (·.bindings)

def alloc (s : Store) (f : Frame) : FrameId × Store :=
  (s.frames.size, {
    frames := s.frames.push { f with outer := f.outer.filter (· < s.frames.size) }
    older := by
      intro id o g hg ho
      rw [Array.getElem?_push] at hg
      split at hg
      · next h =>
        cases hg
        rw [Option.filter_eq_some_iff, decide_eq_true_eq] at ho
        exact h ▸ ho.2
      · exact s.older id o g hg ho })

def update (s : Store) (id : FrameId) (change : Bindings → Bindings) : Store where
  frames := s.frames.modify id fun f => { f with bindings := change f.bindings }
  older := by
    intro i o g hg ho
    rw [Array.getElem?_modify] at hg
    split at hg
    · rw [Option.map_eq_some_iff] at hg
      obtain ⟨f, hf, rfl⟩ := hg
      exact s.older i o f hf ho
    · exact s.older i o g hg ho

def chainWithin (s : Store) : Nat → FrameId → List FrameId
  | 0, _ => []
  | n + 1, id =>
    match s.frame? id with
    | none => []
    | some f =>
      id :: (match f.outer with
        | none => []
        | some o => chainWithin s n o)

def chain (s : Store) (id : FrameId) : List FrameId := s.chainWithin (id + 1) id

def root (s : Store) (id : FrameId) : FrameId := (s.chain id).getLast?.getD id

def scoping (s : Store) (id : FrameId) : Scoping :=
  ((s.frame? (s.root id)).bind (·.scoping)).getD .dynamic

def get? (s : Store) (id : FrameId) (name : String) : Option Value :=
  (s.chain id).findSome? fun i => (s.bindings i).find? name

def put (s : Store) (id : FrameId) (name : String) (v : Value) : Store := s.update id (·.put name v)

def define (s : Store) (id : FrameId) (name : String) (v : Value) : Store := s.put (s.root id) name v

def nameOf? (s : Store) (id : FrameId) (v : Value) : Option String :=
  (s.chain id).findSome? fun i => (s.bindings i).nameOf? v

def builtinName? (s : Store) (id : FrameId) (op : Builtin) : Option String :=
  s.nameOf? id (.ofBuiltin op)

def copy (s : Store) (id : FrameId) : FrameId × Store := s.alloc { bindings := s.bindings id }

def withGlobal (s : Store) (scoping : Option Scoping) : FrameId × Store :=
  s.alloc { bindings := Builtin.all.map fun op => (op.name, .ofBuiltin op), scoping }

end Store

end CurriedLisp
