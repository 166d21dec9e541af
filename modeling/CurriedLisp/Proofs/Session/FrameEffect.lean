import CurriedLisp.Proofs.Session.Reachable

/-! The frames that an evaluation can write to. All that is asked of the state is that the values bound in
the frames of a session have captured frames of the same session only. -/

namespace CurriedLisp

open Eval Session

def Value.CapturesWithin (s : Store) (g : FrameId) (v : Value) : Prop :=
  v.Every fun w => ∀ c, w.captured = some c → s.EndsIn c g

/-- The frames whose chains end in `g` are a session of their own. -/
def Store.IsSession (s : Store) (g : FrameId) : Prop :=
  ∀ id, s.EndsIn id g → ∀ b ∈ s.bindings id, b.2.CapturesWithin s g

def Discipline.free (scoping : Scoping) : Discipline where
  scoping := scoping
  alone := False
  part _ := True
  bound _ := True
  part_of_kind _ _ _ := trivial
  part_created _ _ _ := trivial
  part_applied _ _ _ _ _ _ _ _ := trivial
  bound_own _ _ _ _ _ _ _ := trivial
  bound_of_settled _ _ := trivial

variable {scoping : Scoping} {s : Store} {g : FrameId} {v : Value}

lemma free_fits_iff : (Discipline.free scoping).Fits g s v ↔ v.CapturesWithin s g := by
  simp [Discipline.Fits, Value.CapturesWithin, Discipline.free]

lemma free_good_iff : (Discipline.free scoping).Good g s v ↔ v.CapturesWithin s g :=
  (and_iff_right trivial).trans free_fits_iff

lemma free_holds_iff : (Discipline.free scoping).Holds g s ↔
    ((s.frame? g).bind (·.scoping)).getD .dynamic = scoping ∧ s.IsSession g := by
  constructor
  · intro h
    exact ⟨h.scoping, fun id hid b hb => free_good_iff.mp (h.good id hid b hb)⟩
  · rintro ⟨hsc, hs⟩
    exact ⟨hsc, fun id hid b hb => free_good_iff.mpr (hs id hid b hb), False.elim⟩

theorem session_isSession (scoping : Scoping) :
    (∀ s, Reachable scoping s → s.store.IsSession globalFrame) ∧
    ∀ files room m, Evaluates scoping files room m → m.state.store.IsSession globalFrame ∧
      m.state.store.EndsIn m.env globalFrame ∧ m.value.CapturesWithin m.state.store globalFrame := by
  constructor
  · intro s hs
    have hd : Disciplined (.free scoping) s.store := Reachable.disciplined (.free scoping) hs
    exact (free_holds_iff.mp hd.holds).2
  · intro files room m hm
    have hmeets : m.Meets (.free scoping) globalFrame := Evaluates.meets (.free scoping) hm
    exact ⟨(free_holds_iff.mp hmeets.holds).2, hmeets.endsIn, free_fits_iff.mp hmeets.fits⟩

theorem evaluate_writes {s : State} {g env : FrameId} {v : Value} (files : Files) (room : Nat)
    (hs : s.store.IsSession g) (he : s.store.EndsIn env g) (hv : v.CapturesWithin s.store g) :
    (∀ id f, s.store.frame? id = some f → id ≠ env → id ≠ g →
      (final (evaluate files room env v) s).store.frame? id = some f) ∧
    (∀ id f, s.store.frame? id = some f →
      ∃ f', (final (evaluate files room env v) s).store.frame? id = some f' ∧ f'.outer = f.outer ∧
        f'.scoping = f.scoping) ∧
    (final (evaluate files room env v) s).store.IsSession g ∧
    ∀ formals body own captured args,
      (Value.lambda formals body own captured).CapturesWithin s.store g →
      (∀ a ∈ args, a.CapturesWithin s.store g) →
      ∀ id f, s.store.frame? id = some f → id ≠ g →
        (final (Evaluator.applyLambda (fun less => evaluate files (room - less)) env formals body own
          captured args) s).store.frame? id = some f := by
  have hh := free_holds_iff.mpr ⟨rfl, hs⟩
  have hrun := evaluate_sound _ g files room s env v hh he (free_fits_iff.mpr hv)
  refine ⟨?_, ?_, (free_holds_iff.mp hrun.holds).2, ?_⟩
  · intro id f hf hne hng
    exact hrun.grown.unchanged hf (by simp [hne, hng])
  · intro id f hf
    obtain ⟨f', hf', ho, hsc, -⟩ := hrun.grown.old id f hf
    exact ⟨f', hf', ho, hsc⟩
  · intro formals body own captured args hl ha id f hf hng
    have happly := Evaluator.applyLambda_preserves (fun less => evaluate_sound _ g files (room - less)) hh he
      (free_fits_iff.mpr hl) fun a hm => free_good_iff.mpr (ha a hm)
    exact happly.grown.unchanged hf hng

def called : State :=
  final (Input.run sampleWorld (.eval "((\\ \x7bx\x7d \x7bx\x7d) \"a\")"))
    (final (start sampleWorld (some .lexical) false) {})

lemma reachable_called : Reachable .lexical called :=
  .input _ _ (.start _ _ _ _ rfl (by decide +kernel))

theorem evaluate_writes_sample :
    (called.store.frame? 1).map (·.outer) = some (some globalFrame) ∧
    (called.store.bindings 1).map (fun b => (b.1, b.2.displayAnonymous)) = [("x", "\"a\"")] ∧
    (final (evaluate .none 20 globalFrame (.sexpr [.symbol "def", .qexpr [.symbol "x"], .string "b"]))
      called).store.frame? 1 = called.store.frame? 1 := by
  have hsession := (session_isSession .lexical).1 called reachable_called
  have hglobal := (reachable_called.disciplined (.free .lexical)).global
  have hplain : (Value.sexpr [.symbol "def", .qexpr [.symbol "x"], .string "b"]).Plain := by
    simp [Value.plain_list, Value.plain_symbol, Value.plain_string]
  have hfits : (Discipline.free .lexical).Fits globalFrame called.store _ := Discipline.fits_of_plain hplain
  obtain ⟨hother, -⟩ := evaluate_writes (s := called) .none 20 hsession hglobal (free_fits_iff.mp hfits)
  have houter : (called.store.frame? 1).map (·.outer) = some (some globalFrame) := by decide +kernel
  obtain ⟨f, hf, -⟩ := Option.map_eq_some_iff.mp houter
  exact ⟨houter, by decide +kernel, (hother 1 f hf (by decide) (by decide)).trans hf.symm⟩

end CurriedLisp
