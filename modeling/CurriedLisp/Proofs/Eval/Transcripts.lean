import CurriedLisp.Proofs.Eval.Composition

/-! What runs add to the transcript. Nothing that is evaluated looks at the transcript, so a run comes to the
same whatever it holds, and adds the same events to it. -/

namespace CurriedLisp

open Eval

def State.retold (s : State) (told : List Event) : State := { s with transcript := told.toArray }

def State.told (s : State) : List Event := s.transcript.toList

namespace State

@[simp] lemma told_retold (s : State) (told : List Event) : (s.retold told).told = told := rfl

@[simp] lemma retold_told (s : State) : s.retold s.told = s := rfl

@[simp] lemma retold_retold (s : State) (told more : List Event) :
    (s.retold told).retold more = s.retold more := rfl

@[simp] lemma store_retold (s : State) (told : List Event) : (s.retold told).store = s.store := rfl

lemma ext_told {s t : State} (hs : s.store = t.store) (hm : s.marks = t.marks) (ht : s.told = t.told) :
    s = t := by
  have htranscript : s.transcript = t.transcript := Array.toList_inj.mp ht
  cases s
  cases t
  simp_all

end State

lemma final_record (e : Event) (s : State) : final (Eval.record e) s = s.retold (s.told ++ [e]) := by
  have hpush : (final (Eval.record e) s).told = s.told ++ [e] := Array.toList_push
  exact State.ext_told rfl rfl hpush

lemma newNumber_told (n : Number) (s : State) : (final (Eval.newNumber n) s).told = s.told := by
  obtain ⟨-, hfinal⟩ := modifyGet_run (s := s) fun s : State =>
    if n.isNan then (Value.number (n.marked s.marks), { s with marks := s.marks + 1 }) else (.number n, s)
  unfold Eval.newNumber
  rw [hfinal]
  cases n.isNan <;> rfl

/-- From every state the run adds certain events to the transcript, whatever that is, and depends on it in
nothing else. -/
def Blind {α : Type} (x : Eval α) : Prop :=
  ∀ s : State, ∃ events, ∀ told, result x (s.retold told) = result x s ∧
    final x (s.retold told) = (final x s).retold (told ++ events)

namespace Blind

variable {α β : Type} {x : Eval α} {f : α → Eval β}

lemma bind (hx : Blind x) (hf : ∀ a, Blind (f a)) : Blind (x >>= f) := by
  intro s
  obtain ⟨events, he⟩ := hx s
  cases hr : result x s with
  | error e =>
    refine ⟨events, fun told => ?_⟩
    obtain ⟨hresult, hfinal⟩ := bind_of_error (f := f) ((he told).1.trans hr)
    obtain ⟨hresult', hfinal'⟩ := bind_of_error (f := f) hr
    rw [hresult, hfinal, hresult', hfinal']
    exact ⟨rfl, (he told).2⟩
  | ok a =>
    obtain ⟨more, hm⟩ := hf a (final x s)
    refine ⟨events ++ more, fun told => ?_⟩
    obtain ⟨hresult, hfinal⟩ := bind_of_ok (f := f) ((he told).1.trans hr)
    obtain ⟨hresult', hfinal'⟩ := bind_of_ok (f := f) hr
    rw [hresult, hfinal, hresult', hfinal', (he told).2, ← List.append_assoc]
    exact hm (told ++ events)

lemma record (e : Event) : Blind (Eval.record e) := by
  refine fun s => ⟨[e], fun told => ⟨rfl, ?_⟩⟩
  rw [final_record, final_record]
  rfl

lemma newNumber (n : Number) : Blind (Eval.newNumber n) := by
  refine fun s => ⟨[], fun told => ?_⟩
  rw [List.append_nil]
  unfold Eval.newNumber
  simp only [modifyGet_run, State.retold]
  cases n.isNan <;> exact ⟨rfl, rfl⟩

lemma silent (h : ∀ (s : State) told, result x (s.retold told) = result x s ∧
    final x (s.retold told) = (final x s).retold told) : Blind x :=
  fun s => ⟨[], fun told => by simpa using h s told⟩

lemma composable (files : Files) : Composable files Blind where
  pure _ := silent fun _ _ => ⟨rfl, rfl⟩
  bind := bind
  throw _ := silent fun _ _ => ⟨rfl, rfl⟩
  record := record
  store := silent fun _ _ => ⟨rfl, rfl⟩
  changeStore _ := silent fun _ _ => ⟨rfl, rfl⟩
  newFrame _ := silent fun _ _ => ⟨rfl, rfl⟩
  newNumber := newNumber

lemma exists_events (hx : Blind x) (s : State) : ∃ events, (final x s).told = s.told ++ events ∧
    ∀ told, result x (s.retold told) = result x s ∧
      final x (s.retold told) = (final x s).retold (told ++ events) := by
  obtain ⟨events, he⟩ := hx s
  refine ⟨events, ?_, he⟩
  have hself := (he s.told).2
  rw [State.retold_told] at hself
  rw [hself, State.told_retold]

end Blind

theorem evaluate_blind (files : Files) (room : Nat) (env : FrameId) (v : Value) :
    Blind (evaluate files room env v) :=
  (Blind.composable files).evaluate room env v

end CurriedLisp
