import CurriedLisp.Proofs.Eval.Soundness
import CurriedLisp.Proofs.Eval.Watch
import CurriedLisp.Proofs.Session.Loading

/-! Evaluation in twin stores. Wherever evaluation in the first store is not stopped by the watch, evaluation in
the second one goes through the same steps, with the same frames, and comes to the same values but for what
functions have captured. The induction is on the room. -/

namespace CurriedLisp

open Eval

structure State.Twins (g : FrameId) (d l : State) : Prop where
  store : Store.Twins g d.store l.store
  marks : d.marks = l.marks
  effects : d.effects = l.effects

def InStep {α β : Type} (g : FrameId) (R : Store → Store → α → β → Prop) (d l : State) (x : Eval α)
    (y : Eval β) : Prop :=
  ∀ a, result x d = .ok a → ∃ b, result y l = .ok b ∧ R (final x d).store (final y l).store a b ∧
    State.Twins g (final x d) (final y l) ∧ d.store.frames.size ≤ (final x d).store.frames.size

namespace InStep

variable {α β α' β' : Type} {g : FrameId} {R : Store → Store → α → β → Prop} {R' : Store → Store → α' → β' → Prop}
  {d l : State} {x : Eval α} {y : Eval β}

lemma pure {a : α} {b : β} (h : d.Twins g l) (hab : R d.store l.store a b) :
    InStep g R d l (Pure.pure a) (Pure.pure b) := by
  rintro _ ⟨⟩
  exact ⟨b, rfl, hab, h, le_rfl⟩

lemma throw (e : Fault) (y : Eval β) : InStep g R d l (MonadExcept.throw e) y := by
  rintro _ ⟨⟩

lemma throw_bind (e : Fault) (f : α' → Eval α) (y : Eval β) :
    InStep g R d l ((MonadExcept.throw e : Eval α') >>= f) y := by
  rintro _ ⟨⟩

lemma bind {f : α → Eval α'} {k : β → Eval β'} (hx : InStep g R d l x y)
    (hf : ∀ a b d' l', d'.Twins g l' → d.store.frames.size ≤ d'.store.frames.size → R d'.store l'.store a b →
      InStep g R' d' l' (f a) (k b)) :
    InStep g R' d l (x >>= f) (y >>= k) := by
  intro c hc
  obtain ⟨a, ha, hc⟩ := bind_eq_ok_iff.mp hc
  obtain ⟨b, hb, hab, htwins, hsize⟩ := hx a ha
  obtain ⟨e, he, hce, htwins', hsize'⟩ := hf a b _ _ htwins hsize hab c hc
  rw [(bind_of_ok ha).2, (bind_of_ok hb).2, (bind_of_ok hb).1]
  exact ⟨e, he, hce, htwins', hsize.trans hsize'⟩

lemma record (h : d.Twins g l) (e : Event) :
    InStep g (fun _ _ _ _ => True) d l (Eval.record e) (Eval.record e) := by
  rintro _ ⟨⟩
  refine ⟨(), rfl, trivial, ⟨h.store, h.marks, ?_⟩, le_rfl⟩
  rw [Follows.effects_record, Follows.effects_record, h.effects]

lemma log (h : d.Twins g l) (q r : LogRecord) :
    InStep g (fun _ _ _ _ => True) d l (Eval.log q) (Eval.log r) := by
  rintro _ ⟨⟩
  have heffects := ((Follows.alike_log d q).effects.trans h.effects).trans (Follows.alike_log l r).effects.symm
  exact ⟨(), rfl, trivial, ⟨h.store, h.marks, heffects⟩, le_rfl⟩

lemma store_bind {f : Store → Eval α} {k : Store → Eval β} (h : InStep g R d l (f d.store) (k l.store)) :
    InStep g R d l (Eval.store >>= f) (Eval.store >>= k) := h

lemma changeStore {change change' : Store → Store} (h : d.Twins g l)
    (htwins : Store.Twins g (change d.store) (change' l.store))
    (hsize : d.store.frames.size ≤ (change d.store).frames.size) :
    InStep g (fun _ _ _ _ => True) d l (Eval.changeStore change) (Eval.changeStore change') := by
  rintro _ ⟨⟩
  exact ⟨(), rfl, trivial, ⟨htwins, h.marks, h.effects⟩, hsize⟩

lemma newFrame {own : Bindings} {env : FrameId} (h : d.Twins g l) (hown : own.recapture none = own)
    (he : env < d.store.frames.size) :
    InStep g (fun s _ a b => a = b ∧ a < s.frames.size) d l
      (Eval.newFrame { bindings := own, outer := some env })
      (Eval.newFrame { bindings := own.recapture (some g), outer := some g }) := by
  rintro _ ⟨⟩
  have hsize : (d.store.alloc { bindings := own, outer := some env }).2.frames.size = d.store.frames.size + 1 := by
    simp [Store.alloc]
  refine ⟨_, rfl, ⟨h.store.size.symm, ?_⟩, ⟨h.store.alloc hown he, h.marks, h.effects⟩, ?_⟩
  · exact (Nat.lt_succ_self _).trans_eq hsize.symm
  · exact (Nat.le_succ _).trans_eq hsize.symm

lemma newNumber (h : d.Twins g l) (n : Number) :
    InStep g (fun _ _ v w => v = w ∧ ∃ m, v = .number m) d l (Eval.newNumber n) (Eval.newNumber n) := by
  have hrun : ∀ s : State, result (Eval.newNumber n) s = .ok (.number (if n.isNan then n.marked s.marks else n)) ∧
      final (Eval.newNumber n) s = { s with marks := if n.isNan then s.marks + 1 else s.marks } := by
    intro s
    obtain ⟨hr, hf⟩ := modifyGet_run (s := s) fun s : State =>
      if n.isNan then (Value.number (n.marked s.marks), { s with marks := s.marks + 1 }) else (.number n, s)
    unfold Eval.newNumber
    rw [hr, hf]
    cases n.isNan <;> exact ⟨rfl, rfl⟩
  intro v hv
  obtain rfl := Except.ok.inj ((hrun d).1.symm.trans hv)
  rw [(hrun d).2, (hrun l).2, (hrun l).1, h.marks]
  exact ⟨_, rfl, ⟨rfl, _, rfl⟩, ⟨h.store, rfl, h.effects⟩, le_rfl⟩

lemma guard {p : Store → Bool} (h : p d.store = true → InStep g R d l x y) :
    InStep g R d l (Watched.guard p x) y := by
  intro a ha
  obtain ⟨hp, hx, hfinal⟩ := Watched.guard_ok ha
  rw [hfinal]
  exact h hp a hx

end InStep

def Value.Twins (g : FrameId) (v w : Value) : Prop := v.recapture none = v ∧ w = v.recapture (some g)

def Evaluator.Mirrors (g : FrameId) (self other : Evaluator) : Prop :=
  ∀ d l env v, State.Twins g d l → env < d.store.frames.size → v.recapture none = v →
    InStep g (fun _ _ => Value.Twins g) d l (self env v) (other env (v.recapture (some g)))

variable {g : FrameId} {d l : State} {env : FrameId}

lemma Value.twins_error (message : String) : (Value.error message).Twins g (.error message) := ⟨rfl, rfl⟩

lemma Value.twins_nothing : Value.nothing.Twins g .nothing := by simp [Twins]

namespace Evaluator

variable {files : Files} {room : Nat} {self other : Evaluator}

section

variable (h : self.Mirrors g other)
include h

lemma Mirrors.plain {v : Value} (hs : d.Twins g l) (he : env < d.store.frames.size) (hv : v.Plain) :
    InStep g (fun _ _ => Value.Twins g) d l (self env v) (other env v) := by
  have hrun := h d l env v hs he (Value.recapture_plain v hv)
  rwa [Value.recapture_plain v hv] at hrun

lemma Mirrors.items {program : List Value} (hs : d.Twins g l) (he : env < d.store.frames.size)
    (hp : program.map (Value.recapture none) = program) :
    InStep g (fun _ _ r r' => r.map (List.map (Value.recapture none)) = r ∧
        r' = r.map (List.map (Value.recapture (some g)))) d l
      (self.items env program) (other.items env (program.map (Value.recapture (some g)))) := by
  induction program generalizing d l with
  | nil => exact .pure hs ⟨rfl, rfl⟩
  | cons item rest ih =>
    obtain ⟨hitem, hrest⟩ := List.cons.inj hp
    refine (h d l env item hs he hitem).bind fun v w d' l' hs' hsize hvw => ?_
    obtain ⟨hv, rfl⟩ := hvw
    have hmap : InStep g (fun _ _ r r' => r.map (List.map (Value.recapture none)) = r ∧
        r' = r.map (List.map (Value.recapture (some g)))) d' l'
        (self.items env rest >>= fun r => Pure.pure (r.map (v :: ·)))
        (other.items env (rest.map (Value.recapture (some g))) >>= fun r =>
          Pure.pure (r.map (v.recapture (some g) :: ·))) := by
      refine (ih hs' (he.trans_le hsize) hrest).bind fun r r' d' l' hs' _ hr => .pure hs' ?_
      obtain ⟨hr, rfl⟩ := hr
      cases r with
      | error message => exact ⟨rfl, rfl⟩
      | ok vs => exact ⟨congrArg Except.ok (congrArg₂ List.cons hv (Except.ok.inj hr)), rfl⟩
    cases v with
    | error message => exact .pure hs' ⟨rfl, rfl⟩
    | list b items => rwa [Value.recapture_list] at hmap ⊢
    | lambda => rwa [Value.recapture_lambda] at hmap ⊢
    | _ => exact hmap

lemma Mirrors.forms {sink : Sink} {program : List Value} (hs : d.Twins g l) (he : env < d.store.frames.size)
    (hp : ∀ v ∈ program, v.Plain) :
    InStep g (fun _ _ _ _ => True) d l (self.forms env sink program) (other.forms env sink program) := by
  induction program generalizing d l with
  | nil => exact .pure hs trivial
  | cons form rest ih =>
    have hrest : ∀ v ∈ rest, v.Plain := fun v hv => hp v (List.mem_cons_of_mem _ hv)
    refine (h.plain hs he (hp form List.mem_cons_self)).bind fun v w d' l' hs' hsize hvw => ?_
    obtain ⟨-, rfl⟩ := hvw
    have he' := he.trans_le hsize
    rw [Value.isError_recapture]
    cases hv : v.isError with
    | false =>
      simp only [Bool.false_eq_true, reduceIte]
      exact ih hs' he' hrest
    | true =>
      simp only [reduceIte, display_eq_of_isError hv, Value.display_recapture]
      refine .store_bind ((InStep.record hs' _).bind fun _ _ d' l' hs' hsize _ => ?_)
      exact ih hs' (he'.trans_le hsize) hrest

lemma Mirrors.loadForms {sink : Sink} {name : String} {program : List Value} (hs : d.Twins g l)
    (he : env < d.store.frames.size) (hp : ∀ v ∈ program, v.Plain) :
    InStep g (fun _ _ => Value.Twins g) d l (self.loadForms env sink name program)
      (other.loadForms env sink name program) := by
  refine (InStep.log hs _ _).bind fun _ _ d' l' hs' hsize _ => ?_
  refine (h.forms hs' (he.trans_le hsize) hp).bind fun _ _ d' l' hs' _ _ => ?_
  exact .pure hs' Value.twins_nothing

lemma Mirrors.loadSource {sink : Sink} {name source : String} (hs : d.Twins g l)
    (he : env < d.store.frames.size) :
    InStep g (fun _ _ => Value.Twins g) d l (self.loadSource room env sink name source)
      (other.loadSource room env sink name source) := by
  unfold Evaluator.loadSource
  split
  · next program hp => exact h.loadForms hs he (plain_of_readProgram hp)
  · exact .pure hs (Value.twins_error _)
  · exact .throw _ _

lemma Mirrors.loadFile {sink : Sink} {name path : String} (hs : d.Twins g l)
    (he : env < d.store.frames.size) :
    InStep g (fun _ _ => Value.Twins g) d l (self.loadFile files room env sink name path)
      (other.loadFile files room env sink name path) := by
  unfold Evaluator.loadFile
  cases Path.hasNul path with
  | true =>
    simp only [reduceIte]
    exact .throw_bind _ _ _
  | false =>
    simp only [Bool.false_eq_true, reduceIte]
    refine (InStep.record hs _).bind fun _ _ d' l' hs' hsize _ => ?_
    split
    · exact .pure hs' (Value.twins_error _)
    · split
      · exact .throw _ _
      · exact h.loadSource hs' (he.trans_le hsize)

end

section Step

variable {below above : Nat → Evaluator} (hb : ∀ less, (below less).Mirrors g (above less))
include hb

lemma perform_inStep {a : Action} (hs : d.Twins g l) (he : env < d.store.frames.size)
    (ha : a.recapture none = a) :
    InStep g (fun _ _ => Value.Twins g) d l (perform files room below env a)
      (perform files room above env (a.recapture (some g))) := by
  cases a with
  | give v => exact .pure hs ⟨Action.give.inj ha, rfl⟩
  | compute n =>
    intro v hv
    obtain ⟨w, hw, ⟨rfl, m, rfl⟩, hlast⟩ := InStep.newNumber hs n v hv
    exact ⟨_, hw, ⟨rfl, rfl⟩, hlast⟩
  | bind target new =>
    have hnew : Bindings.recapture none new = new := (Action.bind.inj ha).2
    refine InStep.bind (R := fun _ _ _ _ => True) ?_ fun _ _ d' l' hs' _ _ => .pure hs' Value.twins_nothing
    have hsame : ∀ id, d.store.frames.size ≤ (d.store.update id (·.putAll new)).frames.size := by
      simp [Store.update]
    cases target with
    | caller => exact .changeStore hs (hs.store.update hnew) (hsame env)
    | global =>
      refine .changeStore hs ?_ (hsame (d.store.root env))
      rw [hs.store.root_eq he]
      exact hs.store.update hnew
  | print line =>
    exact (InStep.record hs _).bind fun _ _ d' l' hs' _ _ => .pure hs' Value.twins_nothing
  | call items =>
    have hitems : (Value.sexpr items).recapture none = .sexpr items := by
      rw [Value.recapture_list]
      exact congrArg Value.sexpr (Action.call.inj ha)
    have hrun := hb Part.operand.levels d l env _ hs he hitems
    rwa [Value.recapture_list] at hrun
  | load path => exact (hb _).loadFile hs he

lemma applyBuiltin_inStep {op : Builtin} {args : List Value} (hs : d.Twins g l)
    (he : env < d.store.frames.size) (hargs : args.map (Value.recapture none) = args)
    (hnear : d.store.callsNear env args op = true) :
    InStep g (fun _ _ => Value.Twins g) d l (applyBuiltin files room below env op args)
      (applyBuiltin files room above env op (args.map (Value.recapture (some g)))) := by
  refine .store_bind ?_
  rw [hs.store.action_eq he hnear]
  cases ha : op.action d.store env args with
  | error complaint => exact .pure hs (Value.twins_error _)
  | ok a => exact perform_inStep hb hs he (hs.store.action_bare he hargs ha)

lemma applyLambda_inStep {formals : List String} {body args : List Value} {own : Bindings}
    {captured : Option FrameId} (hs : d.Twins g l) (he : env < d.store.frames.size)
    (hf : (Value.lambda formals body own captured).recapture none = .lambda formals body own captured)
    (hargs : args.map (Value.recapture none) = args) :
    InStep g (fun _ _ => Value.Twins g) d l (applyLambda below env formals body own captured args)
      (applyLambda above env formals (body.map (Value.recapture (some g))) (own.recapture (some g)) (some g)
        (args.map (Value.recapture (some g)))) := by
  rw [Value.recapture_lambda] at hf
  obtain ⟨-, hbody, hown, rfl⟩ := Value.lambda.inj hf
  have hbound : (bindFormals own formals args).recapture none = bindFormals own formals args := by
    rw [← bindFormals_recapture, hown, hargs]
  unfold Evaluator.applyLambda
  rw [bindFormals_recapture]
  cases hbind : bindFormals own formals args with
  | refused complaint => exact .pure hs (Value.twins_error _)
  | waiting remaining own' =>
    rw [hbind] at hbound
    refine (InStep.log hs _ _).bind fun _ _ d' l' hs' _ _ => .pure hs' ?_
    have hown' : own'.recapture none = own' := (Bound.waiting.inj hbound).2
    exact ⟨by rw [Value.recapture_lambda, hbody, hown'], (Value.recapture_lambda ..).symm⟩
  | complete own' =>
    rw [hbind] at hbound
    -- Twin stores have equally many frames, so that the new frame has the same number in both.
    refine (InStep.newFrame hs (Bound.complete.inj hbound) he).bind fun frame _ d' l' hs' _ hframe => ?_
    obtain ⟨rfl, hlt⟩ := hframe
    have hitems : (Value.sexpr body).recapture none = .sexpr body := by rw [Value.recapture_list, hbody]
    have hrun := hb Part.body.levels d' l' frame _ hs' hlt hitems
    rwa [Value.recapture_list] at hrun

lemma applyValues_inStep {values : List Value} (hs : d.Twins g l) (he : env < d.store.frames.size)
    (hv : values.map (Value.recapture none) = values) :
    InStep g (fun _ _ => Value.Twins g) d l (Watched.applyValues files room below env values)
      (applyValues files room above env (values.map (Value.recapture (some g)))) := by
  rcases values with _ | ⟨head, _ | ⟨a, args⟩⟩
  · exact .pure hs Value.twins_nothing
  · have hpure : InStep g (fun _ _ => Value.Twins g) d l (Pure.pure head)
        (Pure.pure (head.recapture (some g))) := .pure hs ⟨(List.cons.inj hv).1, rfl⟩
    cases head <;> exact hpure
  obtain ⟨hhead, hargs⟩ := List.cons.inj hv
  cases head with
  | builtin op name =>
    exact .guard fun hnear => applyBuiltin_inStep hb hs he hargs hnear
  | lambda formals body own captured =>
    rw [List.map_cons, Value.recapture_lambda]
    exact applyLambda_inStep hb hs he hhead hargs
  | list b items =>
    rw [List.map_cons, Value.recapture_list]
    exact .pure hs (Value.twins_error _)
  | _ => exact .pure hs (Value.twins_error _)

lemma step_mirrors : Mirrors g (Watched.step files room below) (step files room above) := by
  intro d l env v hs he hv
  cases v with
  | symbol name =>
    refine .guard fun hnear => .store_bind (.pure hs ?_)
    rw [hs.store.get?_eq he hnear]
    cases hget : d.store.get? env name with
    | none => exact Value.twins_error _
    | some w => exact ⟨hs.store.recapture_get? hget, rfl⟩
  | list b items =>
    have hitems : items.map (Value.recapture none) = items := by
      rw [Value.recapture_list] at hv
      exact (Value.list.inj hv).2
    rw [Value.recapture_list]
    cases b with
    | curly => exact .pure hs ⟨hv, (Value.recapture_list ..).symm⟩
    | round =>
      have hcall : step files room above env (.sexpr (items.map (Value.recapture (some g)))) =
          call files room above env (items.map (Value.recapture (some g))) := rfl
      rw [hcall, call_eq]
      refine ((hb _).items hs he hitems).bind fun r r' d' l' hs' hsize hr => ?_
      obtain ⟨hr, rfl⟩ := hr
      cases r with
      | error message => exact .pure hs' (Value.twins_error _)
      | ok values => exact applyValues_inStep hb hs' (he.trans_le hsize) (Except.ok.inj hr)
  | lambda => exact .pure hs ⟨hv, rfl⟩
  | _ => exact .pure hs ⟨rfl, rfl⟩

end Step

end Evaluator

lemma Watched.evaluators_mirrors (g : FrameId) (files : Files) (room less : Nat) :
    (evaluators files room less).Mirrors g (CurriedLisp.evaluators files room less) := by
  induction room generalizing less with
  | zero => exact fun d l env v _ _ _ => .throw _ _
  | succ room ih =>
    cases less with
    | zero => exact Evaluator.step_mirrors ih
    | succ less => exact ih less

end CurriedLisp
