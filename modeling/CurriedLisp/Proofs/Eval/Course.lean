import CurriedLisp.Proofs.Eval.BuiltinEffects
import CurriedLisp.Proofs.Eval.Equations
import CurriedLisp.Proofs.Eval.Room

/-! Evaluations that leave the frames there are alone. What they come to may depend on the state, of which no more
is asked than that it follows another one in some way; a call is put together from its items and from what
their values come to. -/

namespace CurriedLisp

open Eval Evaluator

namespace State

structure Extends (s t : State) : Prop where
  frames : ∀ id f, s.store.frame? id = some f → t.store.frame? id = some f
  marks : t.marks = s.marks
  transcript : t.transcript = s.transcript

def framed (s : State) (own : Bindings) (outer : FrameId) : State :=
  { s with store := (s.store.alloc { bindings := own, outer := some outer }).2 }

def writings (s : State) : List Event :=
  s.effects.filter fun
    | .wrote _ _ => true
    | _ => false

structure Spares (s t : State) : Prop where
  within : s.store.Within t.store
  writings : t.writings = s.writings

variable {s t u : State} {own : Bindings} {outer env : FrameId} {name : String} {v : Value}

lemma Extends.refl (s : State) : s.Extends s := ⟨fun _ _ hf => hf, rfl, rfl⟩

lemma Extends.trans (h : s.Extends t) (hu : t.Extends u) : s.Extends u where
  frames id f hf := hu.frames id f (h.frames id f hf)
  marks := hu.marks.trans h.marks
  transcript := hu.transcript.trans h.transcript

lemma Extends.effects (h : s.Extends t) : t.effects = s.effects := by
  rw [State.effects, h.transcript, State.effects]

lemma Extends.get? (h : s.Extends t) (hv : s.store.get? env name = some v) : t.store.get? env name = some v :=
  Store.Within.get? h.frames hv

lemma isSome_of_get? (h : s.store.get? env name = some v) : (s.store.frame? env).isSome := by
  cases hf : s.store.frame? env with
  | none => simp [Store.get?, Store.chain_of_frame?_none _ hf] at h
  | some f => rfl

lemma extends_framed (s : State) (own : Bindings) (outer : FrameId) : s.Extends (s.framed own outer) where
  frames := s.store.within_alloc _
  marks := rfl
  transcript := rfl

lemma frame?_framed (own : Bindings) (ho : (s.store.frame? outer).isSome) :
    (s.framed own outer).store.frame? s.store.frames.size = some { bindings := own, outer := some outer } := by
  have hfilter : (some outer).filter (· < s.store.frames.size) = some outer := by
    simpa using Store.frame?_isSome_iff.mp ho
  exact (s.store.frame?_alloc_new _).trans (by rw [hfilter])

lemma Spares.of_extends (h : s.Extends t) : s.Spares t where
  within := h.frames
  writings := by rw [State.writings, h.effects, State.writings]

lemma Spares.trans (h : s.Spares t) (hu : t.Spares u) : s.Spares u where
  within := h.within.trans hu.within
  writings := hu.writings.trans h.writings

lemma Spares.of_alike (h : s.Spares t) (hu : u.Alike t) : s.Spares u where
  within := hu.store ▸ h.within
  writings := by rw [State.writings, hu.effects, ← State.writings, h.writings]

end State

/-- How states may follow one another: new frames come along, and those there are stay as they are. A computation may
have a bound on the levels for which it needs room; where it has none, log records must not matter. -/
structure Succession where
  follows : State → State → Prop
  bounded : Bool
  of_extends : ∀ {s t}, s.Extends t → follows s t
  trans : ∀ {s t u}, follows s t → follows t u → follows s u
  within : ∀ {s t}, follows s t → s.store.Within t.store
  of_alike : bounded = false → ∀ {s t u}, follows s t → u.Alike t → follows s u

namespace Succession

abbrev quiet : Succession where
  follows := State.Extends
  bounded := true
  of_extends h := h
  trans := .trans
  within h := h.frames
  of_alike := nofun

abbrev sparing (bounded : Bool) : Succession where
  follows := State.Spares
  bounded := bounded
  of_extends := .of_extends
  trans := .trans
  within h := h.within
  of_alike _ _ _ _ h hu := h.of_alike hu

lemma refl (κ : Succession) (s : State) : κ.follows s s := κ.of_extends (.refl s)

end Succession

def Cut {α : Type} (bounded : Bool) (enough room : Nat) (r : Except Fault α) : Prop :=
  if bounded then room < enough else r = .error .tooDeep

lemma Cut.zero {α : Type} {bounded : Bool} {n : Nat} (hn : 0 < n) :
    Cut bounded n 0 (.error .tooDeep : Except Fault α) := by
  cases bounded with
  | true => exact hn
  | false => rfl

lemma Cut.of {α β : Type} {bounded : Bool} {n m room larger : Nat} {r : Except Fault α} {r' : Except Fault β}
    (h : Cut bounded n room r) (hroom : bounded = true → room < n → larger < m)
    (hr : r = .error .tooDeep → r' = .error .tooDeep) : Cut bounded m larger r' := by
  cases bounded with
  | true => exact hroom rfl h
  | false => exact hr h

/-- In a state and all that follow it, the computation comes to a value with the property `P` unless it is cut off,
and what it leaves follows as well. -/
def Attains {α : Type} (κ : Succession) (enough : Nat) (s : State) (x : Nat → Eval α) (P : α → Prop) : Prop :=
  ∀ t, κ.follows s t → ∀ room,
    (∃ a, result (x room) t = .ok a ∧ P a ∧ κ.follows t (final (x room) t)) ∨
      Cut κ.bounded enough room (result (x room) t)

abbrev Gives (κ : Succession) (files : Files) (enough : Nat) (s : State) (env : FrameId) (e : Value)
    (P : Value → Prop) : Prop :=
  Attains κ enough s (fun room => evaluate files room env e) P

abbrev GivesAll (κ : Succession) (files : Files) (enough : Nat) (s : State) (env : FrameId) (items : List Value)
    (Ps : List (Value → Prop)) : Prop :=
  List.Forall₂ (fun e P => Gives κ files enough s env e fun v => P v ∧ v.isError = false) items Ps

abbrev HaveEach (Ps : List (Value → Prop)) (vs : List Value) : Prop := List.Forall₂ (fun P v => P v) Ps vs

abbrev Takes (κ : Succession) (files : Files) (enough : Nat) (s : State) (env : FrameId) (vs : List Value)
    (P : Value → Prop) : Prop :=
  Attains κ enough s (fun room => evaluateValues files env room vs) P

namespace Attains

variable {α : Type} {κ : Succession} {n m : Nat} {s : State} {x : Nat → Eval α} {P Q : α → Prop}

lemma mono (h : Attains κ n s x P) (hn : κ.bounded = true → n ≤ m) : Attains κ m s x P :=
  fun t ht room => (h t ht room).imp_right fun hcut =>
    hcut.of (fun hb hroom => Nat.lt_of_lt_of_le hroom (hn hb)) id

lemma imp (h : Attains κ n s x P) (hPQ : ∀ a, P a → Q a) : Attains κ n s x Q :=
  fun t ht room => (h t ht room).imp_left fun ⟨a, hresult, ha, hleft⟩ => ⟨a, hresult, hPQ a ha, hleft⟩

end Attains

variable {κ : Succession} {files : Files} {n m enough : Nat} {s t : State} {env : FrameId} {a : Value}
  {items vs args : List Value} {P : Value → Prop} {Ps : List (Value → Prop)}

lemma Gives.pos {e : Value} (h : Gives κ files n s env e P) (hb : κ.bounded = true) : 1 ≤ n := by
  rcases h s (κ.refl s) 0 with ⟨v, hresult, -⟩ | hcut
  · cases hresult
  · rw [hb] at hcut
    exact hcut

lemma Gives.run {e : Value} (h : Gives κ files enough s env e P) (room : Nat) :
    (∃ v t, result (evaluate files room env e) s = .ok v ∧ P v ∧ κ.follows s t ∧
      (final (evaluate files room env e) s).Alike t) ∨
    (κ.bounded = true → room < enough) ∧ result (evaluate files room env e) s = .error .tooDeep := by
  cases hb : κ.bounded with
  | false =>
    rcases h s (κ.refl s) room with ⟨v, hresult, hP, hleft⟩ | hcut
    · exact .inl ⟨v, _, hresult, hP, hleft, .refl _⟩
    · rw [hb] at hcut
      exact .inr ⟨nofun, hcut⟩
  | true =>
    rcases h s (κ.refl s) enough with ⟨v, hresult, hP, hleft⟩ | hcut
    · rcases evaluate_same_or_tooDeep hresult room with ⟨hsame, halike⟩ | ⟨hroom, hcut⟩
      · exact .inl ⟨v, _, hsame, hP, hleft, halike⟩
      · exact .inr ⟨fun _ => hroom, hcut⟩
    · rw [hb] at hcut
      exact absurd hcut (Nat.lt_irrefl enough)

lemma GivesAll.pos {e : Value} (h : GivesAll κ files n s env (e :: items) Ps) (hb : κ.bounded = true) : 1 ≤ n := by
  cases h with
  | cons hv _ => exact Gives.pos hv hb

lemma GivesAll.withValues (h : GivesAll κ files n s env items Ps) (ht : κ.follows s t) (room : Nat) :
    (∃ vs u, HaveEach Ps vs ∧ κ.follows t u ∧
      ∀ k, result ((evaluate files room).withValues env items k) t = result (k vs) u ∧
        final ((evaluate files room).withValues env items k) t = final (k vs) u) ∨
    ∀ k, Cut κ.bounded n room (result ((evaluate files room).withValues env items k) t) := by
  induction h generalizing t with
  | nil => exact .inl ⟨[], t, .nil, κ.refl t, fun k => ⟨rfl, rfl⟩⟩
  | @cons e P items Ps hv _ ih =>
    rcases hv t ht room with ⟨v, hresult, ⟨hP, hne⟩, hleft⟩ | hcut
    · have hfirst : ∀ k, result ((evaluate files room).withValues env (e :: items) k) t =
            result ((evaluate files room).withValues env items fun vs => k (v :: vs))
              (final (evaluate files room env e) t) ∧
          final ((evaluate files room).withValues env (e :: items) k) t =
            final ((evaluate files room).withValues env items fun vs => k (v :: vs))
              (final (evaluate files room env e) t) := by
        intro k
        rw [withValues_cons, (bind_of_ok hresult).1, (bind_of_ok hresult).2, unlessError_eq hne]
        exact ⟨rfl, rfl⟩
      rcases ih (κ.trans ht hleft) with ⟨vs, u, hvs, hu, hrest⟩ | hcut
      · refine .inl ⟨v :: vs, u, .cons hP hvs, κ.trans hleft hu, fun k => ?_⟩
        rw [(hfirst k).1, (hfirst k).2]
        exact hrest _
      · refine .inr fun k => ?_
        rw [(hfirst k).1]
        exact hcut _
    · refine .inr fun k => hcut.of (fun _ => id) fun hdeep => ?_
      rw [withValues_cons]
      exact (bind_of_error hdeep).1

lemma gives_call (h : GivesAll κ files n s env items Ps) (ha : ∀ vs, HaveEach Ps vs → Takes κ files m s env vs P)
    (hn : n + 2 ≤ enough) (hm : m + 1 ≤ enough) : Gives κ files enough s env (.sexpr items) P := by
  intro t ht room
  dsimp only
  cases room with
  | zero => exact .inr (.zero (by omega))
  | succ room =>
    rw [evaluate_sexpr]
    rcases h.withValues ht (room - 1) with ⟨vs, u, hvs, hu, hvalues⟩ | hcut
    · rw [(hvalues _).1, (hvalues _).2]
      rcases ha vs hvs u (κ.trans ht hu) room with ⟨v, hresult, hP, hleft⟩ | hcut
      · exact .inl ⟨v, hresult, hP, κ.trans hu hleft⟩
      · exact .inr (hcut.of (fun _ _ => by omega) id)
    · exact .inr ((hcut _).of (fun _ _ => by omega) id)

lemma takes_builtin {op : Builtin} {action : Action} (ha : ∀ st, op.action st env (a :: args) = .ok action)
    (h : Attains κ n s (fun room => perform files room (fun less => evaluate files (room - less)) env action) P) :
    Takes κ files n s env (.ofBuiltin op :: a :: args) P := by
  intro t ht room
  obtain ⟨hresult, hfinal⟩ := applyBuiltin_of_action files room (fun less => evaluate files (room - less))
    (ha t.store)
  have hrun := h t ht room
  dsimp only at hrun ⊢
  rw [← hresult, ← hfinal] at hrun
  exact hrun

lemma takes_operand {op : Builtin} (ha : ∀ st, op.action st env (a :: args) = .ok (.call items))
    (h : Gives κ files n s env (.sexpr items) P) : Takes κ files (n + 5) s env (.ofBuiltin op :: a :: args) P :=
  takes_builtin ha fun t ht room => (h t ht (room - 5)).imp_right fun hcut => hcut.of (fun _ _ => by omega) id

lemma takes_lambda {formals : List String} {body : List Value} {own own' : Bindings}
    {captured : Option FrameId} (hb : bindFormals own formals (a :: args) = .complete own')
    (h : ∀ t, κ.follows s t →
      Gives κ files n (t.framed own' (captured.getD env)) t.store.frames.size (.sexpr body) P) :
    Takes κ files (n + 3) s env (.lambda formals body own captured :: a :: args) P := by
  intro t ht room
  have happly : evaluateValues files env room (.lambda formals body own captured :: a :: args) =
      Eval.newFrame { bindings := own', outer := some (captured.getD env) } >>= fun frame =>
        evaluate files (room - 3) frame (.sexpr body) := by
    rw [evaluateValues, applyValues_lambda (List.cons_ne_nil a args), applyLambda, hb]
    rfl
  have hframe : result (Eval.newFrame { bindings := own', outer := some (captured.getD env) }) t =
      .ok t.store.frames.size := rfl
  obtain ⟨hresult, hfinal⟩ := bind_of_ok (f := fun frame => evaluate files (room - 3) frame (.sexpr body)) hframe
  dsimp only
  rw [happly, hresult, hfinal]
  rcases h t ht _ (κ.refl _) (room - 3) with ⟨v, hvalue, hP, hleft⟩ | hcut
  · exact .inl ⟨v, hvalue, hP, κ.trans (κ.of_extends (t.extends_framed own' _)) hleft⟩
  · exact .inr (hcut.of (fun _ _ => by omega) id)

end CurriedLisp
