import CurriedLisp.Proofs.Eval.Actions
import CurriedLisp.Proofs.Eval.Transcripts
import CurriedLisp.Proofs.Store.Rebinding

namespace CurriedLisp

open Eval Contract

def Action.IsSilent : Action → Prop
  | .give v => v.isError = false
  | .compute _ => True
  | _ => False

lemma Action.IsNumeric.silent {a : Action} (h : a.IsNumeric) : a.IsSilent := by
  cases a with
  | give v =>
    cases v with
    | error message => cases h
    | _ => rfl
  | compute n => trivial
  | _ => exact h.elim

def Target.frame (g env : FrameId) : Target → FrameId
  | global => g
  | caller => env

namespace Builtin

variable {op : Builtin} {s : Store} {env : FrameId} {args : List Value} {a : Action}
  {new : List (String × Value)}

def isImmediate : Builtin → Bool
  | cond | eval | load => false
  | _ => true

def isBinding : Builtin → Bool
  | define | assign | function => true
  | _ => false

inductive Binds (s : Store) (env : FrameId) :
    Builtin → List Value → Target → List (String × Value) → Prop
  | define (new : List (String × Value)) :
    Binds s env .define (.qexpr (new.map fun b => .symbol b.1) :: new.map Prod.snd) .global new
  | assign (new : List (String × Value)) :
    Binds s env .assign (.qexpr (new.map fun b => .symbol b.1) :: new.map Prod.snd) .caller new
  | function (name : String) (formals : List String) (body : List Value) :
    Binds s env .function [.qexpr (.symbol name :: formals.map .symbol), .qexpr body] .global
      [(name, .lambda formals body [] (if s.scoping env = .lexical then some env else none))]

lemma action_of_binds {target : Target} (h : Binds s env op args target new) :
    op.action s env args = .ok (.bind target new) := by
  cases h with
  | define => exact bindAction_eq_ok.mpr ⟨new, rfl, rfl⟩
  | assign => exact bindAction_eq_ok.mpr ⟨new, rfl, rfl⟩
  | function name formals body => exact functionAction_eq_ok.mpr ⟨name, formals, body, rfl, rfl⟩

lemma binds_of_action (hop : op.isBinding = true) (h : op.action s env args = .ok a) :
    ∃ target new, a = .bind target new ∧ Binds s env op args target new := by
  cases op with
  | define =>
    obtain ⟨new, rfl, rfl⟩ := bindAction_eq_ok.mp h
    exact ⟨_, _, rfl, .define new⟩
  | assign =>
    obtain ⟨new, rfl, rfl⟩ := bindAction_eq_ok.mp h
    exact ⟨_, _, rfl, .assign new⟩
  | function =>
    obtain ⟨name, formals, body, rfl, rfl⟩ := functionAction_eq_ok.mp h
    exact ⟨_, _, rfl, .function name formals body⟩
  | _ => simp [isBinding] at hop

lemma silent_of_action (hop : op.isImmediate = true) (hbinding : op.isBinding = false)
    (hprint : op ≠ .println) (h : op.action s env args = .ok a) : a.IsSilent := by
  cases op <;> simp only [action, bind_eq_ok] at h
  case lambda =>
    obtain ⟨_, -, formals, -, body, -, v, hv, ⟨⟩⟩ := h
    obtain ⟨names, -, rfl⟩ := newFunction_eq_ok.mp hv
    rfl
  case function | define | assign => simp [isBinding] at hbinding
  case eval | load | cond => simp [isImmediate] at hop
  case error => simp at h
  case println => exact absurd rfl hprint
  case compare => exact (numeric_of_compareAction h).silent
  case equal | differ =>
    obtain ⟨_, -, ⟨⟩⟩ := h
    rfl
  case head | tail | join =>
    obtain ⟨_, -, _, -, ⟨⟩⟩ := h
    rfl
  case both | either => exact (numeric_of_testAction h).silent
  case negation =>
    obtain ⟨_, -, n, -, ⟨⟩⟩ := h
    rfl
  case list =>
    cases h
    rfl
  case cons =>
    obtain ⟨_, -, rest, -, ⟨⟩⟩ := h
    rfl
  case arithmetic => exact (numeric_of_arithmeticAction h).silent

end Builtin

namespace Evaluator

variable (files : Files) (room : Nat) (below : Nat → Evaluator) {env g : FrameId} {op : Builtin}
  {args : List Value} {s : State}

lemma applyBuiltin_of_complaint {complaint : Complaint} (h : op.action s.store env args = .error complaint) :
    result (applyBuiltin files room below env op args) s = .ok complaint.value ∧
      final (applyBuiltin files room below env op args) s = s := by
  have hstore : result Eval.store s = .ok s.store := rfl
  rw [applyBuiltin, (bind_of_ok hstore).1, (bind_of_ok hstore).2, show final Eval.store s = s from rfl, h]
  exact ⟨rfl, rfl⟩

lemma applyBuiltin_of_action {a : Action} (h : op.action s.store env args = .ok a) :
    result (applyBuiltin files room below env op args) s = result (perform files room below env a) s ∧
      final (applyBuiltin files room below env op args) s = final (perform files room below env a) s := by
  have hstore : result Eval.store s = .ok s.store := rfl
  rw [applyBuiltin, (bind_of_ok hstore).1, (bind_of_ok hstore).2, show final Eval.store s = s from rfl, h]
  exact ⟨rfl, rfl⟩

lemma perform_silent (env : FrameId) {a : Action} (h : a.IsSilent) (s : State) :
    (∃ v, result (perform files room below env a) s = .ok v ∧ v.isError = false) ∧
      (final (perform files room below env a) s).store = s.store ∧
      (final (perform files room below env a) s).told = s.told := by
  cases a with
  | give v => exact ⟨⟨v, rfl, h⟩, rfl, rfl⟩
  | compute n =>
    obtain ⟨⟨m, hm⟩, hstore⟩ := newNumber_run (s := s) n
    exact ⟨⟨_, hm, rfl⟩, hstore, newNumber_told n s⟩
  | _ => exact h.elim

lemma perform_bind (he : s.store.EndsIn env g) (target : Target) (new : List (String × Value)) :
    result (perform files room below env (.bind target new)) s = .ok .nothing ∧
      s.store.Rebinds (final (perform files room below env (.bind target new)) s).store
        (target.frame g env) new ∧
      (final (perform files room below env (.bind target new)) s).told = s.told := by
  refine ⟨rfl, ?_, rfl⟩
  cases target with
  | global =>
    show s.store.Rebinds (s.store.update (s.store.root env) (·.putAll new)) g new
    rw [he.root]
    exact Store.rebinds_update he.self.isSome new
  | caller => exact Store.rebinds_update he.isSome new

end Evaluator

open Evaluator in
theorem applyBuiltin_effects {op : Builtin} (hop : op.isImmediate = true) {s : State} {env g : FrameId}
    (he : s.store.EndsIn env g) (files : Files) (room : Nat) (below : Nat → Evaluator) (args : List Value) :
    ∃ v t, result (applyBuiltin files room below env op args) s = .ok v ∧
      final (applyBuiltin files room below env op args) s = t ∧
      (v.isError = true → t = s) ∧
      (∀ target new, op.Binds s.store env args target new →
        v = .nothing ∧ s.store.Rebinds t.store (target.frame g env) new) ∧
      (op = .println → v = .nothing) ∧
      (v.isError = false →
        (op.isBinding = true → ∃ target new, op.Binds s.store env args target new) ∧
        (op.isBinding = false → t.store = s.store) ∧
        t.told = s.told ++ if op = .println then
          [.wrote .standard (outputLine (s.store.builtinName? env) args ++ "\n")] else []) := by
  cases ha : op.action s.store env args with
  | error complaint =>
    obtain ⟨hresult, hfinal⟩ := applyBuiltin_of_complaint files room below ha
    refine ⟨_, _, hresult, hfinal, fun _ => rfl, fun target new h => ?_, fun h => ?_, fun h => ?_⟩
    · rw [Builtin.action_of_binds h] at ha
      cases ha
    · subst h
      cases ha
    · cases h
  | ok a =>
    obtain ⟨hresult, hfinal⟩ := applyBuiltin_of_action files room below ha
    rw [hresult, hfinal]
    cases hbinding : op.isBinding with
    | true =>
      obtain ⟨target, new, rfl, hbinds⟩ := Builtin.binds_of_action hbinding ha
      obtain ⟨hvalue, hstore, htold⟩ := perform_bind files room below he target new
      have hprint : op ≠ .println := by
        rintro rfl
        simp [Builtin.isBinding] at hbinding
      refine ⟨_, _, hvalue, rfl, nofun, fun other names h => ?_, fun _ => rfl,
        fun _ => ⟨fun _ => ⟨_, _, hbinds⟩, nofun, ?_⟩⟩
      · have hsame := (Builtin.action_of_binds h).symm.trans ha
        cases hsame
        exact ⟨rfl, hstore⟩
      · rw [htold, if_neg hprint, List.append_nil]
    | false =>
      by_cases hprint : op = .println
      · subst hprint
        cases ha
        refine ⟨.nothing, _, rfl, rfl, nofun, fun _ _ h => (nomatch h), fun _ => rfl,
          fun _ => ⟨nofun, fun _ => rfl, ?_⟩⟩
        exact (congrArg State.told (final_record _ s)).trans (State.told_retold _ _)
      · have hsilent : a.IsSilent := Builtin.silent_of_action hop hbinding hprint ha
        obtain ⟨⟨v, hv, hnoerror⟩, hstore, htold⟩ := perform_silent files room below env hsilent s
        refine ⟨v, _, hv, rfl, fun h => ?_, fun _ _ h => ?_, fun h => absurd h hprint,
          fun _ => ⟨nofun, fun _ => hstore, ?_⟩⟩
        · simp [hnoerror] at h
        · cases h <;> simp [Builtin.isBinding] at hbinding
        · rw [htold, if_neg hprint, List.append_nil]

def callerStore : Store :=
  ((Store.empty.alloc { bindings := [("k", .string "old")] }).2.alloc { outer := some 0 }).2

theorem applyBuiltin_effects_sample :
    (∃ t, final (Evaluator.applyBuiltin .none 5 (fun _ => evaluate .none 5) 1 .define
        [.qexpr [.symbol "n", .symbol "k", .symbol "n"], .string "a", .string "b", .string "c"])
        { store := callerStore } = t ∧
      (t.store.bindings 0).names = ["k", "n"] ∧ (t.store.bindings 0).find? "n" = some (.string "c") ∧
      (t.store.bindings 0).find? "k" = some (.string "b") ∧ t.store.frame? 1 = callerStore.frame? 1) ∧
    final (Evaluator.applyBuiltin .none 5 (fun _ => evaluate .none 5) 1 .define
      [.qexpr [.symbol "k", .string "n"], .string "a", .string "b"]) { store := callerStore } =
      { store := callerStore } := by
  let s : State := { store := callerStore }
  have hop : Builtin.define.isImmediate = true := rfl
  have hends : s.store.EndsIn 1 0 := show (callerStore.chain 1).getLast? = some 0 by decide
  refine ⟨?_, ?_⟩
  · obtain ⟨v, t, -, hfinal, -, hbinds, -⟩ :=
      applyBuiltin_effects hop hends .none 5 (fun _ => evaluate .none 5) _
    obtain ⟨-, hnew⟩ := hbinds _ _ (.define [("n", .string "a"), ("k", .string "b"), ("n", .string "c")])
    obtain ⟨f, f', hf, hf', -, -, hnames, hfind⟩ := hnew.frame
    cases hf
    have hbindings : t.store.bindings 0 = f'.bindings := by
      rw [Store.bindings, show t.store.frame? 0 = some f' from hf']
      rfl
    refine ⟨t, hfinal, ?_, ?_, ?_, hnew.others 1 (by decide)⟩
    · rw [hbindings, hnames]
      decide
    · rw [hbindings, hfind]
      rfl
    · rw [hbindings, hfind]
      rfl
  · obtain ⟨v, t, hresult, hfinal, herror, -⟩ :=
      applyBuiltin_effects hop hends .none 5 (fun _ => evaluate .none 5)
        [.qexpr [.symbol "k", .string "n"], .string "a", .string "b"]
    cases hresult
    exact hfinal.trans (herror rfl)

end CurriedLisp
