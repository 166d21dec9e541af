import CurriedLisp.Proofs.Eval.BuiltinEffects

namespace CurriedLisp

open Eval Contract Builtin

variable {s : State} {env g : FrameId} {new : List (String × Value)}

lemma Store.update_self (s : Store) (id : FrameId) : s.update id (fun b => b) = s := by
  cases s
  simp only [update, Store.mk.injEq]
  refine Array.ext_getElem? fun i => ?_
  rw [Array.getElem?_modify]
  split <;> simp

lemma Store.update_update (s : Store) (id : FrameId) (f g : Bindings → Bindings) :
    (s.update id f).update id g = s.update id fun b => g (f b) := by
  simp only [update, Store.mk.injEq]
  refine Array.ext_getElem? fun i => ?_
  by_cases h : id = i <;> simp [Array.getElem?_modify, h, Function.comp_def]

def State.withBound (s : State) (id : FrameId) (new : List (String × Value)) : State :=
  { s with store := s.store.update id (·.putAll new) }

lemma State.withBound_nil (s : State) (id : FrameId) : s.withBound id [] = s := by
  have hstore : s.store.update id (·.putAll []) = s.store := s.store.update_self id
  rw [withBound, hstore]

lemma State.withBound_cons (s : State) (id : FrameId) (b : String × Value) (new : List (String × Value)) :
    s.withBound id (b :: new) = (s.withBound id [b]).withBound id new := by
  rw [withBound, withBound, withBound, Store.update_update]
  rfl

lemma endsIn_withBound (he : s.store.EndsIn env g) (id : FrameId) (new : List (String × Value)) :
    (s.withBound id new).store.EndsIn env g := by
  rwa [Store.EndsIn, State.withBound, Store.chain_update]

namespace Builtin

inductive Assigns : Builtin → Target → Prop
  | define : Assigns .define .global
  | assign : Assigns .assign .caller

lemma Assigns.binds {op : Builtin} {target : Target} (h : op.Assigns target) (s : Store) (env : FrameId)
    (new : List (String × Value)) :
    op.Binds s env (.qexpr (new.map fun b => .symbol b.1) :: new.map Prod.snd) target new := by
  cases h with
  | define => exact .define new
  | assign => exact .assign new

inductive Named : (String → Complaint) → Prop
  | argumentCount (expected : Arity) (got : Nat) : Named fun name => .argumentCount name expected got
  | wrongKind (position : Nat) (expected got : Kind) : Named fun name => .wrongKind name position expected got
  | symbolCount (symbols values : Nat) : Named fun name => .symbolCount name symbols values

lemma Named.message {c : String → Complaint} (h : Named c) (name : String) :
    (c name).message = name ++ (c "").message := by
  cases h with
  | argumentCount expected got =>
    show name ++ _ ++ _ ++ _ ++ _ ++ _ ++ _ = name ++ ("" ++ _ ++ _ ++ _ ++ _ ++ _ ++ _)
    simp only [String.append_assoc, String.empty_append]
  | wrongKind position expected got =>
    show name ++ _ ++ _ ++ _ ++ _ ++ _ ++ _ = name ++ ("" ++ _ ++ _ ++ _ ++ _ ++ _ ++ _)
    simp only [String.append_assoc, String.empty_append]
  | symbolCount symbols values =>
    show name ++ _ ++ _ ++ _ ++ _ ++ _ = name ++ ("" ++ _ ++ _ ++ _ ++ _ ++ _)
    simp only [String.append_assoc, String.empty_append]

lemma bindAction_uniform (s : Store) (env : FrameId) (args : List Value) :
    (∃ new, ∀ op target, bindAction s env op target args = .ok (.bind target new)) ∨
    (∃ c, ∀ op target, bindAction s env op target args = .error c) ∨
    ∃ c, Named c ∧ ∀ op target, bindAction s env op target args = .error (c op.name) := by
  cases args with
  | nil => exact .inr (.inr ⟨_, .argumentCount (.atLeast 1) 0, fun _ _ => rfl⟩)
  | cons first values =>
    by_cases hfirst : ∃ symbols, first = .qexpr symbols
    · obtain ⟨symbols, rfl⟩ := hfirst
      simp only [bindAction, nonEmpty, items, bind, Except.bind]
      cases symbolNames (fun v => .nonSymbolName (v.display (s.builtinName? env))) symbols with
      | error c => exact .inr (.inl ⟨c, fun _ _ => rfl⟩)
      | ok names =>
        by_cases hlength : names.length = values.length
        · exact .inl ⟨names.zip values, fun _ _ => if_pos hlength⟩
        · exact .inr (.inr ⟨_, .symbolCount names.length values.length, fun _ _ => if_neg hlength⟩)
    · have hitems : ∀ op, items op 1 first = .error (.wrongKind op 1 .qexpr first.kind) := by
        intro op
        unfold items
        split
        · exact absurd ⟨_, rfl⟩ hfirst
        · rfl
      simp only [bindAction, nonEmpty, hitems, bind, Except.bind]
      exact .inr (.inr ⟨_, .wrongKind 1 .qexpr first.kind, fun _ _ => rfl⟩)

end Builtin

lemma action_lambda (s : Store) (env : FrameId) (formals body : List Value) :
    Builtin.lambda.action s env [.qexpr formals, .qexpr body] =
      newFunction s env formals body >>= fun f => .ok (.give f) := rfl

lemma action_function (s : Store) (env : FrameId) (name : String) (formals body : List Value) :
    Builtin.function.action s env [.qexpr (.symbol name :: formals), .qexpr body] =
      newFunction s env formals body >>= fun f => .ok (.bind .global [(name, f)]) := rfl

namespace Evaluator

variable (files : Files) (room : Nat) (below : Nat → Evaluator)

lemma applyBuiltin_binds {op : Builtin} {args : List Value} {target : Target} (he : s.store.EndsIn env g)
    (h : op.action s.store env args = .ok (.bind target new)) :
    result (applyBuiltin files room below env op args) s = .ok .nothing ∧
      final (applyBuiltin files room below env op args) s = s.withBound (target.frame g env) new := by
  obtain ⟨hresult, hfinal⟩ := applyBuiltin_of_action files room below h
  rw [hresult, hfinal]
  cases target with
  | global =>
    refine ⟨rfl, ?_⟩
    rw [Target.frame, ← he.root]
    rfl
  | caller => exact ⟨rfl, rfl⟩

lemma bindEach_run {op : Builtin} {target : Target} (hop : op.Assigns target) (he : s.store.EndsIn env g)
    (new : List (String × Value)) :
    result (new.mapM fun b => applyBuiltin files room below env op [.qexpr [.symbol b.1], b.2]) s =
        .ok (new.map fun _ => .nothing) ∧
      final (new.mapM fun b => applyBuiltin files room below env op [.qexpr [.symbol b.1], b.2]) s =
        s.withBound (target.frame g env) new := by
  induction new generalizing s with
  | nil => exact ⟨rfl, (s.withBound_nil _).symm⟩
  | cons b rest ih =>
    obtain ⟨hfirst, hstate⟩ :
        result (applyBuiltin files room below env op [.qexpr [.symbol b.1], b.2]) s = .ok .nothing ∧
        final (applyBuiltin files room below env op [.qexpr [.symbol b.1], b.2]) s =
          s.withBound (target.frame g env) [b] :=
      applyBuiltin_binds files room below he (action_of_binds (hop.binds s.store env [b]))
    obtain ⟨hrest, hfinal⟩ := ih (endsIn_withBound he (target.frame g env) [b])
    rw [← hstate] at hrest hfinal
    obtain ⟨hresult, hlast⟩ := bind_of_ok (f := fun v => do
      return v :: (← rest.mapM fun b => applyBuiltin files room below env op [.qexpr [.symbol b.1], b.2])) hfirst
    obtain ⟨hcons, hend⟩ := bind_of_ok (f := fun vs : List Value => (pure (.nothing :: vs) : Eval (List Value))) hrest
    rw [List.mapM_cons, hresult, hlast, hcons, hend, State.withBound_cons, ← hstate, ← hfinal]
    exact ⟨rfl, rfl⟩

lemma bindAction_run (he : s.store.EndsIn g g) (args : List Value) :
    final (applyBuiltin files room below g .define args) s = final (applyBuiltin files room below g .assign args) s ∧
    ((∃ v, result (applyBuiltin files room below g .define args) s = .ok v ∧
        result (applyBuiltin files room below g .assign args) s = .ok v) ∨
      ∃ rest, result (applyBuiltin files room below g .define args) s = .ok (.error ("def" ++ rest)) ∧
        result (applyBuiltin files room below g .assign args) s = .ok (.error ("=" ++ rest))) := by
  have hglobal : Builtin.define.action s.store g args = bindAction s.store g .define .global args := rfl
  have hcaller : Builtin.assign.action s.store g args = bindAction s.store g .assign .caller args := rfl
  rcases bindAction_uniform s.store g args with ⟨new, h⟩ | ⟨c, h⟩ | ⟨c, hc, h⟩
  · obtain ⟨hdefine, hleft⟩ := applyBuiltin_binds files room below he (hglobal.trans (h _ _))
    obtain ⟨hassign, hright⟩ := applyBuiltin_binds files room below he (hcaller.trans (h _ _))
    exact ⟨hleft.trans hright.symm, .inl ⟨_, hdefine, hassign⟩⟩
  · obtain ⟨hdefine, hleft⟩ := applyBuiltin_of_complaint files room below (hglobal.trans (h _ _))
    obtain ⟨hassign, hright⟩ := applyBuiltin_of_complaint files room below (hcaller.trans (h _ _))
    exact ⟨hleft.trans hright.symm, .inl ⟨_, hdefine, hassign⟩⟩
  · obtain ⟨hdefine, hleft⟩ := applyBuiltin_of_complaint files room below (hglobal.trans (h _ _))
    obtain ⟨hassign, hright⟩ := applyBuiltin_of_complaint files room below (hcaller.trans (h _ _))
    rw [Complaint.value, hc.message] at hdefine hassign
    exact ⟨hleft.trans hright.symm, .inr ⟨_, hdefine, hassign⟩⟩

variable {formals body : List Value}

lemma function_of_complaint (name : String) {c : Complaint}
    (h : newFunction s.store env formals body = .error c) :
    (result (applyBuiltin files room below env .lambda [.qexpr formals, .qexpr body]) s = .ok c.value ∧
      final (applyBuiltin files room below env .lambda [.qexpr formals, .qexpr body]) s = s) ∧
    result (applyBuiltin files room below env .function [.qexpr (.symbol name :: formals), .qexpr body]) s =
        .ok c.value ∧
      final (applyBuiltin files room below env .function [.qexpr (.symbol name :: formals), .qexpr body]) s = s := by
  have hlambda := action_lambda s.store env formals body
  have hfunction := action_function s.store env name formals body
  rw [h] at hlambda hfunction
  exact ⟨applyBuiltin_of_complaint files room below hlambda, applyBuiltin_of_complaint files room below hfunction⟩

lemma function_of_created (name : String) (he : s.store.EndsIn env g) {f : Value}
    (h : newFunction s.store env formals body = .ok f) :
    (result (applyBuiltin files room below env .lambda [.qexpr formals, .qexpr body]) s = .ok f ∧
      final (applyBuiltin files room below env .lambda [.qexpr formals, .qexpr body]) s = s) ∧
    result (applyBuiltin files room below env .function [.qexpr (.symbol name :: formals), .qexpr body]) s =
        .ok .nothing ∧
      final (applyBuiltin files room below env .function [.qexpr (.symbol name :: formals), .qexpr body]) s =
        s.withBound g [(name, f)] := by
  have hlambda := action_lambda s.store env formals body
  have hfunction := action_function s.store env name formals body
  rw [h] at hlambda hfunction
  exact ⟨applyBuiltin_of_action files room below hlambda, applyBuiltin_binds files room below he hfunction⟩

lemma function_run (he : s.store.EndsIn env g) (name : String) (formals body : List Value) :
    let created := applyBuiltin files room below env .lambda [.qexpr formals, .qexpr body] >>= fun f =>
      if f.isError then pure f else applyBuiltin files room below env .define [.qexpr [.symbol name], f]
    result (applyBuiltin files room below env .function [.qexpr (.symbol name :: formals), .qexpr body]) s =
        result created s ∧
      final (applyBuiltin files room below env .function [.qexpr (.symbol name :: formals), .qexpr body]) s =
        final created s := by
  intro created
  cases h : newFunction s.store env formals body with
  | error c =>
    obtain ⟨⟨hlambda, hsame⟩, hfunction, hend⟩ := function_of_complaint files room below name h
    obtain ⟨hresult, hfinal⟩ := bind_of_ok (f := fun f : Value =>
      if f.isError then pure f else applyBuiltin files room below env .define [.qexpr [.symbol name], f]) hlambda
    rw [hfunction, hend, hresult, hfinal, hsame]
    exact ⟨rfl, rfl⟩
  | ok f =>
    obtain ⟨⟨hlambda, hsame⟩, hfunction, hend⟩ := function_of_created files room below name he h
    obtain ⟨hresult, hfinal⟩ := bind_of_ok (f := fun f : Value =>
      if f.isError then pure f else applyBuiltin files room below env .define [.qexpr [.symbol name], f]) hlambda
    have hf : f.isError = false := by
      obtain ⟨names, -, rfl⟩ := newFunction_eq_ok.mp h
      rfl
    obtain ⟨hdefine, hbound⟩ : result (applyBuiltin files room below env .define [.qexpr [.symbol name], f]) s =
          .ok .nothing ∧
        final (applyBuiltin files room below env .define [.qexpr [.symbol name], f]) s =
          s.withBound g [(name, f)] :=
      applyBuiltin_binds files room below he (action_of_binds (.define [(name, f)]))
    rw [hfunction, hend, hresult, hfinal, hsame, hf, if_neg Bool.false_ne_true, hdefine, hbound]
    exact ⟨rfl, rfl⟩

end Evaluator

lemma rebinds_withBound (he : s.store.EndsIn env g) (target : Target) (new : List (String × Value)) :
    s.store.Rebinds (s.withBound (target.frame g env) new).store (target.frame g env) new := by
  cases target with
  | global => exact Store.rebinds_update he.self.isSome new
  | caller => exact Store.rebinds_update he.isSome new

open Evaluator in
theorem definitions_agree (he : s.store.EndsIn env g) (files : Files) (room : Nat) (below : Nat → Evaluator) :
    (∀ op target, op.Assigns target → ∀ new : List (String × Value),
      let together := applyBuiltin files room below env op (.qexpr (new.map fun b => .symbol b.1) :: new.map Prod.snd)
      let each := new.mapM fun b => applyBuiltin files room below env op [.qexpr [.symbol b.1], b.2]
      result together s = .ok .nothing ∧ result each s = .ok (new.map fun _ => .nothing) ∧
        final together s = final each s ∧
        s.store.Rebinds (final together s).store (target.frame g env) new) ∧
    (env = g → ∀ args,
      let defining := applyBuiltin files room below env .define args
      let assigning := applyBuiltin files room below env .assign args
      final defining s = final assigning s ∧
        ((∃ v, result defining s = .ok v ∧ result assigning s = .ok v) ∨
          ∃ rest, result defining s = .ok (.error ("def" ++ rest)) ∧
            result assigning s = .ok (.error ("=" ++ rest)))) ∧
    ∀ name formals body,
      let naming := applyBuiltin files room below env .function [.qexpr (.symbol name :: formals), .qexpr body]
      let creating := applyBuiltin files room below env .lambda [.qexpr formals, .qexpr body]
      let binding := creating >>= fun f =>
        if f.isError then pure f else applyBuiltin files room below env .define [.qexpr [.symbol name], f]
      (result naming s = result binding s ∧ final naming s = final binding s) ∧
        (∀ message, result creating s = .ok (.error message) →
          result naming s = .ok (.error message) ∧ final naming s = s) ∧
        ∀ names : List String, formals = names.map .symbol →
          result naming s = .ok .nothing ∧ s.store.Rebinds (final naming s).store g
            [(name, .lambda names body [] (if s.store.scoping env = .lexical then some env else none))] := by
  refine ⟨fun op target hop new => ?_, ?_, fun name formals body => ⟨?_, fun message herror => ?_, ?_⟩⟩
  · obtain ⟨htogether, hleft⟩ := applyBuiltin_binds files room below he (action_of_binds (hop.binds s.store env new))
    obtain ⟨heach, hright⟩ := bindEach_run files room below hop he new
    refine ⟨htogether, heach, hleft.trans hright.symm, ?_⟩
    rw [hleft]
    exact rebinds_withBound he target new
  · rintro rfl args
    exact bindAction_run files room below he args
  · exact function_run files room below he name formals body
  · cases h : newFunction s.store env formals body with
    | error c =>
      obtain ⟨⟨hlambda, -⟩, hfunction⟩ := function_of_complaint files room below name h
      rwa [← hlambda.symm.trans herror]
    | ok f =>
      obtain ⟨names, -, rfl⟩ := newFunction_eq_ok.mp h
      obtain ⟨⟨hlambda, -⟩, -⟩ := function_of_created files room below name he h
      cases hlambda.symm.trans herror
  · rintro names rfl
    have hcreated : newFunction s.store env (names.map .symbol) body =
        .ok (.lambda names body [] (if s.store.scoping env = .lexical then some env else none)) :=
      newFunction_eq_ok.mpr ⟨names, rfl, rfl⟩
    obtain ⟨-, hresult, hfinal⟩ := function_of_created files room below name he hcreated
    rw [hfinal]
    exact ⟨hresult, rebinds_withBound he .global _⟩

def nestedStore : Store :=
  let outermost := (Store.empty.alloc { bindings := [("k", .string "old")], scoping := some .lexical }).2
  ((outermost.alloc { outer := some 0 }).2.alloc { outer := some 1 }).2

open Evaluator in
theorem definitions_agree_nested :
    nestedStore.EndsIn 2 0 ∧
    final (applyBuiltin .none 5 (fun _ => evaluate .none 5) 2 .define [.qexpr [.symbol "n", .symbol "k", .symbol "n"],
        .string "a", .string "b", .string "c"]) { store := nestedStore } =
      final ([("n", .string "a"), ("k", .string "b"), ("n", .string "c")].mapM fun b =>
        applyBuiltin .none 5 (fun _ => evaluate .none 5) 2 .define [.qexpr [.symbol b.1], b.2])
        { store := nestedStore } ∧
    final (applyBuiltin .none 5 (fun _ => evaluate .none 5) 0 .define [.qexpr [.symbol "k"], .string "b"])
        { store := nestedStore } =
      final (applyBuiltin .none 5 (fun _ => evaluate .none 5) 0 .assign [.qexpr [.symbol "k"], .string "b"])
        { store := nestedStore } ∧
    ∃ t, final (applyBuiltin .none 5 (fun _ => evaluate .none 5) 2 .function
        [.qexpr [.symbol "f", .symbol "x"], .qexpr [.symbol "x"]]) { store := nestedStore } = t ∧
      (t.store.bindings 0).find? "f" = some (.lambda ["x"] [.symbol "x"] [] (some 2)) ∧
      t.store.frame? 2 = nestedStore.frame? 2 := by
  have hinner : nestedStore.EndsIn 2 0 := show (nestedStore.chain 2).getLast? = some 0 by decide
  have houter : nestedStore.EndsIn 0 0 := show (nestedStore.chain 0).getLast? = some 0 by decide
  obtain ⟨htogether, -, hfunction⟩ := definitions_agree (s := { store := nestedStore }) hinner .none 5
    fun _ => evaluate .none 5
  obtain ⟨-, hglobal, -⟩ := definitions_agree (s := { store := nestedStore }) houter .none 5 fun _ => evaluate .none 5
  refine ⟨hinner, ?_, (hglobal rfl _).1, _, rfl, ?_⟩
  · exact (htogether _ _ .define [("n", .string "a"), ("k", .string "b"), ("n", .string "c")]).2.2.1
  · obtain ⟨-, hnew⟩ := (hfunction "f" [.symbol "x"] [.symbol "x"]).2.2 ["x"] rfl
    obtain ⟨f, f', hf, hf', -, -, -, hfind⟩ := hnew.frame
    cases hf
    refine ⟨?_, hnew.others 2 (by decide)⟩
    rw [Store.bindings, hf']
    exact (hfind "f").trans rfl

end CurriedLisp
