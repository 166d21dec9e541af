import CurriedLisp.Proofs.Eval.Watch
import CurriedLisp.Proofs.Session.Inputs

/-! The bundled prelude is made of definitions in the global frame. From there all names are found near, so its
loading goes unnoticed by the watch. -/

namespace CurriedLisp

open Eval

def Store.atom (s : Store) (env : FrameId) : Value → Value
  | .symbol name => (s.get? env name).getD (Complaint.unbound name).value
  | v => v

def definitionItems (op : Builtin) (name : String) (symbols : List Value) (v : Value) : List Value :=
  [.symbol op.name, .qexpr (.symbol name :: symbols), v]

/-- A form that defines a name, but does not redefine the operations that define names. -/
def Definition (form : Value) : Prop :=
  ∃ op name symbols v, (op = .define ∨ op = .function) ∧ name ∉ [Builtin.define.name, Builtin.function.name] ∧
    v.kind ≠ .sexpr ∧ form = .sexpr (definitionItems op name symbols v)

structure Store.Defining (s : Store) (g : FrameId) : Prop where
  outermost : s.EndsIn g g
  define : s.get? g Builtin.define.name = some (.ofBuiltin .define)
  function : s.get? g Builtin.function.name = some (.ofBuiltin .function)

variable {files : Files} {room less : Nat} {env g : FrameId} {s : State} {v w : Value}

/-! The inductions on `room` and `less` follow the cases of `evaluators`: no room, levels to go down, a step. -/

lemma evaluators_atom (hv : v.kind ≠ .sexpr) :
    final (evaluators files room less env v) s = s ∧
      ∀ w, result (evaluators files room less env v) s = .ok w → w = s.store.atom env v := by
  induction room generalizing less with
  | zero => exact ⟨rfl, by rintro _ ⟨⟩⟩
  | succ room ih =>
    cases less with
    | succ less => exact ih
    | zero =>
      cases v with
      | list b items =>
        cases b with
        | curly =>
          refine ⟨rfl, ?_⟩
          rintro _ ⟨⟩
          rfl
        | round => exact (hv rfl).elim
      | _ =>
        refine ⟨rfl, ?_⟩
        rintro _ ⟨⟩
        rfl

lemma items_atoms {l : List Value} (hl : ∀ v ∈ l, v.kind ≠ .sexpr) :
    final ((evaluators files room less).items env l) s = s ∧
      ∀ vs, result ((evaluators files room less).items env l) s = .ok (.ok vs) →
        vs = l.map (s.store.atom env) := by
  induction l with
  | nil =>
    refine ⟨rfl, ?_⟩
    rintro _ ⟨⟩
    rfl
  | cons v rest ih =>
    obtain ⟨hfinal, hvalue⟩ := @evaluators_atom files room less env s v (hl v List.mem_cons_self)
    obtain ⟨hrest, hvalues⟩ := ih fun v hv => hl v (List.mem_cons_of_mem _ hv)
    refine ⟨final_bind_self hfinal fun a => ?_, fun vs hvs => ?_⟩
    · split
      · rfl
      · exact final_bind_self hrest fun _ => rfl
    · obtain ⟨w, ws, hw, hws, rfl⟩ := Evaluator.items_eq_ok hvs
      rw [hfinal] at hws
      rw [hvalue w hw, hvalues ws hws, List.map_cons]

lemma Builtin.action_definition {st : Store} {op : Builtin} {name : String} {symbols : List Value} {a : Action}
    (hop : op = .define ∨ op = .function)
    (ha : op.action st env [.qexpr (.symbol name :: symbols), v] = .ok a) :
    ∃ w, a = .bind .global [(name, w)] := by
  rcases hop with rfl | rfl
  · have ha : bindAction st env .define .global [.qexpr (.symbol name :: symbols), v] = .ok a := ha
    simp only [bindAction, bind_eq_ok, Contract.nonEmpty_eq_ok, Contract.items_eq_ok] at ha
    obtain ⟨⟨first, values⟩, hargs, l, hl, names, hnames, ha⟩ := ha
    obtain ⟨rfl, rfl⟩ := List.cons.inj hargs
    obtain rfl := (Value.list.inj hl).2
    obtain ⟨others, hothers, hnames⟩ := bind_eq_ok.mp hnames
    obtain rfl := Except.ok.inj hnames
    split at ha
    · next hlength =>
      obtain rfl : others = [] := List.length_eq_zero_iff.mp (Nat.succ.inj hlength)
      exact ⟨v, (Except.ok.inj ha).symm⟩
    · cases ha
  · have ha : functionAction st env [.qexpr (.symbol name :: symbols), v] = .ok a := ha
    simp only [functionAction, bind_eq_ok, Contract.two_eq_ok, Contract.someItems_eq_ok] at ha
    obtain ⟨⟨signature, body⟩, hargs, ⟨first, formals⟩, hsignature, l, hl, ha⟩ := ha
    obtain ⟨rfl, -⟩ := List.cons.inj hargs
    obtain ⟨rfl, -⟩ := List.cons.inj (Value.list.inj hsignature).2
    obtain ⟨w, -, ha⟩ := bind_eq_ok.mp ha
    exact ⟨w, (Except.ok.inj ha).symm⟩

lemma evaluators_call (files : Files) (room : Nat) (env : FrameId) (program : List Value) :
    evaluators files (room + 1) 0 env (.sexpr program) =
      (evaluators files room Evaluator.Part.item.levels).withValues env program
        (Evaluator.applyValues files room (evaluators files room) env) := Evaluator.call_eq program

section Definition

variable {op : Builtin} {name : String} {symbols : List Value}

lemma definitionItems_atoms (hv : v.kind ≠ .sexpr) : ∀ w ∈ definitionItems op name symbols v, w.kind ≠ .sexpr := by
  simpa [definitionItems, Value.kind] using hv

lemma definitionItems_values (hs : s.store.Defining g) (hop : op = .define ∨ op = .function)
    (hv : v.kind ≠ .sexpr) {vs : List Value}
    (hvs : result ((evaluators files room less).items g (definitionItems op name symbols v)) s = .ok (.ok vs)) :
    vs = [.ofBuiltin op, .qexpr (.symbol name :: symbols), s.store.atom g v] := by
  have hhead : s.store.get? g op.name = some (.ofBuiltin op) := by
    rcases hop with rfl | rfl
    · exact hs.define
    · exact hs.function
  rw [(items_atoms (definitionItems_atoms hv)).2 vs hvs, definitionItems, List.map_cons, Store.atom, hhead]
  rfl

lemma Store.get?_bind {st : Store} (hs : st.EndsIn g g) (name : String) (w : Value) (other : String) :
    (st.update g (·.putAll [(name, w)])).get? g other = if other = name then some w else st.get? g other := by
  rw [get?_of_endsIn (endsIn_update.mpr hs), get?_of_endsIn hs, bindings_update, if_pos ⟨rfl, hs.isSome⟩]
  exact Bindings.find?_put _ name other w

lemma Store.Defining.put {st : Store} (hs : st.Defining g)
    (hname : name ∉ [Builtin.define.name, Builtin.function.name]) (w : Value) :
    (st.update g (·.putAll [(name, w)])).Defining g := by
  have houtermost : (st.update g (·.putAll [(name, w)])).EndsIn g g := Store.endsIn_update.mpr hs.outermost
  have hother : ∀ other, other ≠ name → (st.update g (·.putAll [(name, w)])).get? g other = st.get? g other :=
    fun other hne => (get?_bind hs.outermost name w other).trans (if_neg hne)
  obtain ⟨hdefine, hfunction⟩ : name ≠ Builtin.define.name ∧ name ≠ Builtin.function.name := by
    simpa using hname
  refine ⟨houtermost, ?_, ?_⟩
  · rw [hother _ hdefine.symm, hs.define]
  · rw [hother _ hfunction.symm, hs.function]

lemma evaluators_definition (hs : s.store.Defining g) (hop : op = .define ∨ op = .function) (hv : v.kind ≠ .sexpr) :
    final (evaluators files room less g (.sexpr (definitionItems op name symbols v))) s = s ∨
      ∃ w, final (evaluators files room less g (.sexpr (definitionItems op name symbols v))) s =
        { s with store := s.store.update g (·.putAll [(name, w)]) } := by
  induction room generalizing less with
  | zero => exact .inl rfl
  | succ room ih =>
    cases less with
    | succ less => exact ih
    | zero =>
      have hatoms : ∀ w ∈ definitionItems op name symbols v, w.kind ≠ .sexpr := definitionItems_atoms hv
      obtain ⟨hfinal, -⟩ := @items_atoms files room Evaluator.Part.item.levels g s _ hatoms
      rw [evaluators_call, Evaluator.withValues]
      cases hr : result ((evaluators files room Evaluator.Part.item.levels).items g
        (definitionItems op name symbols v)) s with
      | error e => exact .inl ((bind_of_error hr).2.trans hfinal)
      | ok r =>
        rw [(bind_of_ok hr).2, hfinal]
        cases r with
        | error message => exact .inl rfl
        | ok vs =>
          obtain rfl := definitionItems_values hs hop hv hr
          have hstore : result Eval.store s = .ok s.store := rfl
          dsimp only [Value.ofBuiltin, Evaluator.applyValues, Evaluator.apply, Evaluator.applyBuiltin]
          rw [(bind_of_ok hstore).2]
          cases ha : op.action s.store g [.qexpr (.symbol name :: symbols), s.store.atom g v] with
          | error complaint => exact .inl rfl
          | ok a =>
            obtain ⟨w, rfl⟩ := Builtin.action_definition hop ha
            refine .inr ⟨w, ?_⟩
            show { s with store := s.store.update (s.store.root g) (·.putAll [(name, w)]) } = _
            rw [hs.outermost.root]

lemma evaluators_defining (hs : s.store.Defining g) (hform : Definition v) :
    (final (evaluators files room less g v) s).store.Defining g := by
  obtain ⟨op, name, symbols, v, hop, hname, hv, rfl⟩ := hform
  rcases @evaluators_definition files room less g s v op name symbols hs hop hv with h | ⟨w, h⟩
  · rwa [h]
  · rw [h]
    exact hs.put hname w

end Definition

namespace Watched

lemma evaluators_atom_at (hs : s.store.EndsIn env env) (hv : v.kind ≠ .sexpr) :
    evaluators files room less env v s = CurriedLisp.evaluators files room less env v s := by
  induction room generalizing less with
  | zero => rfl
  | succ room ih =>
    cases less with
    | succ less => exact ih
    | zero =>
      cases v with
      | symbol name => exact guard_at (Store.answersNear_of_root hs hs.root.symm _)
      | list b items =>
        cases b with
        | curly => rfl
        | round => exact (hv rfl).elim
      | _ => rfl

lemma items_at (hs : s.store.EndsIn env env) {l : List Value} (hl : ∀ v ∈ l, v.kind ≠ .sexpr) :
    (evaluators files room less).items env l s = (CurriedLisp.evaluators files room less).items env l s := by
  induction l with
  | nil => rfl
  | cons v rest ih =>
    have hv := hl v List.mem_cons_self
    refine bind_at (evaluators_atom_at hs hv) fun a _ => ?_
    rw [(evaluators_atom hv).1]
    split
    · rfl
    · exact bind_at (ih fun v hv => hl v (List.mem_cons_of_mem _ hv)) fun _ _ => rfl

lemma applyBuiltin_at {op : Builtin} {args : List Value} {below above : Nat → Evaluator}
    (ha : ∀ a, op.action s.store env args = .ok a → ∃ target new, a = .bind target new) :
    Evaluator.applyBuiltin files room below env op args s = Evaluator.applyBuiltin files room above env op args s := by
  refine bind_at rfl fun st hst => ?_
  obtain rfl : s.store = st := Except.ok.inj hst
  cases haction : op.action s.store env args with
  | error complaint => rfl
  | ok a =>
    obtain ⟨target, new, rfl⟩ := ha a haction
    rfl

lemma evaluators_definition_at (hs : s.store.Defining g) (hform : Definition v) :
    evaluators files room less g v s = CurriedLisp.evaluators files room less g v s := by
  obtain ⟨op, name, symbols, v, hop, -, hv, rfl⟩ := hform
  induction room generalizing less with
  | zero => rfl
  | succ room ih =>
    cases less with
    | succ less => exact ih
    | zero =>
      have hatoms : ∀ w ∈ definitionItems op name symbols v, w.kind ≠ .sexpr := definitionItems_atoms hv
      rw [evaluators_call]
      refine bind_at (items_at hs.outermost hatoms) fun r hr => ?_
      rw [(items_atoms hatoms).1]
      cases r with
      | error message => rfl
      | ok vs =>
        obtain rfl := definitionItems_values hs hop hv hr
        refine (guard_at (Store.callsNear_of_root hs.outermost hs.outermost.root.symm)).trans ?_
        refine applyBuiltin_at fun a ha => ?_
        obtain ⟨w, rfl⟩ := Builtin.action_definition hop ha
        exact ⟨_, _, rfl⟩

lemma forms_at {sink : Sink} {program : List Value} (hs : s.store.Defining g)
    (hp : ∀ form ∈ program, Definition form) :
    (evaluate files room).forms g sink program s = (CurriedLisp.evaluate files room).forms g sink program s := by
  induction program generalizing s with
  | nil => rfl
  | cons form rest ih =>
    have hform := hp form List.mem_cons_self
    refine bind_at (evaluators_definition_at hs hform) fun v _ => ?_
    have hs : (final (CurriedLisp.evaluate files room g form) s).store.Defining g := evaluators_defining hs hform
    have hrest : ∀ form ∈ rest, Definition form := fun form h => hp form (List.mem_cons_of_mem _ h)
    cases v.isError with
    | false => exact ih hs hrest
    | true => exact bind_at rfl fun _ _ => bind_at rfl fun _ _ => ih hs hrest

end Watched

theorem prelude_definitions : ∀ form ∈ Prelude.program, Definition form := by
  have hdefine : ∀ name v, name ∉ [Builtin.define.name, Builtin.function.name] → v.kind ≠ .sexpr →
      Definition (Prelude.define name v) := fun name v hname hv => ⟨_, _, _, _, .inl rfl, hname, hv, rfl⟩
  have hfunction : ∀ name formals body, name ∉ [Builtin.define.name, Builtin.function.name] →
      Definition (Prelude.function (name :: formals) body) :=
    fun name formals body hname => ⟨_, _, _, _, .inr rfl, hname, by simp [Value.kind], rfl⟩
  simp only [Prelude.program, Prelude.constants, Prelude.calling, Prelude.selecting, Prelude.folding,
    List.forall_mem_append, List.forall_mem_cons]
  and_intros
  all_goals first
    | exact hfunction _ _ _ (by decide)
    | exact hdefine _ _ (by decide) (by decide)
    | simp

namespace Session

variable {w : World} {scoping : Scoping} {s : State}

lemma freshStore_defining (scoping : Scoping) : (freshStore scoping).Defining globalFrame where
  outermost := freshStore_endsIn rfl
  define := rfl
  function := rfl

lemma loadUnitBy_bundled_at (hs : s.store.Defining globalFrame) :
    loadUnitBy (Watched.evaluate w.files w.room) w .bundled s = loadUnitBy w.evaluate w .bundled s := by
  refine bind_at rfl fun program hprogram => ?_
  have hread : final (reading Prelude.path (Reading.within w.room Prelude.program)) s = s := by
    unfold reading
    split <;> rfl
  have hp : ∀ form ∈ program, Definition form := by
    unfold reading Reading.within at hprogram
    split at hprogram
    · next hok =>
      split at hok
      · obtain rfl := Except.ok.inj hok
        obtain rfl := Except.ok.inj hprogram
        exact prelude_definitions
      · cases hok
    · cases hprogram
    · cases hprogram
  rw [hread]
  exact bind_at rfl fun _ _ => bind_at (Watched.forms_at hs hp) fun _ _ => rfl

lemma loadUnitsBy_bundled_at (hs : s.store.Defining globalFrame) :
    loadUnitsBy (Watched.evaluate w.files w.room) w [.bundled] s = loadUnitsBy w.evaluate w [.bundled] s := by
  simp only [loadUnitsBy]
  exact bind_at (loadUnitBy_bundled_at hs) fun _ _ => rfl

lemma beginBy_at {prelude : Bool} (hown : prelude = true → Setting.nonEmpty w.vars "MLISP_PRELUDE_PATH" = none) :
    beginBy (Watched.evaluate w.files w.room) w scoping prelude s = beginBy w.evaluate w scoping prelude s := by
  unfold beginBy
  refine bind_at rfl fun _ _ => bind_at rfl fun _ _ => ?_
  cases prelude with
  | false => simp only [Bool.false_eq_true, reduceIte]
  | true =>
    have hunits : w.preludeUnits = .ok [.bundled] := by
      unfold World.preludeUnits
      rw [hown rfl]
    simp only [reduceIte, hunits]
    refine bind_at rfl fun units hu => ?_
    obtain rfl := Except.ok.inj hu
    exact loadUnitsBy_bundled_at (freshStore_defining scoping)

end Session

end CurriedLisp
