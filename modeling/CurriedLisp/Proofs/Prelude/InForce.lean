import CurriedLisp.Proofs.Eval.BuiltinEffects
import CurriedLisp.Proofs.Session.BundledPrelude
import CurriedLisp.Proofs.Session.Reachable

namespace CurriedLisp

open Eval

namespace Prelude

inductive Means (c : Option FrameId) : Value → String → Value → Prop where
  | constant (name : String) {v : Value} : v.Settled → Means c (define name v) name v
  | function (name : String) (formals : List String) (body : List Value) :
    Means c (function (name :: formals) body) name (.lambda formals body [] c)

def definedName : Value → String
  | .sexpr [_, .qexpr (.symbol name :: _), _] => name
  | _ => ""

def words : List String := Builtin.all.map Builtin.name ++ program.map definedName

structure InForce (c : Option FrameId) (s : Store) (env : FrameId) : Prop where
  builtin : ∀ op : Builtin, s.get? env op.name = some (.ofBuiltin op)
  definition : ∀ form ∈ program, ∀ name v, Means c form name v → s.get? env name = some v

variable {c : Option FrameId} {form v : Value} {name : String} {s t : Store} {env frame : FrameId}

lemma Means.definedName (h : Means c form name v) : definedName form = name := by
  cases h <;> rfl

lemma InForce.of_kept (h : InForce c s env)
    (hkept : ∀ name ∈ words, ∀ v, s.get? env name = some v → t.get? frame name = some v) : InForce c t frame where
  builtin op := by
    have hword : op.name ∈ words := List.mem_append_left _ (List.mem_map_of_mem op.mem_all)
    exact hkept _ hword _ (h.builtin op)
  definition form hform name v hv := by
    have hword : name ∈ words := hv.definedName ▸ List.mem_append_right _ (List.mem_map_of_mem hform)
    exact hkept _ hword _ (h.definition form hform name v hv)

lemma InForce.nil (h : InForce c s env) : s.get? env "nil" = some (.qexpr []) :=
  h.definition _ (by simp [program, constants]) _ _ (.constant "nil" trivial)

lemma words_nodup : words.Nodup := by decide +kernel

end Prelude

def Store.keptFrame (st : Store) (g : FrameId) : Option FrameId :=
  if st.scoping g = .lexical then some g else none

lemma Store.scoping_update (s : Store) (id i : FrameId) (change : Bindings → Bindings) :
    (s.update id change).scoping i = s.scoping i := by
  have hroot : (s.update id change).root i = s.root i := by rw [root, root, chain_update]
  rw [scoping, scoping, hroot, frame?_update]
  cases s.frame? (s.root i) with
  | none => rfl
  | some f => by_cases h : s.root i = id <;> simp [h]

open Prelude (Means definedName)

variable {files : Files} {room : Nat} {g : FrameId} {s : State} {form r w : Value} {name : String}
  {program : List Value} {sink : Sink}

section Binding

variable {op : Builtin} {a b : Value} (hs : s.store.EndsIn g g)
  (hop : s.store.get? g op.name = some (.ofBuiltin op)) (ha : a.Settled) (hb : b.Settled)
  (hbinds : Builtin.Binds s.store g op [a, b] .global [(name, w)])
include hs hop ha hb hbinds

lemma evaluate_binding_run (files : Files) (room : Nat) :
    result (evaluate files (room + 3) g (.sexpr [.symbol op.name, a, b])) s = .ok .nothing ∧
      final (evaluate files (room + 3) g (.sexpr [.symbol op.name, a, b])) s =
        { s with store := s.store.update g (·.putAll [(name, w)]) } := by
  have hsymbol : evaluate files (room + 1) g (.symbol op.name) s = (pure (.ofBuiltin op) : Eval Value) s := by
    obtain ⟨hresult, hfinal⟩ := @evaluate_symbol files room g s op.name
    rw [hop] at hresult
    exact Prod.ext hresult hfinal
  have hvalues : (evaluate files (room + 1)).withValues g [.symbol op.name, a, b]
      (evaluateValues files g (room + 2)) s = evaluateValues files g (room + 2) [.ofBuiltin op, a, b] s :=
    Evaluator.withValues_still (.cons ⟨hsymbol, rfl⟩ (.cons ⟨by rw [evaluate_eq_pure _ _ _ (.inl ha)], ha.isError⟩
      (.cons ⟨by rw [evaluate_eq_pure _ _ _ (.inl hb)], hb.isError⟩ .nil)))
  obtain ⟨hresult, hfinal⟩ := Evaluator.applyBuiltin_of_action files (room + 2)
    (fun less => evaluate files (room + 2 - less)) (Builtin.action_of_binds hbinds)
  rw [evaluate_sexpr]
  refine ⟨(congrArg Prod.fst hvalues).trans hresult, (congrArg Prod.snd hvalues).trans (hfinal.trans ?_)⟩
  show { s with store := s.store.update (s.store.root g) (·.putAll [(name, w)]) } = _
  rw [hs.root]

lemma evaluate_binding (hr : result (evaluate files room g (.sexpr [.symbol op.name, a, b])) s = .ok r) :
    final (evaluate files room g (.sexpr [.symbol op.name, a, b])) s =
      { s with store := s.store.update g (·.putAll [(name, w)]) } := by
  rcases room with - | - | - | room
  · cases hr
  · cases hr
  · cases hr
  exact (evaluate_binding_run hs hop ha hb hbinds files room).2

end Binding

lemma evaluate_means (hs : s.store.Defining g) (hm : Means (s.store.keptFrame g) form name w)
    (hr : result (evaluate files room g form) s = .ok r) :
    final (evaluate files room g form) s = { s with store := s.store.update g (·.putAll [(name, w)]) } := by
  cases hm with
  | constant name hv => exact evaluate_binding hs.outermost hs.define trivial hv (.define [(name, w)]) hr
  | function name formals body =>
    exact evaluate_binding hs.outermost hs.function trivial trivial (.function name formals body) hr

lemma evaluate_defined (hs : s.store.Defining g) (hform : Definition form) :
    (final (evaluate files room g form) s).store.keptFrame g = s.store.keptFrame g ∧
      ∀ other, other ≠ definedName form →
        (final (evaluate files room g form) s).store.get? g other = s.store.get? g other := by
  obtain ⟨op, name, symbols, v, hop, -, hv, rfl⟩ := hform
  rcases @evaluators_definition files room 0 g s v op name symbols hs hop hv with h | ⟨w, h⟩
  · rw [evaluate, h]
    exact ⟨rfl, fun _ _ => rfl⟩
  · rw [evaluate, h]
    refine ⟨?_, fun other hother => (Store.get?_bind hs.outermost name w other).trans (if_neg hother)⟩
    rw [Store.keptFrame, Store.scoping_update, Store.keptFrame]

lemma forms_inForce (hs : s.store.Defining g) (hp : ∀ form ∈ program, Definition form)
    (hnames : (program.map definedName).Nodup)
    (hr : result ((evaluate files room).forms g sink program) s = .ok ()) :
    (∀ form ∈ program, ∀ name v, Means (s.store.keptFrame g) form name v →
      (final ((evaluate files room).forms g sink program) s).store.get? g name = some v) ∧
    ∀ name ∉ program.map definedName,
      (final ((evaluate files room).forms g sink program) s).store.get? g name = s.store.get? g name := by
  induction program generalizing s with
  | nil => exact ⟨by simp, fun _ _ => rfl⟩
  | cons form rest ih =>
    obtain ⟨hnew, hrest⟩ := List.nodup_cons.mp hnames
    have hform := hp form List.mem_cons_self
    obtain ⟨r, hvalue, hr⟩ := bind_eq_ok_iff.mp hr
    obtain ⟨hkept, hothers⟩ := @evaluate_defined files room g s form hs hform
    have hdefining := @evaluators_defining files room 0 g s form hs hform
    -- The report on an error leaves the store as it is.
    obtain ⟨u, hu, hnext, hfinal⟩ : ∃ u : State, u.store = (final (evaluate files room g form) s).store ∧
        result ((evaluate files room).forms g sink rest) u = .ok () ∧
        final ((evaluate files room).forms g sink (form :: rest)) s =
          final ((evaluate files room).forms g sink rest) u := by
      rw [Evaluator.forms, (bind_of_ok hvalue).2]
      cases he : r.isError with
      | false =>
        rw [he] at hr
        exact ⟨_, rfl, hr, rfl⟩
      | true =>
        rw [he] at hr
        let t := final (evaluate files room g form) s
        exact ⟨final (Eval.write sink (r.display (t.store.builtinName? g) ++ "\n")) t, rfl, hr, rfl⟩
    have hlater := ih (hu ▸ hdefining) (fun form h => hp form (List.mem_cons_of_mem _ h)) hrest hnext
    rw [hfinal]
    rw [hu, hkept] at hlater
    refine ⟨fun other hother name v hm => ?_, fun name hname => ?_⟩
    · rcases List.mem_cons.mp hother with rfl | hother
      -- The forms that follow have other names, and leave what this one has defined.
      · rw [hlater.2 name (hm.definedName ▸ hnew), evaluate_means hs hm hvalue]
        exact (Store.get?_bind hs.outermost name v name).trans (if_pos rfl)
      · exact hlater.1 other hother name v hm
    · obtain ⟨hne, hname⟩ : name ≠ definedName form ∧ name ∉ rest.map definedName := by simpa using hname
      rw [hlater.2 name (by simpa using hname), hothers name hne]

namespace Session

def keptFrame (scoping : Scoping) : Option FrameId := if scoping = .lexical then some globalFrame else none

variable {w : World} {scoping : Scoping} {given : Option Scoping}

lemma loadUnitBy_bundled_run (hr : result (loadUnitBy w.evaluate w .bundled) s = .ok r) :
    r = .nothing ∧ ∃ u : State, u.store = s.store ∧
      result (w.evaluate.forms globalFrame .standard Prelude.program) u = .ok () ∧
      final (loadUnitBy w.evaluate w .bundled) s =
        final (w.evaluate.forms globalFrame .standard Prelude.program) u := by
  rw [loadUnitBy] at hr ⊢
  unfold Reading.within at hr ⊢
  split at hr
  · next h =>
    rw [if_pos h]
    let u := final (Eval.log (.loading Prelude.program.length Prelude.path)) s
    have hload : result (w.evaluate.forms globalFrame .standard Prelude.program >>= fun _ => pure .nothing) u =
        .ok r := hr
    obtain ⟨_, hforms, ⟨⟩⟩ := bind_eq_ok_iff.mp hload
    exact ⟨rfl, u, rfl, hforms, (bind_of_ok (f := fun _ => (pure .nothing : Eval Value)) hforms).2⟩
  · cases hr

lemma start_run (hsc : scopingFor w given = .ok scoping)
    (hown : Setting.nonEmpty w.vars "MLISP_PRELUDE_PATH" = none) (hr : result (start w given true) s = .ok ()) :
    ∃ u : State, u.store = freshStore scoping ∧
      result (w.evaluate.forms globalFrame .standard Prelude.program) u = .ok () ∧
      (final (start w given true) s).store =
        (final (w.evaluate.forms globalFrame .standard Prelude.program) u).store := by
  have hunits : w.preludeUnits = .ok [.bundled] := by
    unfold World.preludeUnits
    rw [hown]
  rw [start_eq hsc] at hr ⊢
  let t := final (Eval.log (.created scoping)) { s with store := freshStore scoping }
  have hbegin : beginBy w.evaluate w scoping true s = loadUnitsBy w.evaluate w [.bundled] t := by
    unfold beginBy
    rw [hunits]
    rfl
  obtain ⟨hresult, hfinal⟩ := run_eq hbegin
  rw [hresult] at hr
  rw [hfinal]
  obtain ⟨v, hv, -⟩ := bind_eq_ok_iff.mp hr
  obtain ⟨rfl, u, hu, hforms, hleft⟩ := loadUnitBy_bundled_run hv
  refine ⟨u, hu, hforms, ?_⟩
  rw [loadUnitsBy, (bind_of_ok hv).2, hleft]
  rfl

theorem inForce_start (hsc : scopingFor w given = .ok scoping)
    (hown : Setting.nonEmpty w.vars "MLISP_PRELUDE_PATH" = none) (hr : result (start w given true) s = .ok ()) :
    Prelude.InForce (keptFrame scoping) (final (start w given true) s).store globalFrame := by
  obtain ⟨u, hu, hforms, hfinal⟩ := start_run hsc hown hr
  have hnames := List.nodup_append.mp Prelude.words_nodup
  have hdefining : u.store.Defining globalFrame := hu ▸ freshStore_defining scoping
  obtain ⟨hdefined, hothers⟩ := forms_inForce hdefining prelude_definitions hnames.2.1 hforms
  have hkept : u.store.keptFrame globalFrame = keptFrame scoping := by
    rw [hu]
    rfl
  rw [hfinal]
  constructor
  · intro op
    have hword : op.name ∉ Prelude.program.map definedName :=
      fun h => hnames.2.2 _ (List.mem_map_of_mem op.mem_all) _ h rfl
    rw [World.evaluate, hothers _ hword, hu]
    cases op with
    | compare r => cases r <;> rfl
    | arithmetic o => cases o <;> rfl
    | _ => rfl
  · rw [hkept] at hdefined
    exact hdefined

/-- A session with the bundled prelude, after inputs that may have bound any names but those of the operations and
those that the prelude defines. -/
def KeepsPrelude (scoping : Scoping) (t : State) : Prop :=
  ∃ (w : World) (given : Option Scoping) (s : State), scopingFor w given = .ok scoping ∧
    Setting.nonEmpty w.vars "MLISP_PRELUDE_PATH" = none ∧ result (start w given true) s = .ok () ∧
    Relation.ReflTransGen (fun s t => ∃ w i, t = final (Input.run w i) s) (final (start w given true) s) t ∧
    ∀ name ∈ Prelude.words,
      t.store.get? globalFrame name = (final (start w given true) s).store.get? globalFrame name

lemma KeepsPrelude.reachable {t : State} (h : KeepsPrelude scoping t) : Reachable scoping t := by
  obtain ⟨w, given, s, hsc, -, hr, hinputs, -⟩ := h
  induction hinputs with
  | refl => exact .start w given true s hsc hr
  | tail _ hinput ih =>
    obtain ⟨w, i, rfl⟩ := hinput
    exact .input w i ih

lemma KeepsPrelude.inForce {t : State} (h : KeepsPrelude scoping t) :
    Prelude.InForce (keptFrame scoping) t.store globalFrame := by
  obtain ⟨w, given, s, hsc, hown, hr, -, hkept⟩ := h
  exact (inForce_start hsc hown hr).of_kept fun name hname v hv => (hkept name hname).trans hv

end Session

end CurriedLisp
