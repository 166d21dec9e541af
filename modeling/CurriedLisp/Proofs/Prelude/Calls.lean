import CurriedLisp.Proofs.Eval.Quiet
import CurriedLisp.Proofs.Number.Counting
import CurriedLisp.Proofs.Prelude.InForce

namespace CurriedLisp

open Eval

local instance : Coe String Value := ⟨.symbol⟩

namespace Prelude

/-- Functions of the prelude can be called from the frame: the prelude is in force there, and also where their
own frames are linked. -/
structure Usable (c : Option FrameId) (s : State) (env : FrameId) : Prop where
  here : InForce c s.store env
  home : InForce c s.store (c.getD env)

variable {κ : Succession} {files : Files} {c : Option FrameId} {s t : State} {env : FrameId}
  {n m enough : Nat} {name : String} {formals : List String} {items body args : List Value} {a e v : Value}
  {own : Bindings} {P Q : Value → Prop} {Ps : List (Value → Prop)}

lemma Usable.of_within (h : Usable c s env) (ht : s.store.Within t.store) : Usable c t env where
  here := h.here.of_kept fun _ _ _ hv => ht.get? hv
  home := h.home.of_kept fun _ _ _ hv => ht.get? hv

lemma Usable.inside {frame : FrameId} (h : Usable c s env)
    (hf : s.store.frame? frame = some { bindings := own, outer := some (c.getD env) })
    (hown : ∀ name ∈ own.names, name ∉ words) : Usable c s frame := by
  have hhere : InForce c s.store frame := by
    refine h.home.of_kept fun name hword v hv => ?_
    have hnew : own.find? name = none := Bindings.find?_eq_none_iff.mpr fun hname => hown name hname hword
    rw [Store.get?_of_frame? hf, hnew, Option.none_or]
    exact hv
  refine ⟨hhere, ?_⟩
  cases c with
  | none => exact hhere
  | some g => exact h.home

lemma takes_function (hu : Usable c s env) (hb : bindFormals [] formals (a :: args) = .complete own)
    (hformals : ∀ name ∈ formals, name ∉ words)
    (h : ∀ t frame, κ.follows s t → Usable c t frame →
      t.store.frame? frame = some { bindings := own, outer := some (c.getD env) } →
        Gives κ files n t frame (.sexpr body) P) :
    Takes κ files (n + 3) s env (.lambda formals body [] c :: a :: args) P := by
  refine takes_lambda hb fun t ht => ?_
  have hext := t.extends_framed own (c.getD env)
  have hnow := hu.of_within (κ.within ht)
  have hframe := t.frame?_framed own (State.isSome_of_get? (hnow.home.builtin .eval))
  have hnames : ∀ name ∈ own.names, name ∉ words := by
    intro name hname
    rcases names_of_complete hb name hname with hempty | hformal
    · cases hempty
    · exact hformals name hformal
  exact h _ _ (κ.trans ht (κ.of_extends hext)) ((hnow.of_within hext.frames).inside hframe hnames) hframe

lemma Usable.gives_builtin (hu : Usable c s env) (op : Builtin)
    (h : GivesAll κ files n s env (e :: items) (P :: Ps))
    (ha : ∀ a args, P a → HaveEach Ps args → Takes κ files m s env (.ofBuiltin op :: a :: args) Q)
    (hn : n + 2 ≤ enough) (hm : m + 1 ≤ enough) : Gives κ files enough s env (.sexpr (op.name :: e :: items)) Q := by
  have hop : Gives κ files 1 s env op.name fun v => v = .ofBuiltin op ∧ v.isError = false :=
    gives_item (fun t ht => yields_symbol ((hu.of_within (κ.within ht)).here.builtin op)) rfl
  refine gives_call (.cons (hop.mono h.pos) h) (fun vs hvs => ?_) hn hm
  obtain _ | @⟨_, _, _, _, rfl, hvs⟩ := hvs
  obtain _ | ⟨hv, hrest⟩ := hvs
  exact ha _ _ hv hrest

lemma Usable.gives_function (hu : Usable c s env) (m : Nat)
    (hform : function (name :: formals) body ∈ program) (h : GivesAll κ files n s env (e :: items) (P :: Ps))
    (hformals : ∀ name ∈ formals, name ∉ words)
    (hbody : ∀ a args, P a → HaveEach Ps args → ∃ own, bindFormals [] formals (a :: args) = .complete own ∧
      ∀ t frame, κ.follows s t → Usable c t frame →
        t.store.frame? frame = some { bindings := own, outer := some (c.getD env) } →
          Gives κ files m t frame (.sexpr body) Q)
    (hn : n + 2 ≤ enough) (hm : m + 4 ≤ enough) : Gives κ files enough s env (.sexpr (name :: e :: items)) Q := by
  have hname : Gives κ files 1 s env name fun v => v = .lambda formals body [] c ∧ v.isError = false := by
    refine gives_item (fun t ht => ?_) rfl
    exact yields_symbol ((hu.of_within (κ.within ht)).here.definition _ hform _ _ (.function name formals body))
  refine gives_call (.cons (hname.mono h.pos) h) (fun vs hvs => ?_) hn hm
  obtain _ | @⟨_, _, _, _, rfl, hvs⟩ := hvs
  obtain _ | ⟨hv, hrest⟩ := hvs
  obtain ⟨own, hb, hinside⟩ := hbody _ _ hv hrest
  exact takes_function hu hb hformals hinside

lemma Usable.call_builtin (hu : Usable c s env) (op : Builtin)
    (h : YieldsAll files n s env (e :: items) (a :: args))
    (ha : Applies files m s env (.ofBuiltin op :: a :: args) v)
    (hn : n + 2 ≤ enough) (hm : m + 1 ≤ enough) : Yields files enough s env (.sexpr (op.name :: e :: items)) v := by
  refine .of_attains (hu.gives_builtin op h.givesAll (fun b bs hb hbs => ?_) hn hm)
  rw [show b = a from hb, eq_of_haveEach hbs]
  exact ha.attains_quiet

lemma Usable.call_function (hu : Usable c s env) (m : Nat) (hform : function (name :: formals) body ∈ program)
    (h : YieldsAll files n s env (e :: items) (a :: args)) (hb : bindFormals [] formals (a :: args) = .complete own)
    (hformals : ∀ name ∈ formals, name ∉ words) (hn : n + 2 ≤ enough) (hm : m + 4 ≤ enough)
    (hbody : ∀ t frame, s.Extends t → Usable c t frame →
      (∀ name v, own.find? name = some v → t.store.get? frame name = some v) →
        Yields files m t frame (.sexpr body) v) :
    Yields files enough s env (.sexpr (name :: e :: items)) v := by
  refine .of_attains (hu.gives_function m hform h.givesAll hformals (fun b bs hb' hbs => ?_) hn hm)
  rw [show b = a from hb', eq_of_haveEach hbs]
  refine ⟨own, hb, fun t frame ht hu hf => (hbody t frame ht hu fun name v hv => ?_).attains_quiet⟩
  rw [Store.get?_of_frame? hf, hv, Option.some_or]

lemma yields_group (h : Yields files n s env e v) (hv : v.isError = false) :
    Yields files (n + 2) s env (.sexpr [e]) v :=
  yields_call (.cons ⟨h, hv⟩ .nil) (applies_single v) le_rfl (Nat.le_add_left 1 (n + 1))

lemma yields_number (x : Number) (hn : 1 ≤ n) : Yields files n s env (.number x) (.number x) :=
  (yields_settled (v := .number x) (.inl trivial)).mono hn

lemma yields_qexpr (l : List Value) (hn : 1 ≤ n) : Yields files n s env (.qexpr l) (.qexpr l) :=
  (yields_settled (v := .qexpr l) (.inl trivial)).mono hn

def Lists (X : List Value → Prop) (v : Value) : Prop := ∃ l, v = .qexpr l ∧ X l

def Decides (b : Bool) (v : Value) : Prop := ∃ x, v = .number x ∧ x.isTrue = b

lemma decides_truth (b : Bool) : Decides b (truth b) := by
  refine ⟨_, rfl, ?_⟩
  rw [Number.isTrue, Number.isZero_ofNat (by cases b <;> decide)]
  cases b <;> rfl

lemma yields_nil (hu : Usable c s env) : Yields files 3 s env (.sexpr ["nil"]) (.qexpr []) :=
  yields_group (yields_symbol hu.here.nil) rfl

section Steps

variable (hu : Usable c s env) {l rest yes no empty other zero : List Value} {x : Number} {b : Bool}
include hu

lemma yields_headOf (h : Yields files n s env e (.qexpr (v :: rest))) :
    Yields files (n + 2) s env (headOf e) (.qexpr [v]) :=
  hu.call_builtin .head (.cons ⟨h, rfl⟩ .nil) (applies_give fun _ => rfl) le_rfl (Nat.le_add_left 1 _)

lemma yields_tailOf (h : Yields files n s env e (.qexpr (v :: rest))) :
    Yields files (n + 2) s env (tailOf e) (.qexpr rest) :=
  hu.call_builtin .tail (.cons ⟨h, rfl⟩ .nil) (applies_give fun _ => rfl) le_rfl (Nat.le_add_left 1 _)

lemma yields_headOf_nil (h : Yields files n s env e (.qexpr [])) :
    Yields files (n + 2) s env (headOf e) (Complaint.emptyList "head").value :=
  hu.call_builtin .head (.cons ⟨h, rfl⟩ .nil) (applies_complaint fun _ => rfl) le_rfl (Nat.le_add_left 1 _)

lemma yields_tailOf_nil (h : Yields files n s env e (.qexpr [])) :
    Yields files (n + 2) s env (tailOf e) (Complaint.emptyList "tail").value :=
  hu.call_builtin .tail (.cons ⟨h, rfl⟩ .nil) (applies_complaint fun _ => rfl) le_rfl (Nat.le_add_left 1 _)

lemma yields_oneLess (h : Yields files n s env e (.number x)) (hx : x.isNan = false) :
    Yields files (n + 2) s env (oneLess e) (.number (x.sub (.ofNat 1))) :=
  hu.call_builtin (.arithmetic .sub) (.cons ⟨h, rfl⟩ (.cons ⟨yields_number _ (enough_pos h), rfl⟩ .nil))
    (applies_compute (fun _ => rfl) (Number.isNan_sub_one hx)) le_rfl (Nat.le_add_left 1 _)

lemma yields_oneMore (h : Yields files n s env e (.number x)) (hx : ((Number.ofNat 1).add x).isNan = false) :
    Yields files (n + 2) s env (.sexpr ["+", number 1, e]) (.number ((Number.ofNat 1).add x)) :=
  hu.call_builtin (.arithmetic .add) (.cons ⟨yields_number _ (enough_pos h), rfl⟩ (.cons ⟨h, rfl⟩ .nil))
    (applies_compute (fun _ => rfl) hx) le_rfl (Nat.le_add_left 1 _)

lemma gives_singleton (h : Gives κ files n s env e fun v => P v ∧ v.isError = false) :
    Gives κ files (n + 2) s env (.sexpr ["list", e]) (Lists fun l => ∃ v, P v ∧ l = [v]) := by
  refine hu.gives_builtin .list (m := 0) (.cons h .nil) (fun v args hv hargs => ?_) le_rfl (Nat.le_add_left 1 _)
  obtain _ | _ := hargs
  refine (Quietly.attains (.inr rfl) fun _ _ => applies_give fun _ => rfl).imp ?_
  rintro _ rfl
  exact ⟨_, rfl, v, hv, rfl⟩

lemma gives_join {X Y : List Value → Prop} {e' : Value} (hx : Gives κ files n s env e (Lists X))
    (hy : Gives κ files n s env e' (Lists Y)) :
    Gives κ files (n + 2) s env (.sexpr ["join", e, e']) (Lists fun l => ∃ xs ys, X xs ∧ Y ys ∧ l = xs ++ ys) := by
  have hne : ∀ {X : List Value → Prop} v, Lists X v → Lists X v ∧ v.isError = false := by
    rintro X _ ⟨l, rfl, hl⟩
    exact ⟨⟨l, rfl, hl⟩, rfl⟩
  refine hu.gives_builtin .join (m := 0) (.cons (hx.imp hne) (.cons (hy.imp hne) .nil)) (fun v args hv hargs => ?_)
    le_rfl (Nat.le_add_left 1 _)
  obtain ⟨xs, rfl, hxs⟩ := hv
  obtain _ | ⟨⟨ys, rfl, hys⟩, _ | _⟩ := hargs
  have haction : ∀ st, Builtin.join.action st env [.qexpr xs, .qexpr ys] = .ok (.give (.qexpr (xs ++ ys))) := by
    intro st
    simp [Builtin.action, Contract.nonEmpty, Contract.items, Contract.each, bind, Except.bind]
  refine (Quietly.attains (.inr rfl) fun _ _ => applies_give haction).imp ?_
  rintro _ rfl
  exact ⟨_, rfl, xs, ys, hxs, hys, rfl⟩

lemma yields_join {xs ys : List Value} {e' : Value} (hx : Yields files n s env e (.qexpr xs))
    (hy : Yields files n s env e' (.qexpr ys)) :
    Yields files (n + 2) s env (.sexpr ["join", e, e']) (.qexpr (xs ++ ys)) := by
  have hlist : ∀ {e l}, Yields files n s env e (.qexpr l) → Gives .quiet files n s env e (Lists (· = l)) :=
    fun h => h.attains_quiet.imp fun v hv => ⟨_, hv, rfl⟩
  refine .of_attains ((gives_join hu (hlist hx) (hlist hy)).imp ?_)
  rintro _ ⟨_, rfl, _, _, rfl, rfl, rfl⟩
  rfl

lemma yields_evalHead (h : Yields files n s env e (.qexpr (v :: rest))) (hv : v.Settled) (hn : n + 4 ≤ enough)
    (hm : 9 ≤ enough) : Yields files enough s env (.sexpr ["eval", headOf e]) v :=
  hu.call_builtin .eval (.cons ⟨yields_headOf hu h, rfl⟩ .nil)
    (applies_operand (fun _ => rfl) (yields_group (yields_settled (.inl hv)) hv.isError)) hn hm

lemma yields_evalHead_nil (h : Yields files n s env e (.qexpr [])) :
    Yields files (n + 4) s env (.sexpr ["eval", headOf e]) (Complaint.emptyList "head").value :=
  yields_call_error (.cons ⟨(yields_symbol (hu.here.builtin .eval)).mono (Nat.le_add_left 1 _), rfl⟩ .nil)
    (yields_headOf_nil hu h) []

lemma gives_if (hc : Gives κ files n s env e (Decides b))
    (h : Gives κ files m s env (.sexpr (if b then yes else no)) P) (hn : n + 2 ≤ enough) (hm : m + 6 ≤ enough) :
    Gives κ files enough s env (.sexpr ["if", e, .qexpr yes, .qexpr no]) P := by
  have haction : ∀ x : Number, x.isTrue = b → ∀ st,
      Builtin.cond.action st env [.number x, .qexpr yes, .qexpr no] = .ok (.call (if b then yes else no)) := by
    rintro x rfl st
    show Builtin.condAction [.number x, .qexpr yes, .qexpr no] = _
    simp [Builtin.condAction, Contract.number, Contract.items, Contract.each, bind, Except.bind]
  have hbranch : ∀ l, Gives κ files n s env (.qexpr l) fun v => v = .qexpr l ∧ v.isError = false := fun l =>
    Attains.mono (gives_item (fun _ _ => yields_qexpr l le_rfl) rfl) (Gives.pos hc)
  have hcond : Gives κ files n s env e fun v => Decides b v ∧ v.isError = false := by
    refine hc.imp fun v hv => ⟨hv, ?_⟩
    obtain ⟨x, rfl, -⟩ := hv
    rfl
  refine hu.gives_builtin .cond (.cons hcond (.cons (hbranch yes) (.cons (hbranch no) .nil)))
    (fun v args hv hargs => ?_) hn hm
  obtain ⟨x, rfl, hx⟩ := hv
  obtain _ | ⟨rfl, _ | ⟨rfl, _ | _⟩⟩ := hargs
  exact takes_operand (haction x hx) h

lemma yields_if (hc : Yields files n s env e (truth b))
    (h : Yields files m s env (.sexpr (if b then yes else no)) v) (hn : n + 2 ≤ enough) (hm : m + 6 ≤ enough) :
    Yields files enough s env (.sexpr ["if", e, .qexpr yes, .qexpr no]) v :=
  .of_attains (gives_if hu (hc.attains_quiet.imp fun _ hv => hv ▸ decides_truth b) h.attains_quiet
    hn hm)

lemma yields_isEmpty (hl : s.store.get? env "l" = some (.qexpr l)) :
    Yields files 3 s env (.sexpr ["==", "l", "nil"]) (truth l.isEmpty) := by
  have htest : (Value.qexpr l).equal (.qexpr []) = l.isEmpty := by cases l <;> rfl
  exact hu.call_builtin .equal (.cons ⟨yields_symbol hl, rfl⟩ (.cons ⟨yields_symbol hu.here.nil, rfl⟩ .nil))
    (applies_give fun _ => htest ▸ rfl) le_rfl (by decide)

lemma gives_byEmptiness (hl : s.store.get? env "l" = some (.qexpr l))
    (h : Gives κ files m s env (.sexpr (if l.isEmpty then empty else other)) P) :
    Gives κ files (m + 6) s env (.sexpr (byEmptiness empty other)) P := by
  have hc : Gives κ files 3 s env (.sexpr ["==", "l", "nil"]) (· = truth l.isEmpty) :=
    gives_of_yields fun t ht => yields_isEmpty (hu.of_within (κ.within ht)) ((κ.within ht).get? hl)
  exact gives_if hu (hc.imp fun _ hv => hv ▸ decides_truth _) h (by omega) le_rfl

lemma yields_byEmptiness (hl : s.store.get? env "l" = some (.qexpr l))
    (h : Yields files m s env (.sexpr (if l.isEmpty then empty else other)) v) :
    Yields files (m + 6) s env (.sexpr (byEmptiness empty other)) v :=
  .of_attains (gives_byEmptiness hu hl h.attains_quiet)

lemma yields_byZero (hx : s.store.get? env "n" = some (.number x))
    (h : Yields files m s env (.sexpr (if x.isZero then zero else other)) v) :
    Yields files (m + 6) s env (.sexpr (byZero zero other)) v := by
  have htest : (Value.number x).equal (number 0) = x.isZero := by
    rw [number, Number.ofNat_zero]
    rfl
  have hc : Yields files 3 s env (.sexpr ["==", "n", number 0]) (truth x.isZero) :=
    hu.call_builtin .equal (.cons ⟨yields_symbol hx, rfl⟩ (.cons ⟨yields_number _ le_rfl, rfl⟩ .nil))
      (applies_give fun _ => htest ▸ rfl) le_rfl (by decide)
  exact yields_if hu hc h (by omega) le_rfl

end Steps

end Prelude

open Session in
lemma Prelude.InForce.usable {scoping : Scoping} {t : State} (h : InForce (keptFrame scoping) t.store globalFrame) :
    Usable (keptFrame scoping) t globalFrame := by
  have hhome : (keptFrame scoping).getD globalFrame = globalFrame := by
    cases scoping <;> rfl
  exact ⟨h, hhome.symm ▸ h⟩

end CurriedLisp
