import CurriedLisp.Proofs.Prelude.Lists
import CurriedLisp.Proofs.Session.NormalForms

namespace CurriedLisp

open Eval
open Session (globalFrame)

local instance : Coe String Value := ⟨.symbol⟩

inductive Folds (H : Value → Value → Value → Prop) : Value → List Value → Value → Prop
  | nil (z : Value) : Folds H z [] z
  | cons {z z' v x : Value} {rest : List Value} : H z x z' → Folds H z' rest v → Folds H z (x :: rest) v

lemma folds_iff {h : Value → Value → Value} {z v : Value} {l : List Value} :
    Folds (fun z x v => v = h z x) z l v ↔ v = l.foldl h z := by
  induction l generalizing z with
  | nil =>
    refine ⟨fun hv => ?_, fun hv => hv ▸ .nil z⟩
    cases hv
    rfl
  | cons x rest ih =>
    refine ⟨fun hv => ?_, fun hv => .cons rfl (ih.mpr hv)⟩
    obtain _ | ⟨rfl, hrest⟩ := hv
    exact ih.mp hrest

lemma forall₂_flatten {G : Value → Value → Prop} {l : List Value} {wss : List (List Value)}
    (h : List.Forall₂ (fun x ws => ∃ v, G x v ∧ ws = [v]) l wss) : List.Forall₂ G l wss.flatten := by
  induction h with
  | nil => exact .nil
  | cons hx _ ih =>
    obtain ⟨v, hv, rfl⟩ := hx
    exact .cons hv ih

lemma flatten_eq_filter {p : Value → Bool} {l : List Value} {wss : List (List Value)}
    (h : List.Forall₂ (fun x ws => ws = if p x then [x] else []) l wss) : wss.flatten = l.filter p := by
  induction h with
  | nil => rfl
  | @cons x _ _ _ hx _ ih =>
    obtain rfl := hx
    rw [List.flatten_cons, ih, List.filter_cons]
    cases p x <;> rfl

namespace Prelude

/-- A frame of a session from which all names look as they do from the global one, unless functions of the prelude
that take functions have formals of that name. -/
structure Around (s : Store) (env : FrameId) : Prop where
  session : s.EndsIn env globalFrame
  others : ∀ name ∉ ["f", "z", "l"], s.get? env name = s.get? globalFrame name

/-- In all states that come after `s`, and wherever a function of the prelude calls `f` with the arguments, the call
comes to a value with the property, which is no error; no text is written, and frames that are there stay as they
are. If there is a bound, this is so with room for `m` levels, and else in whatever room the call does not go too
deep. -/
def Answers (files : Files) (s : State) (bounded : Bool) (m : Nat) (f : Value) (args : List Value)
    (P : Value → Prop) : Prop :=
  ∀ t env, s.Spares t → Around t.store env → ∀ room,
    (∃ v, result (Evaluator.apply files room (fun less => evaluate files (room - less)) env args f) t = .ok v ∧
      (P v ∧ v.isError = false) ∧
      t.Spares (final (Evaluator.apply files room (fun less => evaluate files (room - less)) env args f) t)) ∨
    Cut bounded m room
      (result (Evaluator.apply files room (fun less => evaluate files (room - less)) env args f) t)

variable {files : Files} {c : Option FrameId} {s₀ s t : State} {env frame : FrameId} {n m k enough : Nat}
  {f x v z e ef ez el : Value} {args rest l : List Value} {own : Bindings} {P Z : Value → Prop}
  {bounded : Bool}

lemma Around.of_within (h : Around s.store env) (ht : s.store.Within t.store) : Around t.store env where
  session := ht.endsIn h.session
  others name hname := by
    rw [ht.get?_eq h.session.isSome, ht.get?_eq h.session.self.isSome, h.others name hname]

structure Standing (c : Option FrameId) (s₀ s : State) (env : FrameId) : Prop where
  since : s₀.Spares s
  usable : Usable c s env
  here : Around s.store env
  home : Around s.store (c.getD env)

lemma Standing.of_spares (h : Standing c s₀ s env) (ht : s.Spares t) : Standing c s₀ t env where
  since := h.since.trans ht
  usable := h.usable.of_within ht.within
  here := h.here.of_within ht.within
  home := h.home.of_within ht.within

lemma Standing.inside (h : Standing c s₀ s env) (ht : s.Spares t) (hu : Usable c t frame)
    (hf : t.store.frame? frame = some { bindings := own, outer := some (c.getD env) })
    (hown : ∀ name ∈ own.names, name ∈ ["f", "z", "l"]) : Standing c s₀ t frame := by
  have hhome := (h.of_spares ht).home
  have hhere : Around t.store frame := by
    refine ⟨(Store.endsIn_of_outer_some hf rfl).mpr hhome.session, fun name hname => ?_⟩
    have hnew : own.find? name = none := Bindings.find?_eq_none_iff.mpr fun h => hname (hown name h)
    rw [Store.get?_of_frame? hf, hnew, Option.none_or]
    exact hhome.others name hname
  refine ⟨h.since.trans ht, hu, hhere, ?_⟩
  -- Under dynamic scoping the next function is called from this frame, under lexical scoping from the global one.
  cases c with
  | none => exact hhere
  | some g => exact hhome

lemma Answers.imp {Q : Value → Prop} (h : Answers files s bounded m f args P) (hPQ : ∀ v, P v → Q v) :
    Answers files s bounded m f args Q := by
  intro t env ht he room
  refine (h t env ht he room).imp_left ?_
  rintro ⟨v, hresult, ⟨hv, hne⟩, hleft⟩
  exact ⟨v, hresult, ⟨hPQ v hv, hne⟩, hleft⟩

lemma Answers.takes {a : Value} (h : Answers files s₀ bounded m f (a :: args) P) (hs : Standing c s₀ s env) :
    Takes (.sparing bounded) files m s env (f :: a :: args) fun v => P v ∧ v.isError = false :=
  fun t ht => h t env (hs.since.trans ht) (hs.of_spares ht).here

lemma Answers.of_applies {a : Value} (hv : v.isError = false)
    (h : ∀ t env, s.Spares t → Around t.store env → Applies files m t env (f :: a :: args) v) :
    Answers files s true m f (a :: args) (· = v) := by
  intro t env ht he room
  rcases Nat.lt_or_ge room m with hroom | hroom
  · exact .inr hroom
  · obtain ⟨hresult, hleft⟩ := h t env ht he t (.refl t) room hroom
    exact .inl ⟨v, hresult, ⟨rfl, hv⟩, .of_extends hleft⟩

structure Stepping (c : Option FrameId) (s₀ t : State) (frame : FrameId) (f : Value) (l : List Value) : Prop where
  standing : Standing c s₀ t frame
  function : t.store.get? frame "f" = some f
  list : t.store.get? frame "l" = some (.qexpr l)

namespace Stepping

lemma of_frame (hs : Standing c s₀ s env) (ht : s.Spares t) (hu : Usable c t frame)
    (hframe : t.store.frame? frame = some { bindings := own, outer := some (c.getD env) })
    (hown : ∀ name ∈ own.names, name ∈ ["f", "z", "l"]) (hf : own.find? "f" = some f)
    (hl : own.find? "l" = some (.qexpr l)) : Stepping c s₀ t frame f l where
  standing := hs.inside ht hu hframe hown
  function := by rw [Store.get?_of_frame? hframe, hf, Option.some_or]
  list := by rw [Store.get?_of_frame? hframe, hl, Option.some_or]

lemma gives_name {name : String} (h : s.store.get? env name = some v) (hv : v.isError = false) (hn : 1 ≤ n) :
    Gives (.sparing bounded) files n s env name fun w => w = v ∧ w.isError = false :=
  gives_item (fun _ ht => (yields_symbol (ht.within.get? h)).mono hn) hv

lemma gives_function (h : Stepping c s₀ s env f l) (hf : f.isError = false) (hn : 1 ≤ n) :
    Gives (.sparing bounded) files n s env "f" fun w => w = f ∧ w.isError = false :=
  gives_name h.function hf hn

lemma gives_first (h : Stepping c s₀ s env f (x :: rest)) (hx : x.Settled) (hn : 13 ≤ n) :
    Gives (.sparing bounded) files n s env (firstOf "l") fun w => w = x ∧ w.isError = false := by
  refine gives_item (fun t ht => ?_) hx.isError
  exact yields_fst (h.standing.of_spares ht).usable hx (by omega) hn (yields_symbol (ht.within.get? h.list))

lemma gives_tail (h : Stepping c s₀ s env f (x :: rest)) (hn : 3 ≤ n) :
    Gives (.sparing bounded) files n s env (tailOf "l") fun w => w = .qexpr rest ∧ w.isError = false := by
  refine gives_item (fun t ht => ?_) rfl
  exact (yields_tailOf (h.standing.of_spares ht).usable (yields_symbol (ht.within.get? h.list))).mono hn

lemma gives_call (h : Stepping c s₀ s env f l) {items : List Value} {a : Value} (hf : f.isError = false)
    (hanswer : Answers files s₀ bounded m f (a :: args) P)
    (hitems : GivesAll (.sparing bounded) files 13 s env items ((a :: args).map fun v w => w = v)) :
    Gives (.sparing bounded) files (m + 15) s env (.sexpr ("f" :: items)) fun v => P v ∧ v.isError = false := by
  refine CurriedLisp.gives_call (.cons (h.gives_function hf (by decide)) hitems) (fun vs hvs => ?_)
    (Nat.le_add_left 15 m) (Nat.add_le_add_left (by decide) m)
  obtain _ | ⟨rfl, hvs⟩ := hvs
  rw [eq_of_haveEach hvs]
  exact hanswer.takes h.standing

end Stepping

lemma foldl_mem_program : function ["foldl", "f", "z", "l"]
    (byEmptiness ["z"] ["foldl", "f", .sexpr ["f", "z", firstOf "l"], tailOf "l"]) ∈ program := by
  simp [program, folding]

section Calls

variable (hs : Standing c s₀ s env) (hf : f.isError = false)
  (hfun : Gives (.sparing bounded) files n s env ef (· = f))
  (hlist : Gives (.sparing bounded) files n s env el (· = .qexpr l))
  (hn : n + 2 ≤ enough)
include hs hf hfun hlist hn

lemma gives_stepping {name : String} {empty other : List Value} (j : Nat)
    (hform : function [name, "f", "l"] (byEmptiness empty other) ∈ program) (hj : j + 10 ≤ enough)
    (hbranch : ∀ t frame, Stepping c s₀ t frame f l →
      Gives (.sparing bounded) files j t frame (.sexpr (if l.isEmpty then empty else other)) P) :
    Gives (.sparing bounded) files enough s env (.sexpr [name, ef, el]) P := by
  refine hs.usable.gives_function (j + 6) hform
    (.cons (hfun.imp fun _ hv => ⟨hv, hv ▸ hf⟩) (.cons (hlist.imp fun _ hv => ⟨hv, hv ▸ rfl⟩) .nil))
    (by decide +kernel) (fun a args ha hargs => ?_) hn hj
  obtain rfl := ha
  obtain _ | ⟨rfl, _ | _⟩ := hargs
  refine ⟨[("f", a), ("l", .qexpr l)], rfl, fun t frame ht hu hframe => ?_⟩
  have hstep : Stepping c s₀ t frame a l := .of_frame hs ht hu hframe (by simp [Bindings.names]) rfl rfl
  exact gives_byEmptiness hu hstep.list (hbranch t frame hstep)

lemma gives_joined {name : String} (part : Value) {K : Value → List Value → Prop}
    (hform : function [name, "f", "l"] (byEmptiness ["nil"] ["join", part, .sexpr [name, "f", tailOf "l"]]) ∈ program)
    (hpart : ∀ x ∈ l, ∀ t frame rest, Stepping c s₀ t frame f (x :: rest) →
      Gives (.sparing bounded) files k t frame part (Lists (K x)))
    (hk : 13 ≤ k) (hm : 12 * l.length + k ≤ enough) :
    Gives (.sparing bounded) files enough s env (.sexpr [name, ef, el])
      (Lists fun vs => ∃ wss, List.Forall₂ K l wss ∧ vs = wss.flatten) := by
  induction l generalizing s env ef el n enough with
  | nil =>
    refine gives_stepping hs hf hfun hlist hn 3 hform (by omega) fun t frame hstep => ?_
    refine (gives_of_yields fun u hu => ?_).imp fun v hv => ⟨[], hv, [], .nil, rfl⟩
    exact yields_nil (hstep.standing.of_spares hu).usable
  | cons x rest ih =>
    rw [List.length_cons] at hm
    refine gives_stepping hs hf hfun hlist hn (12 * rest.length + k + 2) hform (by omega) fun t frame hstep => ?_
    have hfirst := hpart x List.mem_cons_self t frame rest hstep
    have hrest := ih hstep.standing ((hstep.gives_function hf (n := 3) (by decide)).imp fun _ hv => hv.1)
      ((hstep.gives_tail le_rfl).imp fun _ hv => hv.1) (by omega : 5 ≤ 12 * rest.length + k)
      (fun y hy => hpart y (List.mem_cons_of_mem x hy)) le_rfl
    refine (gives_join hstep.standing.usable (hfirst.mono fun _ => Nat.le_add_left k _) hrest).imp ?_
    rintro _ ⟨_, rfl, ws, _, hws, ⟨wss, hwss, rfl⟩, rfl⟩
    exact ⟨_, rfl, ws :: wss, .cons hws hwss, rfl⟩

lemma gives_map {G : Value → Value → Prop} (hl : ∀ x ∈ l, x.Settled)
    (hcall : ∀ x ∈ l, Answers files s₀ bounded m f [x] (G x)) (hm : 12 * l.length + m + 17 ≤ enough) :
    Gives (.sparing bounded) files enough s env (.sexpr ["map", ef, el]) (Lists (List.Forall₂ G l)) := by
  refine (gives_joined hs hf hfun hlist hn (.sexpr ["list", .sexpr ["f", firstOf "l"]]) (k := m + 17)
    (K := fun x ws => ∃ v, G x v ∧ ws = [v]) (by simp [program, folding]) (fun x hx t frame rest hstep => ?_)
    (by omega) (by omega)).imp ?_
  · have hitem := hstep.gives_call hf (hcall x hx) (.cons (hstep.gives_first (hl x hx) le_rfl) .nil)
    exact gives_singleton hstep.standing.usable hitem
  · rintro _ ⟨_, rfl, wss, hwss, rfl⟩
    exact ⟨_, rfl, forall₂_flatten hwss⟩

lemma gives_filter {p : Value → Bool} (hl : ∀ x ∈ l, x.Settled)
    (hcall : ∀ x ∈ l, Answers files s₀ bounded m f [x] (Decides (p x))) (hm : 12 * l.length + m + 17 ≤ enough) :
    Gives (.sparing bounded) files enough s env (.sexpr ["filter", ef, el]) (· = .qexpr (l.filter p)) := by
  refine (gives_joined hs hf hfun hlist hn
    (.sexpr ["if", .sexpr ["f", firstOf "l"], .qexpr ["head", "l"], .qexpr ["nil"]]) (k := m + 17)
    (K := fun x ws => ws = if p x then [x] else []) (by simp [program, folding])
    (fun x hx t frame rest hstep => ?_) (by omega) (by omega)).imp ?_
  · have hitem := hstep.gives_call hf (hcall x hx) (.cons (hstep.gives_first (hl x hx) le_rfl) .nil)
    refine gives_if hstep.standing.usable (hitem.imp fun _ hv => hv.1) (m := 3) ?_ le_rfl (by omega)
    refine (gives_of_yields fun u hu => ?_ : Gives _ _ _ _ _ _
      (· = .qexpr (if p x then [x] else []))).imp fun v hv => ⟨_, hv, rfl⟩
    have hus := (hstep.standing.of_spares hu).usable
    cases p x with
    | true => exact yields_headOf hus (yields_symbol (hu.within.get? hstep.list))
    | false => exact yields_nil hus
  · rintro _ ⟨_, rfl, wss, hwss, rfl⟩
    rw [flatten_eq_filter hwss]

lemma gives_accumulating (j : Nat) (hz : Gives (.sparing bounded) files n s env ez fun z => Z z ∧ z.isError = false)
    (hj : j + 10 ≤ enough)
    (hbranch : ∀ t frame z, Stepping c s₀ t frame f l → Z z → z.isError = false →
      t.store.get? frame "z" = some z → Gives (.sparing bounded) files j t frame
        (.sexpr (if l.isEmpty then ["z"] else ["foldl", "f", .sexpr ["f", "z", firstOf "l"], tailOf "l"])) P) :
    Gives (.sparing bounded) files enough s env (.sexpr ["foldl", ef, ez, el]) P := by
  refine hs.usable.gives_function (j + 6) foldl_mem_program
    (.cons (hfun.imp fun _ hv => ⟨hv, hv ▸ hf⟩)
      (.cons (hz.imp fun _ hv => ⟨hv, hv.2⟩) (.cons (hlist.imp fun _ hv => ⟨hv, hv ▸ rfl⟩) .nil)))
    (by decide +kernel) (fun a args ha hargs => ?_) hn hj
  obtain rfl := ha
  obtain _ | @⟨_, z, _, _, ⟨hZ, hne⟩, _ | ⟨rfl, _ | _⟩⟩ := hargs
  refine ⟨[("f", a), ("z", z), ("l", .qexpr l)], rfl, fun t frame ht hu hframe => ?_⟩
  have hstep : Stepping c s₀ t frame a l := .of_frame hs ht hu hframe (by simp [Bindings.names]) rfl rfl
  have hname : t.store.get? frame "z" = some z := by
    rw [Store.get?_of_frame? hframe]
    rfl
  exact gives_byEmptiness hu hstep.list (hbranch t frame z hstep hZ hne hname)

lemma gives_foldl {H : Value → Value → Value → Prop}
    (hz : Gives (.sparing bounded) files n s env ez fun z => Z z ∧ z.isError = false) (hl : ∀ x ∈ l, x.Settled)
    (hcall : ∀ z, Z z → ∀ left x right, l = left ++ x :: right → ∀ a, Folds H z left a →
      Answers files s₀ bounded m f [a, x] (H a x))
    (hm : 12 * l.length + m + 17 ≤ enough) :
    Gives (.sparing bounded) files enough s env (.sexpr ["foldl", ef, ez, el]) fun v => ∃ z, Z z ∧ Folds H z l v := by
  -- What is known of the accumulator changes on the way: after a step, it is what the step may have come to.
  induction l generalizing s env ef ez el n enough Z with
  | nil =>
    refine gives_accumulating hs hf hfun hlist hn 3 hz (by omega) fun t frame z _ hZ hne hname => ?_
    have hvalue : Gives (.sparing bounded) files 3 t frame (.sexpr ["z"]) (· = z) :=
      gives_of_yields fun u hu => yields_group (yields_symbol (hu.within.get? hname)) hne
    refine hvalue.imp ?_
    rintro _ rfl
    exact ⟨_, hZ, .nil _⟩
  | cons x rest ih =>
    rw [List.length_cons] at hm
    refine gives_accumulating hs hf hfun hlist hn (12 * rest.length + m + 17) hz (by omega)
      fun t frame z hstep hZ hne hname => ?_
    have hanswer : Answers files s₀ bounded m f [z, x] (H z x) := hcall z hZ [] x rest rfl z (.nil z)
    have hnext : Gives (.sparing bounded) files (m + 15) t frame (.sexpr ["f", "z", firstOf "l"])
        fun z' => H z x z' ∧ z'.isError = false :=
      hstep.gives_call hf hanswer (.cons (Stepping.gives_name hname hne (by decide))
        (.cons (hstep.gives_first (hl x List.mem_cons_self) le_rfl) .nil))
    refine Attains.imp (ih hstep.standing ((hstep.gives_function hf (by omega)).imp fun _ hv => hv.1)
      ((hstep.gives_tail (by omega)).imp fun _ hv => hv.1) (by omega : m + 15 + 2 ≤ 12 * rest.length + m + 17) hnext
      (fun y hy => hl y (List.mem_cons_of_mem x hy)) (fun z' hz' left y right hrest a ha => ?_) le_rfl) ?_
    · exact hcall z hZ (x :: left) y right (congrArg (x :: ·) hrest) a (.cons hz' ha)
    · rintro v ⟨z', hz', hv⟩
      exact ⟨z, hZ, .cons hz' hv⟩

end Calls

end Prelude

namespace Session

open Prelude (Answers Decides Lists Standing)

inductive Denotes (s : Store) : Value → Value → Prop
  | literal {v : Value} : v.Settled → Denotes s v v
  | name {name : String} {v : Value} : s.get? globalFrame name = some v → Denotes s name v

/-- The session evaluates the expression to a value with the property; it writes no text, and all frames stay as they
are. Or else it goes too deep, which with a bound it does only if it has less room than for `enough` levels. -/
def ComesToSome (w : World) (s : State) (bounded : Bool) (enough : Nat) (e : Value) (P : Value → Prop) : Prop :=
  (∃ v, result (evaluate w e) s = .ok v ∧ P v ∧ s.Spares (final (evaluate w e) s)) ∨
    (bounded = true → w.room < enough) ∧ result (evaluate w e) s = .error .tooDeep

/-- What the functions do that call a function `f` on the items of a list. First its values are given by a function,
then by a relation, as they have to be if some of them are `nan`, each of which has a mark of its own. If the calls
of `f` have a bound `m`, the whole has the bound `enough`. -/
structure HigherOrder (w : World) (s : State) (f : Value) (l : List Value) (bounded : Bool) (m enough : Nat) :
    Prop where
  map : ∀ g : Value → Value, (∀ x ∈ l, Answers w.files s bounded m f [x] (· = g x)) →
    ∀ ef el, Denotes s.store ef f → Denotes s.store el (.qexpr l) →
      ComesToSome w s bounded enough (.sexpr ["map", ef, el]) (· = .qexpr (l.map g))
  filter : ∀ g : Value → Number, (∀ x ∈ l, Answers w.files s bounded m f [x] (· = .number (g x))) →
    ∀ ef el, Denotes s.store ef f → Denotes s.store el (.qexpr l) →
      ComesToSome w s bounded enough (.sexpr ["filter", ef, el]) (· = .qexpr (l.filter fun x => !(g x).isZero))
  foldl : ∀ (h : Value → Value → Value) z, z.isError = false →
    (∀ left x right, l = left ++ x :: right →
      Answers w.files s bounded m f [left.foldl h z, x] (· = h (left.foldl h z) x)) →
    ∀ ef ez el, Denotes s.store ef f → Denotes s.store ez z → Denotes s.store el (.qexpr l) →
      ComesToSome w s bounded enough (.sexpr ["foldl", ef, ez, el]) (· = l.foldl h z)
  mapBy : ∀ G : Value → Value → Prop, (∀ x ∈ l, Answers w.files s bounded m f [x] (G x)) →
    ∀ ef el, Denotes s.store ef f → Denotes s.store el (.qexpr l) →
      ComesToSome w s bounded enough (.sexpr ["map", ef, el]) (Lists (List.Forall₂ G l))
  filterBy : ∀ p : Value → Bool, (∀ x ∈ l, Answers w.files s bounded m f [x] (Decides (p x))) →
    ∀ ef el, Denotes s.store ef f → Denotes s.store el (.qexpr l) →
      ComesToSome w s bounded enough (.sexpr ["filter", ef, el]) (· = .qexpr (l.filter p))
  foldlBy : ∀ (H : Value → Value → Value → Prop) z, z.isError = false →
    (∀ left x right, l = left ++ x :: right → ∀ a, Folds H z left a → Answers w.files s bounded m f [a, x] (H a x)) →
    ∀ ef ez el, Denotes s.store ef f → Denotes s.store ez z → Denotes s.store el (.qexpr l) →
      ComesToSome w s bounded enough (.sexpr ["foldl", ef, ez, el]) (Folds H z l)

variable {w : World} {s : State} {files : Files} {enough m : Nat} {c : Option FrameId} {e v f : Value}
  {l : List Value} {P : Value → Prop} {scoping : Scoping} {bounded : Bool}

lemma Denotes.gives (h : Denotes s.store e v) : Gives (.sparing bounded) files 1 s globalFrame e (· = v) := by
  refine gives_of_yields fun t ht => ?_
  cases h with
  | literal hv => exact yields_settled (.inl hv)
  | name hname => exact yields_symbol (ht.within.get? hname)

lemma ComesToSome.imp {Q : Value → Prop} (h : ComesToSome w s bounded enough e P) (hPQ : ∀ v, P v → Q v) :
    ComesToSome w s bounded enough e Q :=
  h.imp_left fun ⟨v, hresult, hv, hleft⟩ => ⟨v, hresult, hPQ v hv, hleft⟩

lemma comesToSome_of_gives (h : Gives (.sparing bounded) w.files enough s globalFrame e P) :
    ComesToSome w s bounded enough e P := by
  rcases Gives.run h w.room with ⟨v, t, hresult, hv, ht, halike⟩ | hcut
  · exact .inl ⟨v, hresult, hv, ht.of_alike halike⟩
  · exact .inr hcut

lemma KeepsPrelude.standing (h : KeepsPrelude scoping s) : Standing (keptFrame scoping) s s globalFrame := by
  have hhome : (keptFrame scoping).getD globalFrame = globalFrame := by
    cases scoping <;> rfl
  have haround : Prelude.Around s.store globalFrame :=
    ⟨(h.reachable.disciplined (.normal scoping)).global, fun _ _ => rfl⟩
  exact ⟨.of_extends (.refl s), h.inForce.usable, haround, hhome.symm ▸ haround⟩

section Standing

variable (hs : Standing c s s globalFrame) (hf : f.isError = false) (hl : ∀ x ∈ l, x.Settled)
  {ef el : Value} (hfun : Denotes s.store ef f) (hlist : Denotes s.store el (.qexpr l))
include hs hf hl hfun hlist

lemma comesTo_map {G : Value → Value → Prop} (hcall : ∀ x ∈ l, Answers w.files s bounded m f [x] (G x)) :
    ComesToSome w s bounded (12 * l.length + m + 17) (.sexpr ["map", ef, el]) (Lists (List.Forall₂ G l)) :=
  comesToSome_of_gives (Prelude.gives_map hs hf hfun.gives hlist.gives (by omega) hl hcall le_rfl)

lemma comesTo_filter {p : Value → Bool} (hcall : ∀ x ∈ l, Answers w.files s bounded m f [x] (Decides (p x))) :
    ComesToSome w s bounded (12 * l.length + m + 17) (.sexpr ["filter", ef, el]) (· = .qexpr (l.filter p)) :=
  comesToSome_of_gives (Prelude.gives_filter hs hf hfun.gives hlist.gives (by omega) hl hcall le_rfl)

lemma comesTo_foldl {H : Value → Value → Value → Prop} {z ez : Value} (hz : z.isError = false)
    (hacc : Denotes s.store ez z)
    (hcall : ∀ left x right, l = left ++ x :: right → ∀ a, Folds H z left a →
      Answers w.files s bounded m f [a, x] (H a x)) :
    ComesToSome w s bounded (12 * l.length + m + 17) (.sexpr ["foldl", ef, ez, el]) (Folds H z l) := by
  have hgives := Prelude.gives_foldl hs hf hfun.gives hlist.gives (by omega)
    (hacc.gives.imp fun _ hv => ⟨hv, hv ▸ hz⟩) hl (fun a ha => ha ▸ hcall) le_rfl
  refine comesToSome_of_gives (hgives.imp ?_)
  rintro v ⟨_, rfl, hv⟩
  exact hv

end Standing

theorem prelude_higher_order {t : State} (ht : KeepsPrelude scoping t) (w : World) (hf : f.isError = false)
    (hl : ∀ x ∈ l, x.Settled) (bounded : Bool) (m : Nat) :
    HigherOrder w t f l bounded m (12 * l.length + m + 17) := by
  have hs := ht.standing
  exact {
    map g hg ef el hfun hlist := by
      refine (comesTo_map hs hf hl hfun hlist hg).imp ?_
      rintro _ ⟨vs, rfl, hvs⟩
      have hmapped : List.Forall₂ Eq (l.map g) vs := List.forall₂_map_left_iff.mpr (hvs.imp fun _ _ hv => hv.symm)
      rw [List.forall₂_eq_eq_eq] at hmapped
      rw [hmapped]
    filter g hg ef el hfun hlist :=
      comesTo_filter hs hf hl hfun hlist fun x hx => (hg x hx).imp fun v hv => ⟨g x, hv, rfl⟩
    foldl h z hz hcall ef ez el hfun hacc hlist := by
      refine (comesTo_foldl (H := fun z x v => v = h z x) hs hf hl hfun hlist hz hacc
        fun left x right hsplit a ha => ?_).imp fun v hv => folds_iff.mp hv
      rw [folds_iff.mp ha]
      exact hcall left x right hsplit
    mapBy G hG ef el hfun hlist := comesTo_map hs hf hl hfun hlist hG
    filterBy p hp ef el hfun hlist := comesTo_filter hs hf hl hfun hlist hp
    foldlBy H z hz hcall ef ez el hfun hacc hlist := comesTo_foldl hs hf hl hfun hlist hz hacc hcall }

lemma answers_operation {text : String} (hs : KeepsPrelude .dynamic s) (op : Builtin)
    (hname : op.name ∉ ["f", "z", "l", "x"]) (hv : v.isError = false)
    (hgive : ∀ st env, op.action st env [.string text, .string "a"] = .ok (.give v)) :
    Answers files s true 6 (.lambda ["x"] [op.name, "x", .string "a"] [] none) [.string text] (· = v) := by
  refine .of_applies hv fun t env ht he => applies_lambda rfl fun u hu => ?_
  have hglobal := ht.within.get? (hs.inForce.builtin op)
  have hop : u.store.get? env op.name = some (.ofBuiltin op) :=
    hu.get? ((he.others op.name fun h => hname (List.mem_append_left ["x"] h)).trans hglobal)
  have hframe := u.frame?_framed [("x", .string text)] (State.isSome_of_get? hop)
  have hnew : Bindings.find? [("x", .string text)] op.name = none :=
    Bindings.find?_eq_none_iff.mpr fun h => hname (List.mem_append_right ["f", "z", "l"] h)
  have hfound : Yields files 1 (u.framed [("x", .string text)] env) u.store.frames.size op.name (.ofBuiltin op) := by
    refine yields_symbol ?_
    rw [Store.get?_of_frame? hframe, hnew, Option.none_or]
    exact (u.extends_framed _ env).get? hop
  have hx : Yields files 1 (u.framed [("x", .string text)] env) u.store.frames.size "x" (.string text) :=
    yields_symbol ((Store.get?_of_frame? hframe "x").trans rfl)
  exact yields_call (.cons ⟨hfound, rfl⟩ (.cons ⟨hx, rfl⟩ (.cons ⟨yields_settled (.inl trivial), rfl⟩ .nil)))
    (applies_give fun st => hgive st _) le_rfl (by decide)

theorem prelude_higher_order_started :
    result (evaluate { room := 60 }
        (.sexpr ["map", .lambda ["x"] ["list", "x", .string "a"] [] none, .qexpr [.string "a", .string "b"]]))
      (final (start { room := 60 } (some .dynamic) true) {}) =
        .ok (.qexpr [.qexpr [.string "a", .string "a"], .qexpr [.string "b", .string "a"]]) ∧
    result (evaluate { room := 60 }
        (.sexpr ["filter", .lambda ["x"] ["==", "x", .string "a"] [] none, .qexpr [.string "a", .string "b"]]))
      (final (start { room := 60 } (some .dynamic) true) {}) = .ok (.qexpr [.string "a"]) ∧
    result (evaluate { room := 60 } (.sexpr ["foldl", "list", "nil", .qexpr [.string "a", .string "b"]]))
      (final (start { room := 60 } (some .lexical) true) {}) =
        .ok (.qexpr [.qexpr [.qexpr [], .string "a"], .string "b"]) := by
  have hdynamic := keepsPrelude_start .dynamic
  have hlexical := keepsPrelude_start .lexical
  have hsettled : ∀ x ∈ [Value.string "a", .string "b"], x.Settled := by simp [Value.Settled]
  refine ⟨?_, ?_, ?_⟩
  · have hlist : ∀ text, Answers Files.none (final (start { room := 60 } (some .dynamic) true) {}) true 6
        (.lambda ["x"] ["list", "x", .string "a"] [] none) [.string text] (· = .qexpr [.string text, .string "a"]) :=
      fun _ => answers_operation hdynamic .list (by decide) rfl fun _ _ => rfl
    have hmap := (prelude_higher_order hdynamic { room := 60 }
      (f := .lambda ["x"] ["list", "x", .string "a"] [] none) rfl hsettled true 6).map
      (fun x => .qexpr [x, .string "a"])
      (List.forall_mem_cons.mpr ⟨hlist "a", List.forall_mem_cons.mpr ⟨hlist "b", List.forall_mem_nil _⟩⟩) _ _
      (.literal trivial) (.literal trivial)
    rcases hmap with ⟨_, hresult, rfl, -⟩ | ⟨hroom, -⟩
    · exact hresult
    · exact absurd (hroom rfl) (by decide)
  · have hequal : ∀ text, Answers Files.none (final (start { room := 60 } (some .dynamic) true) {}) true 6
        (.lambda ["x"] ["==", "x", .string "a"] [] none) [.string text]
        (Decides ((Value.string text).equal (.string "a"))) := fun text =>
      (answers_operation hdynamic .equal (by decide) rfl fun _ _ => rfl).imp fun _ hv =>
        hv ▸ Prelude.decides_truth ((Value.string text).equal (.string "a"))
    have hfilter := (prelude_higher_order hdynamic { room := 60 }
      (f := .lambda ["x"] ["==", "x", .string "a"] [] none) rfl hsettled true 6).filterBy (·.equal (.string "a"))
      (List.forall_mem_cons.mpr ⟨hequal "a", List.forall_mem_cons.mpr ⟨hequal "b", List.forall_mem_nil _⟩⟩) _ _
      (.literal trivial) (.literal trivial)
    rcases hfilter with ⟨_, hresult, rfl, -⟩ | ⟨hroom, -⟩
    · exact hresult
    · exact absurd (hroom rfl) (by decide)
  · have hpair : ∀ z x, Answers Files.none (final (start { room := 60 } (some .lexical) true) {}) true 0
        (.ofBuiltin .list) [z, x] (· = .qexpr [z, x]) := fun z x =>
      .of_applies rfl fun t env _ _ => applies_give fun _ => rfl
    have hfold := (prelude_higher_order hlexical { room := 60 } (f := .ofBuiltin .list) rfl hsettled true 0).foldl
      (fun z x => .qexpr [z, x]) (.qexpr []) rfl (fun _ _ _ _ => hpair _ _) _ _ _
      (.name (hlexical.inForce.builtin _)) (.name hlexical.inForce.nil) (.literal trivial)
    rcases hfold with ⟨_, hresult, rfl, -⟩ | ⟨hroom, -⟩
    · exact hresult
    · exact absurd (hroom rfl) (by decide)

end Session

end CurriedLisp
