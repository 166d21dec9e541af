import CurriedLisp.Proofs.Eval.Discipline

/-! What actions carry: the values that an operation gives, binds or evaluates come from its arguments, or are
made of them. So they have whatever lists and functions have when all that is inside has it. -/

namespace CurriedLisp

open Contract

def Action.IsNumeric : Action → Prop
  | .give v => v.kind = .number
  | .compute _ => True
  | _ => False

def Action.Carries (inside given : Value → Prop) : Action → Prop
  | .give v => given v
  | .bind _ new => ∀ b ∈ new, inside (.symbol b.1) ∧ given b.2
  | .call items => ∀ v ∈ items, inside v
  | .compute _ | .print _ | .load _ => True

namespace Builtin

variable {op : Builtin} {s : Store} {env : FrameId} {args : List Value} {a : Action}
  {inside given : Value → Prop}

structure Keeps (s : Store) (env : FrameId) (inside given : Value → Prop) : Prop where
  inside_of_given : ∀ {v}, given v → inside v
  number : ∀ n, given (.number n)
  qexpr : ∀ {items}, given (.qexpr items) ↔ ∀ v ∈ items, inside v
  created : ∀ names body, (∀ v ∈ names.map Value.symbol, inside v) → (∀ v ∈ body, inside v) →
    given (.lambda names body [] (if s.scoping env = .lexical then some env else none))

lemma newFunction_eq_ok {formals body : List Value} {v : Value} :
    newFunction s env formals body = .ok v ↔ ∃ names : List String, formals = names.map .symbol ∧
      v = .lambda names body [] (if s.scoping env = .lexical then some env else none) := by
  simp only [newFunction, bind_eq_ok, symbolNames_eq_ok, Except.ok.injEq, eq_comm (b := v)]

lemma bindAction_eq_ok {target : Target} :
    bindAction s env op target args = .ok a ↔ ∃ new : List (String × Value),
      args = .qexpr (new.map fun b => .symbol b.1) :: new.map Prod.snd ∧ a = .bind target new := by
  simp only [bindAction, bind_eq_ok, nonEmpty_eq_ok, items_eq_ok, symbolNames_eq_ok]
  constructor
  · rintro ⟨⟨first, values⟩, rfl, symbols, rfl, names, rfl, h⟩
    split at h
    · next hlen =>
      cases h
      have hnames : (names.zip values).map Prod.fst = names := List.map_fst_zip (Nat.le_of_eq hlen)
      have hvalues : (names.zip values).map Prod.snd = values := List.map_snd_zip (Nat.le_of_eq hlen.symm)
      have hsymbols : (names.zip values).map (fun b => Value.symbol b.1) = names.map .symbol := by
        conv_rhs => rw [← hnames, List.map_map]
        rfl
      exact ⟨names.zip values, by rw [hsymbols, hvalues], rfl⟩
    · cases h
  · rintro ⟨new, rfl, rfl⟩
    refine ⟨(_, _), rfl, _, rfl, new.map Prod.fst, by simp, ?_⟩
    have hzip : new = (new.map Prod.fst).zip (new.map Prod.snd) := List.zip_of_prod rfl rfl
    simp [← hzip]

lemma functionAction_eq_ok :
    functionAction s env args = .ok a ↔ ∃ name formals body,
      args = [.qexpr (.symbol name :: formals.map .symbol), .qexpr body] ∧ a = .bind .global
        [(name, .lambda formals body [] (if s.scoping env = .lexical then some env else none))] := by
  simp only [functionAction, bind_eq_ok, two_eq_ok, someItems_eq_ok, items_eq_ok]
  constructor
  · rintro ⟨⟨signature, last⟩, rfl, ⟨first, formals⟩, hsignature, body, hbody, h⟩
    split at h
    · next name hfirst =>
      obtain ⟨fn, hfn, ⟨⟩⟩ := bind_eq_ok.mp h
      obtain ⟨names, hnames, rfl⟩ := newFunction_eq_ok.mp hfn
      exact ⟨name, names, body, by simp_all, rfl⟩
    · cases h
  · rintro ⟨name, formals, body, rfl, rfl⟩
    refine ⟨(_, _), rfl, (_, _), rfl, body, rfl, ?_⟩
    exact bind_eq_ok.mpr ⟨_, newFunction_eq_ok.mpr ⟨formals, rfl, rfl⟩, rfl⟩

lemma call_of_condAction (h : condAction args = .ok a) :
    ∃ items, a = .call items ∧ (items = [] ∨ .qexpr items ∈ args) := by
  match args, h with
  | [], h => cases h
  | [_], h => cases h
  | condition :: yes :: rest, h =>
    rw [condAction] at h
    split at h
    · simp [bind_eq_ok] at h
    · simp only [bind_eq_ok, items_eq_ok, each_items_eq_ok] at h
      obtain ⟨n, -, yes, rfl, branches, rfl, ⟨⟩⟩ := h
      refine ⟨_, rfl, ?_⟩
      cases n.isTrue with
      | true => exact .inr (by simp)
      | false =>
        cases branches with
        | nil => exact .inl rfl
        | cons no others => exact .inr (by simp)

lemma numeric_of_compareAction {r : Comparison} (h : compareAction r args = .ok a) : a.IsNumeric := by
  rw [compareAction] at h
  split at h
  · simp [bind_eq_ok] at h
  · simp only [bind_eq_ok] at h
    obtain ⟨ns, -, ⟨⟩⟩ := h
    rfl

lemma numeric_of_testAction {test : Number → Number → Bool} (h : op.testAction test args = .ok a) :
    a.IsNumeric := by
  simp only [testAction, bind_eq_ok] at h
  obtain ⟨_, -, m, -, n, -, ⟨⟩⟩ := h
  rfl

lemma numeric_of_arithmeticAction {op : Arithmetic} (h : arithmeticAction op args = .ok a) :
    a.IsNumeric := by
  simp only [arithmeticAction, bind_eq_ok] at h
  obtain ⟨operands, -, h⟩ := h
  split at h
  · cases h
  · cases h
    split
    · trivial
    · rfl
  · obtain ⟨m, -, ⟨⟩⟩ := bind_eq_ok.mp h
    trivial

section Carries

variable (hk : Keeps s env inside given)
include hk

lemma carries_of_numeric (h : a.IsNumeric) : a.Carries inside given := by
  cases a with
  | give v =>
    cases v with
    | number n => exact hk.number n
    | list b items => cases b <;> cases h
    | _ => cases h
  | compute n => trivial
  | _ => exact h.elim

lemma carries_of_bindAction {target : Target} (ha : ∀ v ∈ args, given v)
    (h : bindAction s env op target args = .ok a) : a.Carries inside given := by
  obtain ⟨new, rfl, rfl⟩ := bindAction_eq_ok.mp h
  obtain ⟨hsymbols, hvalues⟩ := List.forall_mem_cons.mp ha
  intro b hb
  exact ⟨hk.qexpr.mp hsymbols _ (List.mem_map_of_mem hb), hvalues _ (List.mem_map_of_mem hb)⟩

lemma carries_of_functionAction (ha : ∀ v ∈ args, given v) (h : functionAction s env args = .ok a) :
    a.Carries inside given := by
  obtain ⟨name, formals, body, rfl, rfl⟩ := functionAction_eq_ok.mp h
  obtain ⟨hname, hformals⟩ := List.forall_mem_cons.mp (hk.qexpr.mp (ha _ List.mem_cons_self))
  have hbody := hk.qexpr.mp (ha (.qexpr body) (by simp))
  exact List.forall_mem_singleton.mpr ⟨hname, hk.created formals body hformals hbody⟩

lemma carries_of_condAction (ha : ∀ v ∈ args, given v) (h : condAction args = .ok a) :
    a.Carries inside given := by
  obtain ⟨items, rfl, rfl | hmem⟩ := call_of_condAction h
  · exact List.forall_mem_nil _
  · exact hk.qexpr.mp (ha _ hmem)

lemma carries_of_action (ha : ∀ v ∈ args, given v) (h : op.action s env args = .ok a) :
    a.Carries inside given := by
  have hinside : ∀ v ∈ args, inside v := fun v hv => hk.inside_of_given (ha v hv)
  cases op <;> simp only [action, bind_eq_ok, one_eq_ok, two_eq_ok, items_eq_ok, someItems_eq_ok,
    each_items_eq_ok] at h
  case lambda =>
    obtain ⟨⟨_, _⟩, rfl, formals, rfl, body, rfl, v, hv, ⟨⟩⟩ := h
    obtain ⟨names, rfl, rfl⟩ := newFunction_eq_ok.mp hv
    exact hk.created names body (hk.qexpr.mp (ha _ (by simp))) (hk.qexpr.mp (ha (.qexpr body) (by simp)))
  case function => exact carries_of_functionAction hk ha h
  case define | assign => exact carries_of_bindAction hk ha h
  case eval =>
    obtain ⟨_, rfl, items, rfl, ⟨⟩⟩ := h
    exact hk.qexpr.mp (ha _ (by simp))
  case load =>
    obtain ⟨_, -, path, -, ⟨⟩⟩ := h
    trivial
  case error => simp at h
  case println =>
    cases h
    trivial
  case compare => exact carries_of_numeric hk (numeric_of_compareAction h)
  case equal | differ =>
    obtain ⟨_, -, ⟨⟩⟩ := h
    exact hk.number _
  case cond => exact carries_of_condAction hk ha h
  case both | either => exact carries_of_numeric hk (numeric_of_testAction h)
  case negation =>
    obtain ⟨_, -, n, -, ⟨⟩⟩ := h
    exact hk.number _
  case head =>
    obtain ⟨_, rfl, ⟨first, rest⟩, rfl, ⟨⟩⟩ := h
    have hall := hk.qexpr.mp (ha (.qexpr (first :: rest)) (by simp))
    exact hk.qexpr.mpr (List.forall_mem_singleton.mpr (hall first List.mem_cons_self))
  case tail =>
    obtain ⟨_, rfl, ⟨first, rest⟩, rfl, ⟨⟩⟩ := h
    have hall := hk.qexpr.mp (ha (.qexpr (first :: rest)) (by simp))
    exact hk.qexpr.mpr fun v hv => hall v (List.mem_cons_of_mem _ hv)
  case list =>
    cases h
    exact hk.qexpr.mpr hinside
  case join =>
    obtain ⟨_, -, lists, rfl, ⟨⟩⟩ := h
    refine hk.qexpr.mpr fun v hv => ?_
    obtain ⟨l, hl, hv⟩ := List.mem_flatten.mp hv
    exact hk.qexpr.mp (ha (.qexpr l) (List.mem_map_of_mem hl)) v hv
  case cons =>
    obtain ⟨⟨first, _⟩, rfl, rest, rfl, ⟨⟩⟩ := h
    have hrest := hk.qexpr.mp (ha (.qexpr rest) (by simp))
    exact hk.qexpr.mpr (List.forall_mem_cons.mpr ⟨hinside first (by simp), hrest⟩)
  case arithmetic => exact carries_of_numeric hk (numeric_of_arithmeticAction h)

end Carries

end Builtin

namespace Discipline

variable {δ : Discipline} {g : FrameId} {s : Store} {env : FrameId} {args : List Value}

def Carries (δ : Discipline) (g : FrameId) (s : Store) : Action → Prop
  | .give v => δ.Good g s v
  | .bind _ new => ∀ b ∈ new, δ.Good g s b.2
  | .call items => ∀ v ∈ items, δ.Fits g s v
  | .compute _ | .print _ | .load _ => True

lemma keeps (hsc : s.scoping env = δ.scoping) (he : s.EndsIn env g) :
    Builtin.Keeps s env (δ.Fits g s) (δ.Good g s) where
  inside_of_given h := h.2
  number := good_number
  qexpr := ⟨fun h => fits_list.mp h.2, good_qexpr⟩
  created names body _ hb := by
    rw [hsc]
    exact good_created names he hb

lemma carries_of_action {op : Builtin} {a : Action} (hsc : s.scoping env = δ.scoping)
    (he : s.EndsIn env g) (ha : ∀ v ∈ args, δ.Good g s v) (h : op.action s env args = .ok a) :
    δ.Carries g s a := by
  have hcarries := Builtin.carries_of_action (keeps hsc he) ha h
  cases a with
  | bind target new => exact fun b hb => (hcarries b hb).2
  | _ => exact hcarries

end Discipline

end CurriedLisp
