import CurriedLisp.Proofs.Eval.Course

namespace CurriedLisp

open Eval Evaluator

def Quietly {α : Type} (enough : Nat) (s : State) (x : Nat → Eval α) (a : α) : Prop :=
  ∀ t, s.Extends t → ∀ room, enough ≤ room → result (x room) t = .ok a ∧ t.Extends (final (x room) t)

abbrev Yields (files : Files) (enough : Nat) (s : State) (env : FrameId) (e v : Value) : Prop :=
  Quietly enough s (fun room => evaluate files room env e) v

abbrev YieldsAll (files : Files) (enough : Nat) (s : State) (env : FrameId) (items vs : List Value) : Prop :=
  List.Forall₂ (fun e v => Yields files enough s env e v ∧ v.isError = false) items vs

abbrev Applies (files : Files) (enough : Nat) (s : State) (env : FrameId) (vs : List Value) (v : Value) : Prop :=
  Quietly enough s (fun room => evaluateValues files env room vs) v

variable {files : Files} {n m enough room : Nat} {s t : State} {env : FrameId} {e a v : Value} {message : String}
  {items left vs args : List Value}

namespace Quietly

variable {α : Type} {x : Nat → Eval α} {a : α}

lemma mono (h : Quietly n s x a) (hn : n ≤ m) : Quietly m s x a :=
  fun t ht room hroom => h t ht room (hn.trans hroom)

lemma of_extends (h : Quietly n s x a) (ht : s.Extends t) : Quietly n t x a :=
  fun u hu => h u (ht.trans hu)

lemma attains {κ : Succession} (hn : κ.bounded = true ∨ n = 0) (h : ∀ t, κ.follows s t → Quietly n t x a) :
    Attains κ n s x (· = a) := by
  intro t ht room
  by_cases hroom : n ≤ room
  · obtain ⟨hresult, hleft⟩ := h t ht t (.refl t) room hroom
    exact .inl ⟨a, hresult, rfl, κ.of_extends hleft⟩
  · refine .inr ?_
    rw [hn.resolve_right (by omega)]
    exact Nat.lt_of_not_le hroom

lemma of_attains (h : Attains .quiet n s x (· = a)) : Quietly n s x a := by
  intro t ht room hroom
  rcases h t ht room with ⟨_, hresult, rfl, hleft⟩ | hcut
  · exact ⟨hresult, hleft⟩
  · exact absurd hroom (Nat.not_le_of_lt hcut)

lemma attains_quiet (h : Quietly n s x a) : Attains .quiet n s x (· = a) :=
  attains (.inl rfl) fun _ ht => h.of_extends ht

lemma of_still (h : ∀ t, s.Extends t → ∀ room, n ≤ room → result (x room) t = .ok a ∧ final (x room) t = t) :
    Quietly n s x a := by
  intro t ht room hroom
  obtain ⟨hresult, hfinal⟩ := h t ht room hroom
  rw [hfinal]
  exact ⟨hresult, .refl t⟩

end Quietly

lemma yields_settled (h : v.Settled ∨ v.isError = true) : Yields files 1 s env v v := by
  refine .of_still fun t _ room hroom => ?_
  obtain ⟨room, rfl⟩ := Nat.exists_eq_add_of_le' hroom
  rw [evaluate_eq_pure files room env h]
  exact ⟨rfl, rfl⟩

lemma yields_symbol {name : String} (h : s.store.get? env name = some v) :
    Yields files 1 s env (.symbol name) v := by
  refine .of_still fun t ht room hroom => ?_
  obtain ⟨room, rfl⟩ := Nat.exists_eq_add_of_le' hroom
  obtain ⟨hresult, hfinal⟩ := @evaluate_symbol files room env t name
  rw [ht.get? h] at hresult
  exact ⟨hresult, hfinal⟩

lemma enough_pos (h : Yields files n s env e v) : 1 ≤ n := Gives.pos h.attains_quiet rfl

lemma gives_of_yields {κ : Succession} (h : ∀ t, κ.follows s t → Yields files n t env e v) :
    Gives κ files n s env e (· = v) := by
  cases hb : κ.bounded with
  | true => exact Quietly.attains (.inl hb) h
  | false =>
    intro t ht room
    obtain ⟨hresult, hleft⟩ := h t ht t (.refl t) n le_rfl
    rcases evaluate_same_or_tooDeep hresult room with ⟨hsame, halike⟩ | ⟨-, hcut⟩
    · exact .inl ⟨v, hsame, rfl, κ.of_alike hb (κ.of_extends hleft) halike⟩
    · refine .inr ?_
      rw [hb]
      exact hcut

lemma gives_item {κ : Succession} (h : ∀ t, κ.follows s t → Yields files n t env e v) (hv : v.isError = false) :
    Gives κ files n s env e fun w => w = v ∧ w.isError = false :=
  (gives_of_yields h).imp fun _ hw => ⟨hw, hw ▸ hv⟩

lemma YieldsAll.givesAll (h : YieldsAll files n s env items vs) :
    GivesAll .quiet files n s env items (vs.map fun v w => w = v) := by
  induction h with
  | nil => exact .nil
  | cons hv _ ih => exact .cons (gives_item (fun _ ht => hv.1.of_extends ht) hv.2) ih

lemma eq_of_haveEach (h : HaveEach (vs.map fun v w => w = v) args) : args = vs := by
  induction vs generalizing args with
  | nil =>
    cases h
    rfl
  | cons v vs ih =>
    cases h with
    | cons hv hrest => rw [hv, ih hrest]

lemma YieldsAll.withValues (h : YieldsAll files n s env items vs) (ht : s.Extends t) (hn : n ≤ room) :
    ∃ u, t.Extends u ∧ ∀ k, result ((evaluate files room).withValues env items k) t = result (k vs) u ∧
      final ((evaluate files room).withValues env items k) t = final (k vs) u := by
  rcases h.givesAll.withValues ht room with ⟨ws, u, hws, hu, hvalues⟩ | hcut
  · obtain rfl := eq_of_haveEach hws
    exact ⟨u, hu, hvalues⟩
  · exact absurd hn (Nat.not_le_of_lt (hcut fun _ => pure .nothing))

lemma yields_call (h : YieldsAll files n s env items vs) (ha : Applies files m s env vs v)
    (hn : n + 2 ≤ enough) (hm : m + 1 ≤ enough) : Yields files enough s env (.sexpr items) v := by
  refine .of_attains (gives_call h.givesAll (fun ws hws => ?_) hn hm)
  rw [eq_of_haveEach hws]
  exact ha.attains_quiet

lemma yields_call_error (h : YieldsAll files n s env left vs) (he : Yields files n s env e (.error message))
    (right : List Value) : Yields files (n + 2) s env (.sexpr (left ++ e :: right)) (.error message) := by
  intro t ht room hroom
  obtain ⟨room, rfl⟩ := Nat.exists_eq_add_of_le' (by omega : 1 ≤ room)
  obtain ⟨u, hu, hvalues⟩ := h.withValues ht (by omega : n ≤ room - 1)
  obtain ⟨hresult, hfinal⟩ := he u (ht.trans hu) (room - 1) (by omega)
  dsimp only
  rw [evaluate_sexpr, withValues_append, (hvalues _).1, (hvalues _).2, withValues_cons, (bind_of_ok hresult).1,
    (bind_of_ok hresult).2]
  exact ⟨rfl, hu.trans hfinal⟩

lemma applies_single (v : Value) : Applies files 0 s env [v] v := .of_still fun _ _ _ _ => ⟨rfl, rfl⟩

section Builtin

variable {op : Builtin}

lemma applies_builtin {action : Action} (ha : ∀ st, op.action st env (a :: args) = .ok action)
    (h : Quietly n s (fun room => perform files room (fun less => evaluate files (room - less)) env action) v) :
    Applies files n s env (.ofBuiltin op :: a :: args) v :=
  .of_attains (takes_builtin ha h.attains_quiet)

lemma applies_give (ha : ∀ st, op.action st env (a :: args) = .ok (.give v)) :
    Applies files 0 s env (.ofBuiltin op :: a :: args) v :=
  applies_builtin ha (.of_still fun _ _ _ _ => ⟨rfl, rfl⟩)

lemma applies_compute {x : Number} (ha : ∀ st, op.action st env (a :: args) = .ok (.compute x))
    (hx : x.isNan = false) : Applies files 0 s env (.ofBuiltin op :: a :: args) (.number x) := by
  refine applies_builtin ha (.of_still fun t _ room _ => ?_)
  show result (Eval.newNumber x) t = _ ∧ final (Eval.newNumber x) t = t
  unfold Eval.newNumber
  rw [hx]
  exact ⟨rfl, rfl⟩

lemma applies_complaint {complaint : Complaint} (ha : ∀ st, op.action st env (a :: args) = .error complaint) :
    Applies files 0 s env (.ofBuiltin op :: a :: args) complaint.value :=
  .of_still fun t _ room _ =>
    applyBuiltin_of_complaint files room (fun less => evaluate files (room - less)) (ha t.store)

lemma applies_operand (ha : ∀ st, op.action st env (a :: args) = .ok (.call items))
    (h : Yields files n s env (.sexpr items) v) :
    Applies files (n + 5) s env (.ofBuiltin op :: a :: args) v :=
  applies_builtin ha fun t ht room hroom => h t ht (room - 5) (by omega)

end Builtin

lemma applies_lambda {formals : List String} {body : List Value} {own own' : Bindings}
    {captured : Option FrameId} (hb : bindFormals own formals (a :: args) = .complete own')
    (h : ∀ t, s.Extends t →
      Yields files n (t.framed own' (captured.getD env)) t.store.frames.size (.sexpr body) v) :
    Applies files (n + 3) s env (.lambda formals body own captured :: a :: args) v :=
  .of_attains (takes_lambda hb fun t ht => (h t ht).attains_quiet)

end CurriedLisp
