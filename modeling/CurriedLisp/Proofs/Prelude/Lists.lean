import CurriedLisp.Proofs.Prelude.Calls

/-! The list functions of the prelude. They look at a list only through its head and its tail, so no item is
evaluated but the one that is asked for. The inductions are on the list, or on the count that is left. -/

namespace CurriedLisp

open Eval

local instance : Coe String Value := ⟨.symbol⟩

namespace Prelude

variable {files : Files} {c : Option FrameId} {s : State} {env : FrameId} {n i enough : Nat} {x : Number}
  {l rest : List Value} {e e' v : Value}

lemma yields_len (hu : Usable c s env) (he : Yields files n s env e (.qexpr l)) (hl : l.length < 2 ^ 53)
    (hn : n + 2 ≤ enough) (hm : 12 * l.length + 13 ≤ enough) :
    Yields files enough s env (.sexpr ["len", e]) (.number (.ofNat l.length)) := by
  have hform : function ["len", "l"] (byEmptiness [number 0] ["+", number 1, .sexpr ["len", tailOf "l"]]) ∈
      program := by simp [program, selecting]
  induction l generalizing s env e n enough with
  | nil =>
    refine hu.call_function 9 hform (.cons ⟨he, rfl⟩ .nil) rfl (by decide +kernel) hn hm fun t frame _ ht hown => ?_
    exact yields_byEmptiness ht (hown "l" _ rfl) (yields_group (yields_number _ le_rfl) rfl)
  | cons v rest ih =>
    rw [List.length_cons] at hl hm
    refine hu.call_function (12 * rest.length + 21) hform (.cons ⟨he, rfl⟩ .nil) rfl (by decide +kernel) hn (by omega)
      fun t frame _ ht hown => ?_
    have hlist := hown "l" _ rfl
    have hrest : Yields files (12 * rest.length + 13) t frame (.sexpr ["len", tailOf "l"])
        (.number (.ofNat rest.length)) :=
      ih ht (yields_tailOf ht (yields_symbol hlist)) (by omega) (by omega) le_rfl
    have hnan : ((Number.ofNat 1).add (.ofNat rest.length)).isNan = false := by
      rw [Number.one_add hl]
      exact (Number.is_ofNat hl).isNan
    have hsum := yields_oneMore ht hrest hnan
    rw [Number.one_add hl] at hsum
    exact yields_byEmptiness ht hlist hsum

lemma yields_selected {name : String} {inner : Value} (hu : Usable c s env)
    (hform : function [name, "l"] ["eval", headOf inner] ∈ program) (he : Yields files n s env e (.qexpr l))
    (hinner : ∀ t frame, Usable c t frame → Yields files 1 t frame "l" (.qexpr l) →
      Yields files 5 t frame inner (.qexpr (v :: rest)))
    (hv : v.Settled) (hn : n + 2 ≤ enough) (hm : 13 ≤ enough) : Yields files enough s env (.sexpr [name, e]) v := by
  refine hu.call_function 9 hform (.cons ⟨he, rfl⟩ .nil) rfl (by decide +kernel) hn hm fun t frame _ ht hown => ?_
  exact yields_evalHead ht (hinner t frame ht (yields_symbol (hown "l" _ rfl))) hv le_rfl le_rfl

section Selecting

variable (hu : Usable c s env) (hv : v.Settled) (hn : n + 2 ≤ enough) (hm : 13 ≤ enough)
include hu hv hn hm

lemma yields_fst (he : Yields files n s env e (.qexpr (v :: rest))) :
    Yields files enough s env (.sexpr ["fst", e]) v := by
  have hform : function ["fst", "l"] ["eval", headOf "l"] ∈ program := by simp [program, selecting]
  exact yields_selected hu hform he (fun _ _ _ hl => hl.mono (by decide)) hv hn hm

lemma yields_snd {v₀ : Value} (he : Yields files n s env e (.qexpr (v₀ :: v :: rest))) :
    Yields files enough s env (.sexpr ["snd", e]) v := by
  have hform : function ["snd", "l"] ["eval", headOf (tailOf "l")] ∈ program := by simp [program, selecting]
  exact yields_selected hu hform he (fun _ _ ht hl => (yields_tailOf ht hl).mono (by decide)) hv hn hm

lemma yields_trd {v₀ v₁ : Value} (he : Yields files n s env e (.qexpr (v₀ :: v₁ :: v :: rest))) :
    Yields files enough s env (.sexpr ["trd", e]) v := by
  have hform : function ["trd", "l"] ["eval", headOf (tailOf (tailOf "l"))] ∈ program := by
    simp [program, selecting]
  exact yields_selected hu hform he (fun _ _ ht hl => yields_tailOf ht (yields_tailOf ht hl)) hv hn hm

end Selecting

lemma yields_fst_nil (hu : Usable c s env) (he : Yields files n s env e (.qexpr []))
    (hn : n + 2 ≤ enough) (hm : 9 ≤ enough) :
    Yields files enough s env (.sexpr ["fst", e]) (Complaint.emptyList "head").value := by
  have hform : function ["fst", "l"] ["eval", headOf "l"] ∈ program := by simp [program, selecting]
  refine hu.call_function 5 hform (.cons ⟨he, rfl⟩ .nil) rfl (by decide +kernel) hn hm fun t frame _ ht hown => ?_
  exact yields_evalHead_nil ht (yields_symbol (hown "l" _ rfl))

structure Counting (c : Option FrameId) (t : State) (frame : FrameId) (x : Number) (l : List Value) : Prop where
  usable : Usable c t frame
  count : t.store.get? frame "n" = some (.number x)
  list : t.store.get? frame "l" = some (.qexpr l)

section Counting

variable {name : String} {zero other : List Value} {t : State} {frame : FrameId} {m : Nat}

lemma Counting.oneLess (h : Counting c t frame x l) (hx : x.isNan = false) :
    Yields files 3 t frame (oneLess "n") (.number (x.sub (.ofNat 1))) :=
  yields_oneLess h.usable (yields_symbol h.count) hx

lemma Counting.tail (h : Counting c t frame x (v :: rest)) : Yields files 3 t frame (tailOf "l") (.qexpr rest) :=
  yields_tailOf h.usable (yields_symbol h.list)

lemma yields_counting (hu : Usable c s env) (m : Nat)
    (hform : function [name, "n", "l"] (byZero zero other) ∈ program)
    (hx : Yields files n s env e (.number x)) (he : Yields files n s env e' (.qexpr l)) (hn : n + 2 ≤ enough)
    (hm : m + 10 ≤ enough)
    (hbranch : ∀ t frame, Counting c t frame x l →
      Yields files m t frame (.sexpr (if x.isZero then zero else other)) v) :
    Yields files enough s env (.sexpr [name, e, e']) v :=
  hu.call_function (m + 6) hform (.cons ⟨hx, rfl⟩ (.cons ⟨he, rfl⟩ .nil)) rfl (by decide +kernel) hn hm
    fun t frame _ ht hown =>
      yields_byZero ht (hown "n" _ rfl) (hbranch t frame ⟨ht, hown "n" _ rfl, hown "l" _ rfl⟩)

end Counting

lemma take_mem_program : function ["take", "n", "l"]
    (byZero ["nil"] ["join", headOf "l", .sexpr ["take", oneLess "n", tailOf "l"]]) ∈ program := by
  simp [program, selecting]

lemma drop_mem_program : function ["drop", "n", "l"]
    (byZero ["l"] ["drop", oneLess "n", tailOf "l"]) ∈ program := by
  simp [program, selecting]

lemma nth_mem_program : function ["nth", "n", "l"]
    (byZero ["fst", "l"] ["nth", oneLess "n", tailOf "l"]) ∈ program := by
  simp [program, selecting]

section Within

variable (hu : Usable c s env) (hx : Yields files n s env e (.number x)) (hi : x.Is i)
  (he : Yields files n s env e' (.qexpr l)) (hlimit : i < 2 ^ 53) (hn : n + 2 ≤ enough)
include hu hx hi he hlimit hn

lemma yields_take (hl : i ≤ l.length) (hm : 12 * i + 13 ≤ enough) :
    Yields files enough s env (.sexpr ["take", e, e']) (.qexpr (l.take i)) := by
  induction i generalizing s env e e' n x l enough with
  | zero =>
    refine yields_counting hu 3 take_mem_program hx he hn hm fun t frame ht => ?_
    rw [if_pos (hi.isZero_iff.mpr rfl)]
    exact yields_nil ht.usable
  | succ i ih =>
    obtain ⟨v, rest, rfl⟩ := List.exists_cons_of_length_pos (Nat.lt_of_lt_of_le i.succ_pos hl)
    refine yields_counting hu (12 * i + 15) take_mem_program hx he hn (by omega) fun t frame ht => ?_
    have hless : (x.sub (.ofNat 1)).Is i := hi.sub_one_succ hlimit
    have hrest := ih ht.usable (ht.oneLess hi.isNan) hless ht.tail (by omega) (by omega)
      (Nat.le_of_succ_le_succ hl) le_rfl
    rw [if_neg hi.not_isZero_succ]
    exact yields_join ht.usable ((yields_headOf ht.usable (yields_symbol ht.list)).mono (by omega)) hrest

lemma yields_walk {name : String} {zero : List Value} (m : Nat)
    (hform : function [name, "n", "l"] (byZero zero [name, oneLess "n", tailOf "l"]) ∈ program)
    (hzero : ∀ t frame x, Counting c t frame x (l.drop i) → Yields files m t frame (.sexpr zero) v)
    (hl : i ≤ l.length) (hm : 10 * i + m + 10 ≤ enough) : Yields files enough s env (.sexpr [name, e, e']) v := by
  induction i generalizing s env e e' n x l enough with
  | zero =>
    refine yields_counting hu m hform hx he hn (by omega) fun t frame ht => ?_
    rw [if_pos (hi.isZero_iff.mpr rfl)]
    exact hzero t frame x ht
  | succ i ih =>
    obtain ⟨v, rest, rfl⟩ := List.exists_cons_of_length_pos (Nat.lt_of_lt_of_le i.succ_pos hl)
    refine yields_counting hu (10 * i + m + 10) hform hx he hn (by omega) fun t frame ht => ?_
    have hless : (x.sub (.ofNat 1)).Is i := hi.sub_one_succ hlimit
    rw [if_neg hi.not_isZero_succ]
    exact ih ht.usable (ht.oneLess hi.isNan) hless ht.tail (by omega) (by omega) hzero
      (Nat.le_of_succ_le_succ hl) le_rfl

lemma yields_drop (hl : i ≤ l.length) (hm : 10 * i + 13 ≤ enough) :
    Yields files enough s env (.sexpr ["drop", e, e']) (.qexpr (l.drop i)) :=
  yields_walk hu hx hi he hlimit hn 3 drop_mem_program
    (fun _ _ _ ht => yields_group (yields_symbol ht.list) rfl) hl hm

lemma yields_nth (hv : l[i]? = some v) (hsettled : v.Settled) (hm : 10 * i + 23 ≤ enough) :
    Yields files enough s env (.sexpr ["nth", e, e']) v := by
  obtain ⟨hlt, rfl⟩ := List.getElem?_eq_some_iff.mp hv
  have hdrop : l.drop i = l[i] :: l.drop (i + 1) := List.drop_eq_getElem_cons hlt
  refine yields_walk hu hx hi he hlimit hn 13 nth_mem_program (fun t frame x ht => ?_) hlt.le hm
  rw [hdrop] at ht
  exact yields_fst ht.usable hsettled (by decide) le_rfl (yields_symbol ht.list)

lemma yields_nth_length (hl : l.length = i) (hm : 10 * i + 23 ≤ enough) :
    Yields files enough s env (.sexpr ["nth", e, e']) (Complaint.emptyList "head").value := by
  refine yields_walk hu hx hi he hlimit hn 9 nth_mem_program (fun t frame x ht => ?_) hl.ge (by omega)
  rw [List.drop_of_length_le hl.le] at ht
  exact yields_fst_nil ht.usable (yields_symbol ht.list) (by decide) le_rfl

end Within

section Beyond

variable (hu : Usable c s env) (hx : Yields files n s env e (.number x)) (hb : x.Beyond l.length)
  (he : Yields files n s env e' (.qexpr l)) (hlimit : l.length < 2 ^ 53) (hn : n + 2 ≤ enough)
include hu hx hb he hlimit hn

lemma yields_take_beyond (hm : 12 * l.length + 15 ≤ enough) :
    Yields files enough s env (.sexpr ["take", e, e']) (Complaint.emptyList "head").value := by
  induction l generalizing s env e e' n x enough with
  | nil =>
    refine yields_counting hu 5 take_mem_program hx he hn hm fun t frame ht => ?_
    have hjoin : Yields files 3 t frame "join" (.ofBuiltin .join) :=
      (yields_symbol (ht.usable.here.builtin .join)).mono (by decide)
    rw [if_neg (by rw [hb.not_isZero]; decide)]
    exact yields_call_error (.cons ⟨hjoin, rfl⟩ .nil)
      (yields_headOf_nil ht.usable (yields_symbol ht.list)) _
  | cons v rest ih =>
    rw [List.length_cons] at hb hlimit hm
    refine yields_counting hu (12 * rest.length + 17) take_mem_program hx he hn (by omega) fun t frame ht => ?_
    have hless : (x.sub (.ofNat 1)).Beyond rest.length := hb.sub_one hlimit
    have hjoin : Yields files (12 * rest.length + 15) t frame "join" (.ofBuiltin .join) :=
      (yields_symbol (ht.usable.here.builtin .join)).mono (by omega)
    have hhead : Yields files (12 * rest.length + 15) t frame (headOf "l") (.qexpr [v]) :=
      (yields_headOf ht.usable (yields_symbol ht.list)).mono (by omega)
    have hrest := ih ht.usable (ht.oneLess hb.isNan) hless ht.tail (by omega) (by omega) le_rfl
    rw [if_neg (by rw [hb.not_isZero]; decide)]
    exact yields_call_error (.cons ⟨hjoin, rfl⟩ (.cons ⟨hhead, rfl⟩ .nil)) hrest []

lemma yields_walk_beyond {name : String} {zero : List Value}
    (hform : function [name, "n", "l"] (byZero zero [name, oneLess "n", tailOf "l"]) ∈ program)
    (hm : 10 * l.length + 15 ≤ enough) :
    Yields files enough s env (.sexpr [name, e, e']) (Complaint.emptyList "tail").value := by
  induction l generalizing s env e e' n x enough with
  | nil =>
    refine yields_counting hu 5 hform hx he hn hm fun t frame ht => ?_
    have hname : Yields files 3 t frame name (.lambda ["n", "l"] (byZero zero [name, oneLess "n", tailOf "l"]) [] c) :=
      (yields_symbol (ht.usable.here.definition _ hform _ _ (.function _ _ _))).mono (by decide)
    rw [if_neg (by rw [hb.not_isZero]; decide)]
    exact yields_call_error (.cons ⟨hname, rfl⟩ (.cons ⟨ht.oneLess hb.isNan, rfl⟩ .nil))
      (yields_tailOf_nil ht.usable (yields_symbol ht.list)) []
  | cons v rest ih =>
    rw [List.length_cons] at hb hlimit hm
    refine yields_counting hu (10 * rest.length + 15) hform hx he hn (by omega) fun t frame ht => ?_
    have hless : (x.sub (.ofNat 1)).Beyond rest.length := hb.sub_one hlimit
    rw [if_neg (by rw [hb.not_isZero]; decide)]
    exact ih ht.usable (ht.oneLess hb.isNan) hless ht.tail (by omega) (by omega) le_rfl

end Beyond

lemma yields_last (hu : Usable c s env) (he : Yields files n s env e (.qexpr l)) (hlimit : l.length < 2 ^ 53)
    (hv : l.getLast? = some v) (hsettled : v.Settled) (hn : n + 2 ≤ enough) (hm : 12 * l.length + 21 ≤ enough) :
    Yields files enough s env (.sexpr ["last", e]) v := by
  have hform : function ["last", "l"] ["nth", oneLess (.sexpr ["len", "l"]), "l"] ∈ program := by
    simp [program, selecting]
  obtain ⟨i, hi⟩ : ∃ i, l.length = i + 1 := by
    cases l with
    | nil => cases hv
    | cons w rest => exact ⟨rest.length, rfl⟩
  have hitem : l[i]? = some v := by
    rw [List.getLast?_eq_getElem?, hi] at hv
    exact hv
  rw [hi] at hlimit hm
  refine hu.call_function (12 * i + 29) hform (.cons ⟨he, rfl⟩ .nil) rfl (by decide +kernel) hn (by omega)
    fun t frame _ ht hown => ?_
  have hlist : Yields files (12 * i + 27) t frame "l" (.qexpr l) := (yields_symbol (hown "l" _ rfl)).mono (by omega)
  have hcount : ((Number.ofNat l.length).sub (.ofNat 1)).Is i := by
    rw [hi]
    exact (Number.is_ofNat hlimit).sub_one_succ hlimit
  have hlen : Yields files (12 * i + 25) t frame (.sexpr ["len", "l"]) (.number (.ofNat l.length)) :=
    yields_len ht (yields_symbol (hown "l" _ rfl)) (by omega) (by omega) (by omega)
  have hless := yields_oneLess ht hlen (Number.is_ofNat (by omega)).isNan
  exact yields_nth ht hless hcount hlist (by omega) (by omega) hitem hsettled (by omega)

end Prelude

structure State.Undisturbed (s t : State) : Prop where
  frames : ∀ id f, s.store.frame? id = some f → t.store.frame? id = some f
  effects : t.effects = s.effects

namespace Session

/-- With room for `enough` levels the session evaluates the expression to `v`. With less room it does the same or
goes too deep. -/
def ComesTo (w : World) (s : State) (enough : Nat) (e v : Value) : Prop :=
  result (evaluate w e) s = .ok v ∧ s.Undisturbed (final (evaluate w e) s) ∨
    w.room < enough ∧ result (evaluate w e) s = .error .tooDeep

lemma comesTo_of_yields {w : World} {s : State} {enough : Nat} {e v : Value}
    (h : Yields w.files enough s globalFrame e v) : ComesTo w s enough e v := by
  rcases Gives.run h.attains_quiet w.room with ⟨_, t, hresult, rfl, ht, halike⟩ | ⟨hroom, hcut⟩
  · refine .inl ⟨hresult, fun id f hf => ?_, halike.effects.trans ht.effects⟩
    have hstore : (final (evaluate w e) s).store = t.store := halike.store
    rw [hstore]
    exact ht.frames id f hf
  · exact .inr ⟨hroom rfl, hcut⟩

structure ListsExact (w : World) (s : State) (l : List Value) (enough : Nat) : Prop where
  length : (Number.ofNat l.length).Is l.length
  len : ComesTo w s enough (.sexpr ["len", .qexpr l]) (.number (.ofNat l.length))
  take : ∀ x (i : Nat), x.Is i → i ≤ l.length →
    ComesTo w s enough (.sexpr ["take", .number x, .qexpr l]) (.qexpr (l.take i))
  drop : ∀ x (i : Nat), x.Is i → i ≤ l.length →
    ComesTo w s enough (.sexpr ["drop", .number x, .qexpr l]) (.qexpr (l.drop i))
  join : ∀ x (i : Nat), x.Is i → i ≤ l.length →
    ComesTo w s enough (.sexpr ["join", .sexpr ["take", .number x, .qexpr l], .sexpr ["drop", .number x, .qexpr l]])
      (.qexpr l)
  nth : ∀ x (i : Nat) v, x.Is i → l[i]? = some v → v.Settled →
    ComesTo w s enough (.sexpr ["nth", .number x, .qexpr l]) v
  fst : ∀ v, l[0]? = some v → v.Settled → ComesTo w s enough (.sexpr ["fst", .qexpr l]) v
  snd : ∀ v, l[1]? = some v → v.Settled → ComesTo w s enough (.sexpr ["snd", .qexpr l]) v
  trd : ∀ v, l[2]? = some v → v.Settled → ComesTo w s enough (.sexpr ["trd", .qexpr l]) v
  last : ∀ v, l.getLast? = some v → v.Settled → ComesTo w s enough (.sexpr ["last", .qexpr l]) v
  takeBeyond : ∀ x (i : Int), x.Is i → i < 0 ∨ l.length < i →
    ComesTo w s enough (.sexpr ["take", .number x, .qexpr l]) (.error "head called with empty list")
  dropBeyond : ∀ x (i : Int), x.Is i → i < 0 ∨ l.length < i →
    ComesTo w s enough (.sexpr ["drop", .number x, .qexpr l]) (.error "tail called with empty list")
  nthBeyond : ∀ x (i : Int), x.Is i → i < 0 ∨ l.length < i →
    ComesTo w s enough (.sexpr ["nth", .number x, .qexpr l]) (.error "tail called with empty list")
  nthLength : ∀ x, x.Is l.length →
    ComesTo w s enough (.sexpr ["nth", .number x, .qexpr l]) (.error "head called with empty list")

open Prelude in
lemma listsExact_of_usable {c : Option FrameId} {w : World} {s : State} {l : List Value}
    (hu : Usable c s globalFrame) (hl : l.length < 2 ^ 53) : ListsExact w s l (12 * l.length + 23) := by
  have hlist : Yields w.files 1 s globalFrame (.qexpr l) (.qexpr l) := yields_qexpr l le_rfl
  have hx : ∀ x, Yields w.files 1 s globalFrame (.number x) (.number x) := fun x => yields_number x le_rfl
  exact {
    length := Number.is_ofNat hl
    len := comesTo_of_yields (yields_len hu hlist hl (by omega) (by omega))
    take x i hi hle := comesTo_of_yields (yields_take hu (hx x) hi hlist (by omega) (by omega) hle (by omega))
    drop x i hi hle := comesTo_of_yields (yields_drop hu (hx x) hi hlist (by omega) (by omega) hle (by omega))
    join x i hi hle := by
      have htake : Yields w.files (12 * l.length + 21) s globalFrame (.sexpr ["take", .number x, .qexpr l])
          (.qexpr (l.take i)) := yields_take hu (hx x) hi hlist (by omega) (by omega) hle (by omega)
      have hdrop : Yields w.files (12 * l.length + 21) s globalFrame (.sexpr ["drop", .number x, .qexpr l])
          (.qexpr (l.drop i)) := yields_drop hu (hx x) hi hlist (by omega) (by omega) hle (by omega)
      have hjoin := yields_join hu htake hdrop
      rw [List.take_append_drop] at hjoin
      exact comesTo_of_yields hjoin
    nth x i v hi hv hsettled := by
      have hlt : i < l.length := (List.getElem?_eq_some_iff.mp hv).1
      exact comesTo_of_yields (yields_nth hu (hx x) hi hlist (by omega) (by omega) hv hsettled (by omega))
    fst v hv hsettled := by
      match l, hv with
      | _ :: _, rfl => exact comesTo_of_yields (yields_fst hu hsettled (by omega) (by omega) hlist)
    snd v hv hsettled := by
      match l, hv with
      | _ :: _ :: _, rfl => exact comesTo_of_yields (yields_snd hu hsettled (by omega) (by omega) hlist)
    trd v hv hsettled := by
      match l, hv with
      | _ :: _ :: _ :: _, rfl => exact comesTo_of_yields (yields_trd hu hsettled (by omega) (by omega) hlist)
    last v hv hsettled := comesTo_of_yields (yields_last hu hlist hl hv hsettled (by omega) (by omega))
    takeBeyond x i hi hout :=
      comesTo_of_yields (yields_take_beyond hu (hx x) (hi.beyond hout) hlist hl (by omega) (by omega))
    dropBeyond x i hi hout :=
      comesTo_of_yields (yields_walk_beyond hu (hx x) (hi.beyond hout) hlist hl (by omega) drop_mem_program (by omega))
    nthBeyond x i hi hout :=
      comesTo_of_yields (yields_walk_beyond hu (hx x) (hi.beyond hout) hlist hl (by omega) nth_mem_program (by omega))
    nthLength x hi :=
      comesTo_of_yields (yields_nth_length hu (hx x) hi hlist hl (by omega) rfl (by omega)) }

/-- The list functions do what they are meant to do in every state in which the prelude is in force, as it is in a
session that has not bound its names again. -/
theorem prelude_lists_exact (scoping : Scoping) :
    (∀ t, KeepsPrelude scoping t → Prelude.InForce (keptFrame scoping) t.store globalFrame) ∧
    ∀ t : State, Prelude.InForce (keptFrame scoping) t.store globalFrame → ∀ (w : World) (l : List Value),
      l.length < 2 ^ 53 → ListsExact w t l (12 * l.length + 23) :=
  ⟨fun _ ht => ht.inForce, fun _ ht _ _ hl => listsExact_of_usable ht.usable hl⟩

lemma keepsPrelude_start (scoping : Scoping) :
    KeepsPrelude scoping (final (start { room := 60 } (some scoping) true) {}) := by
  have hstart : (result (start { room := 60 } (some scoping) true) {}).toOption.isSome := by
    cases scoping <;> decide +kernel
  obtain ⟨⟨⟩, hrun⟩ := exists_ok hstart
  exact ⟨{ room := 60 }, some scoping, {}, rfl, rfl, hrun, .refl, fun _ _ => rfl⟩

theorem prelude_lists_exact_given :
    result (evaluate { room := 60 } (.sexpr ["len", .qexpr ["a", .sexpr ["a"], .string "b"]]))
      (final (start { room := 60 } (some .lexical) true) {}) = .ok (.number (.ofNat 3)) ∧
    result (evaluate { room := 60 } (.sexpr ["last", .qexpr ["a", .sexpr ["a"], .string "b"]]))
      (final (start { room := 60 } (some .dynamic) true) {}) = .ok (.string "b") := by
  have hlists : ∀ scoping, ListsExact { room := 60 } (final (start { room := 60 } (some scoping) true) {})
      ["a", .sexpr ["a"], .string "b"] 59 := fun scoping =>
    (prelude_lists_exact scoping).2 _ ((prelude_lists_exact scoping).1 _ (keepsPrelude_start scoping)) _ _ (by decide)
  refine ⟨?_, ?_⟩
  · rcases (hlists .lexical).len with ⟨hlen, -⟩ | ⟨hroom, -⟩
    · exact hlen
    · exact absurd hroom (by decide)
  · rcases (hlists .dynamic).last _ rfl trivial with ⟨hlast, -⟩ | ⟨hroom, -⟩
    · exact hlast
    · exact absurd hroom (by decide)

end Session

end CurriedLisp
