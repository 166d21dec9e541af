import CurriedLisp.Eval.Evaluator
import CurriedLisp.Proofs.Eval.Binding
import CurriedLisp.Proofs.Eval.Runs
import CurriedLisp.Proofs.Store.Rebinding
import Mathlib.Data.List.TakeWhile

namespace CurriedLisp

open Eval

variable {own : Bindings} {formals rest : List String} {formal : String} {args : List Value}

lemma leadingFormals_cons (h : formal ≠ variadicMarker) :
    leadingFormals (formal :: rest) = formal :: leadingFormals rest := by
  simp [leadingFormals, h]

lemma leadingFormals_eq_self (h : variadicMarker ∉ formals) : leadingFormals formals = formals :=
  List.takeWhile_eq_self_iff.mpr fun _ hname => decide_eq_true fun he => h (he ▸ hname)

lemma exists_drop_eq_marker (h : variadicMarker ∈ formals) :
    ∃ rest, formals.drop (leadingFormals formals).length = variadicMarker :: rest := by
  induction formals with
  | nil => cases h
  | cons formal rest ih =>
    by_cases hf : formal = variadicMarker
    · exact ⟨rest, by simp [leadingFormals, hf]⟩
    · rw [leadingFormals_cons hf]
      exact ih ((List.mem_cons.mp h).resolve_left fun he => hf he.symm)

lemma bindFormals_drop (own : Bindings) {n : Nat} (hn : n ≤ (leadingFormals formals).length)
    (hm : n ≤ args.length) :
    bindFormals own formals args =
      bindFormals (own.putAll ((formals.take n).zip (args.take n))) (formals.drop n) (args.drop n) := by
  induction n generalizing own formals args with
  | zero => rfl
  | succ n ih =>
    match formals, args with
    | [], _ => simp [leadingFormals] at hn
    | _ :: _, [] => simp at hm
    | formal :: rest, a :: others =>
      by_cases hf : formal = variadicMarker
      · simp [leadingFormals, hf] at hn
      · rw [leadingFormals_cons hf] at hn
        rw [bindFormals_cons hf]
        exact ih _ (Nat.le_of_succ_le_succ hn) (Nat.le_of_succ_le_succ hm)

lemma bindFormals_nil (own : Bindings) (h : formal ≠ variadicMarker) (rest : List String) :
    bindFormals own (formal :: rest) [] = .waiting (formal :: rest) own := by
  unfold bindFormals
  rw [if_neg h]

lemma bindFormals_of_lt (own : Bindings) (h : args.length < (leadingFormals formals).length) :
    bindFormals own formals args =
      .waiting (formals.drop args.length) (own.putAll ((formals.take args.length).zip args)) := by
  have hlength : args.length < formals.length := Nat.lt_of_lt_of_le h (List.takeWhile_prefix _).length_le
  -- The next formal stands before the marker, and there is no argument for it.
  have hne : formals[args.length] ≠ variadicMarker := by
    have hmem : (leadingFormals formals)[args.length] ∈ leadingFormals formals := List.getElem_mem h
    have hsame : (leadingFormals formals)[args.length] = formals[args.length] :=
      (List.takeWhile_prefix _).getElem h
    rw [← hsame]
    simpa using List.mem_takeWhile_imp hmem
  rw [bindFormals_drop own (Nat.le_of_lt h) le_rfl, List.drop_length, List.take_length,
    List.drop_eq_getElem_cons hlength, bindFormals_nil _ hne]

section Marker

variable (own : Bindings) (hm : (leadingFormals formals).length ≤ args.length)
include hm

lemma bindFormals_variadic {last : String} (hlast : last ≠ variadicMarker)
    (hd : formals.drop (leadingFormals formals).length = [variadicMarker, last]) :
    bindFormals own formals args =
      .complete ((own.putAll ((formals.take (leadingFormals formals).length).zip
        (args.take (leadingFormals formals).length))).put last
          (.qexpr (args.drop (leadingFormals formals).length))) := by
  rw [bindFormals_drop own le_rfl hm, hd]
  unfold bindFormals
  rw [if_pos rfl]
  exact if_neg hlast

lemma bindFormals_misplaced (hmarker : variadicMarker ∈ formals)
    (hd : ¬ ∃ last, last ≠ variadicMarker ∧ formals.drop (leadingFormals formals).length = [variadicMarker, last]) :
    bindFormals own formals args = .refused .invalidFormals := by
  obtain ⟨rest, hrest⟩ := exists_drop_eq_marker hmarker
  rw [hrest] at hd
  rw [bindFormals_drop own le_rfl hm, hrest]
  unfold bindFormals
  rw [if_pos rfl]
  split
  · next last =>
    split
    · rfl
    · next hlast => exact absurd ⟨last, hlast, rfl⟩ hd
  · rfl

end Marker

section NoMarker

variable (own : Bindings) (hmarker : variadicMarker ∉ formals)
include hmarker

lemma bindFormals_of_eq (hm : args.length = formals.length) :
    bindFormals own formals args = .complete (own.putAll (formals.zip args)) := by
  have hk : (leadingFormals formals).length = formals.length := by rw [leadingFormals_eq_self hmarker]
  rw [bindFormals_drop own hk.ge hm.ge, List.drop_length, ← hm, List.drop_length, List.take_length, hm,
    List.take_length]
  rfl

lemma bindFormals_of_gt (hm : formals.length < args.length) :
    bindFormals own formals args = .refused .tooManyArguments := by
  have hk : (leadingFormals formals).length = formals.length := by rw [leadingFormals_eq_self hmarker]
  obtain ⟨a, others, hargs⟩ := List.exists_cons_of_length_pos (l := args.drop formals.length)
    (by rw [List.length_drop]; omega)
  rw [bindFormals_drop own hk.ge hm.le, List.drop_length, hargs]
  rfl

end NoMarker

structure BoundAsListed (own : Bindings) (formals : List String) (args : List Value) (k : Nat) (r : Bound) :
    Prop where
  waiting : args.length < k →
    r = .waiting (formals.drop args.length) (own.putAll ((formals.take args.length).zip args))
  variadic : k ≤ args.length → ∀ last, last ≠ variadicMarker → formals.drop k = [variadicMarker, last] →
    r = .complete ((own.putAll ((formals.take k).zip (args.take k))).put last (.qexpr (args.drop k)))
  misplaced : k ≤ args.length → variadicMarker ∈ formals →
    (¬ ∃ last, last ≠ variadicMarker ∧ formals.drop k = [variadicMarker, last]) → r = .refused .invalidFormals
  exactly : variadicMarker ∉ formals → args.length = k → r = .complete (own.putAll (formals.zip args))
  tooMany : variadicMarker ∉ formals → k < args.length → r = .refused .tooManyArguments

lemma bindFormals_boundAsListed (own : Bindings) (formals : List String) (args : List Value) :
    BoundAsListed own formals args (leadingFormals formals).length (bindFormals own formals args) where
  waiting := bindFormals_of_lt own
  variadic hm _ := bindFormals_variadic own hm
  misplaced := bindFormals_misplaced own
  exactly hmarker hm := bindFormals_of_eq own hmarker (leadingFormals_eq_self hmarker ▸ hm)
  tooMany hmarker hm := bindFormals_of_gt own hmarker (leadingFormals_eq_self hmarker ▸ hm)

structure AppliedAs (below : Nat → Evaluator) (env : FrameId) (formals : List String) (body : List Value)
    (captured : Option FrameId) (s : State) (x : Eval Value) (r : Bound) : Prop where
  waiting : ∀ remaining own, r = .waiting remaining own →
    result x s = .ok (.lambda remaining body own captured) ∧
      final x s = final (Eval.log (.partialApplication (formals.length - remaining.length) formals.length)) s
  refused : ∀ complaint, r = .refused complaint → result x s = .ok (.error complaint.message) ∧ final x s = s
  complete : ∀ own, r = .complete own →
    x = Eval.newFrame { bindings := own, outer := some (captured.getD env) } >>= fun frame =>
      below Evaluator.Part.body.levels frame (.sexpr body)

lemma applyLambda_appliedAs (below : Nat → Evaluator) (env : FrameId) (own : Bindings) (formals : List String)
    (body : List Value) (captured : Option FrameId) (args : List Value) (s : State) :
    AppliedAs below env formals body captured s (Evaluator.applyLambda below env formals body own captured args)
      (bindFormals own formals args) where
  waiting remaining own' h := by
    simp only [Evaluator.applyLambda, h]
    exact ⟨rfl, rfl⟩
  refused complaint h := by
    simp only [Evaluator.applyLambda, h]
    exact ⟨rfl, rfl⟩
  complete own' h := by simp only [Evaluator.applyLambda, h]

/-- What is bound to a name later counts, and a name keeps the place where it was first bound. -/
theorem lambdaList_exact (own : Bindings) (formals : List String) (args : List Value) :
    BoundAsListed own formals args (leadingFormals formals).length (bindFormals own formals args) ∧
    (∀ new name, (own.putAll new).find? name = (new.reverse.lookup name).or (own.find? name)) ∧
    (∀ new last v name, ((own.putAll new).put last v).find? name =
      if name = last then some v else (own.putAll new).find? name) ∧
    (∀ new, (own.putAll new).names = own.names ++ ((new.map Prod.fst).filter (· ∉ own.names)).eraseDups) ∧
    (∀ below env body captured s, AppliedAs below env formals body captured s
      (Evaluator.applyLambda below env formals body own captured args) (bindFormals own formals args)) ∧
    Complaint.invalidFormals.message = "invalid function arguments" ∧
    Complaint.tooManyArguments.message = "too many arguments" :=
  ⟨bindFormals_boundAsListed own formals args, own.find?_putAll,
    fun new last v name => (own.putAll new).find?_put last name v, own.names_putAll,
    fun below env body captured s => applyLambda_appliedAs below env own formals body captured args s, rfl, rfl⟩

theorem lambdaList_exact_given :
    bindFormals [("b", .string "p")] ["a", "b", "a", "...", "b"]
      [.string "q", .string "r", .string "s", .string "t"] =
      .complete [("b", .qexpr [.string "t"]), ("a", .string "s")] :=
  (lambdaList_exact [("b", .string "p")] ["a", "b", "a", "...", "b"]
    [.string "q", .string "r", .string "s", .string "t"]).1.variadic (by decide) "b" (by decide) rfl

end CurriedLisp
