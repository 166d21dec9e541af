import CurriedLisp.Proofs.Eval.Binding
import CurriedLisp.Proofs.Eval.Equations
import CurriedLisp.Proofs.Eval.Room

namespace CurriedLisp

open Eval

variable {own own' : Bindings} {formals remaining : List String} {args : List Value}

namespace Evaluator

variable {self other : Evaluator} {files : Files} {room : Nat} {below above : Nat → Evaluator} {s t : State}
  {env : FrameId} {l : List Value} {item : Value} {k : List Value → Eval Value} {body : List Value}
  {captured : Option FrameId}

lemma Refines.withValues (h : self.Refines other) (hs : s.Alike t) {k' : List Value → Eval Value}
    (hk : ∀ vs, result (self.items env l) s = .ok (.ok vs) → ∀ s t, s.Alike t → Follows s t (k vs) (k' vs)) :
    Follows s t (self.withValues env l k) (other.withValues env l k') := by
  refine (h.items hs l).bind_of_result fun r hr hal => ?_
  cases r with
  | error message => exact .pure hal _
  | ok vs => exact hk vs hr _ _ hal

lemma applyLambda_waiting (h : bindFormals own formals args = .waiting remaining own')
    (g : Value → Eval Value) :
    applyLambda below env formals body own captured args >>= g =
      Eval.log (.partialApplication (formals.length - remaining.length) formals.length) >>= fun _ =>
        g (.lambda remaining body own' captured) := by
  unfold applyLambda
  rw [h, bind_assoc]
  rfl

lemma rest_follows (args args' : List Value) (h : self.Refines other)
    (hb : ∀ less, (below less).Refines (above less)) (hs : s.Alike t) (hl : l ≠ []) {larger : Nat}
    {formals' : List String}
    (ha : ∀ more, bindFormals own formals (args ++ more) = bindFormals own' formals' (args' ++ more)) :
    Follows s t
      (self.withValues env l fun vs =>
        applyValues files room below env (.lambda formals body own captured :: (args ++ vs)))
      (other.withValues env l fun vs =>
        applyValues files larger above env (.lambda formals' body own' captured :: (args' ++ vs))) := by
  refine h.withValues hs fun vs hvs s t hs => ?_
  have hne : vs ≠ [] := by
    rintro rfl
    exact hl (List.length_eq_zero_iff.mp (length_items hvs).symm)
  rw [applyValues_lambda (List.append_ne_nil_of_right_ne_nil args hne),
    applyValues_lambda (List.append_ne_nil_of_right_ne_nil args' hne)]
  exact applyLambda_follows hb hs (ha vs) body captured

end Evaluator

open Evaluator

section

variable (files : Files) (room : Nat) (env : FrameId) (f : Value) (xs ys : List Value)

lemma evaluate_single :
    evaluate files (room + 1) env (.sexpr (f :: xs ++ ys)) =
      (evaluate files (room - 1)).withValues env (f :: xs) fun vs =>
        (evaluate files (room - 1)).withValues env ys fun ws =>
          applyValues files room (fun less => evaluate files (room - less)) env (vs ++ ws) := by
  rw [evaluate_sexpr, withValues_append]

theorem evaluate_curried :
    evaluate files (room + 3) env (.sexpr (.sexpr (f :: xs) :: ys)) =
      (evaluate files (room - 1)).withValues env (f :: xs) fun vs =>
        applyValues files room (fun less => evaluate files (room - less)) env vs >>= fun v =>
          unlessError v fun v => (evaluate files (room + 1)).withValues env ys fun ws =>
            applyValues files (room + 2) (fun less => evaluate files (room + 2 - less)) env (v :: ws) := by
  have houter : evaluate files (room + 3) env (.sexpr (.sexpr (f :: xs) :: ys)) =
      (evaluate files (room + 1)).withValues env (.sexpr (f :: xs) :: ys)
        (applyValues files (room + 2) (fun less => evaluate files (room + 2 - less)) env) :=
    evaluate_sexpr files (room + 2) env _
  rw [houter, withValues_cons, evaluate_sexpr, withValues_bind]
  exact fun message => rfl

end

variable {files : Files} {room : Nat} {env : FrameId} {f v w : Value} {xs ys : List Value} {s : State}
  {body : List Value} {captured : Option FrameId}

lemma evaluate_unique {larger : Nat} (hv : result (evaluate files room env f) s = .ok v)
    (hw : result (evaluate files larger env f) s = .ok w) : v = w := by
  rcases Nat.le_total room larger with h | h
  · rcases evaluate_refines files h s s env f (.refl s) with hcut | ⟨hsame, -⟩
    · cases hcut.symm.trans hv
    · exact Except.ok.inj (hv.symm.trans (hsame.trans hw))
  · rcases evaluate_refines files h s s env f (.refl s) with hcut | ⟨hsame, -⟩
    · cases hcut.symm.trans hw
    · exact (Except.ok.inj (hw.symm.trans (hsame.trans hv))).symm

section

variable {enough : Nat}
  (hf : result (evaluate files enough env f) s = .ok (.lambda formals body own captured))
  (hn : xs.length < (leadingFormals formals).length) (hx : xs ≠ []) (hy : ys ≠ [])
include hf hn hx

lemma exists_partial {vs : List Value}
    (hvs : result ((evaluate files room).items env (f :: xs)) s = .ok (.ok vs)) :
    ∃ args remaining own', vs = .lambda formals body own captured :: args ∧ args ≠ [] ∧
      bindFormals own formals args = .waiting remaining own' := by
  obtain ⟨v, args, hv, hargs, rfl⟩ := items_eq_ok hvs
  have hlength : args.length = xs.length := length_items hargs
  obtain ⟨remaining, own', hw⟩ := exists_waiting own (hlength ▸ hn)
  refine ⟨args, remaining, own', by rw [evaluate_unique hv hf], ?_, hw⟩
  rintro rfl
  exact hx (List.length_eq_zero_iff.mp hlength.symm)

include hy

theorem curried_follows_single (room : Nat) :
    Follows s s (evaluate files room env (.sexpr (.sexpr (f :: xs) :: ys)))
      (evaluate files room env (.sexpr (f :: xs ++ ys))) := by
  rcases room with - | - | - | room
  · exact .of_tooDeep rfl
  · exact .of_tooDeep rfl
  · exact .of_tooDeep rfl
  rw [evaluate_curried, evaluate_single]
  refine (evaluate_refines files (by omega)).withValues (.refl s) fun vs hvs s t hs => ?_
  obtain ⟨args, remaining, own', rfl, hargs, hw⟩ := exists_partial hf hn hx hvs
  rw [applyValues_lambda hargs, applyLambda_waiting hw]
  refine .log_left hs fun s hs => ?_
  exact rest_follows [] args (evaluate_refines files le_rfl)
    (fun less => evaluate_refines files (by omega)) hs hy (bindFormals_append hw)

lemma single_follows_curried (room : Nat) :
    Follows s s (evaluate files room env (.sexpr (f :: xs ++ ys)))
      (evaluate files (room + 2) env (.sexpr (.sexpr (f :: xs) :: ys))) := by
  cases room with
  | zero => exact .of_tooDeep rfl
  | succ room =>
    rw [evaluate_curried, evaluate_single]
    refine (evaluate_refines files le_rfl).withValues (.refl s) fun vs hvs s t hs => ?_
    obtain ⟨args, remaining, own', rfl, hargs, hw⟩ := exists_partial hf hn hx hvs
    rw [applyValues_lambda hargs, applyLambda_waiting hw]
    refine .log_right hs fun t hs => ?_
    exact rest_follows args [] (evaluate_refines files (by omega))
      (fun less => evaluate_refines files (by omega)) hs hy fun more => (bindFormals_append hw more).symm

end

/-- From a state, one evaluation comes to the same as another: the result, the frames with all their
bindings, and whatever is printed. -/
structure SameOutcome (s : State) (x y : Eval Value) : Prop where
  result : result x s = result y s
  frames : (final x s).store = (final y s).store
  printed : (final x s).printed = (final y s).printed
  alike : (final x s).Alike (final y s)

lemma Follows.sameOutcome {x y : Eval Value} (h : Follows s s x y) (hx : result x s ≠ .error .tooDeep) :
    SameOutcome s x y := by
  obtain ⟨hr, hal⟩ := h.resolve_left hx
  exact ⟨hr, hal.store, hal.printed, hal⟩

/-- A curried call needs room for two levels more than a single one. -/
theorem curried_call_exact {enough : Nat} (x : Value) (xs : List Value) (y : Value) (ys : List Value)
    (hf : result (evaluate files enough env f) s = .ok (.lambda formals body own captured))
    (hn : (x :: xs).length < (leadingFormals formals).length) :
    (∀ room, result (evaluate files room env (.sexpr (.sexpr (f :: x :: xs) :: y :: ys))) s ≠ .error .tooDeep →
      SameOutcome s (evaluate files room env (.sexpr (.sexpr (f :: x :: xs) :: y :: ys)))
        (evaluate files room env (.sexpr (f :: x :: xs ++ y :: ys)))) ∧
    (∀ room, result (evaluate files room env (.sexpr (f :: x :: xs ++ y :: ys))) s ≠ .error .tooDeep →
      SameOutcome s (evaluate files room env (.sexpr (f :: x :: xs ++ y :: ys)))
        (evaluate files (room + 2) env (.sexpr (.sexpr (f :: x :: xs) :: y :: ys)))) ∧
    ∀ formals own args remaining own', bindFormals own formals args = .waiting remaining own' →
      ∀ more, bindFormals own' remaining more = bindFormals own formals (args ++ more) := by
  have hx : x :: xs ≠ [] := List.cons_ne_nil x xs
  have hy : y :: ys ≠ [] := List.cons_ne_nil y ys
  refine ⟨fun room => ?_, fun room => ?_, fun _ _ _ _ _ => bindFormals_append⟩
  · exact (curried_follows_single hf hn hx hy room).sameOutcome
  · exact (single_follows_curried hf hn hx hy room).sameOutcome

theorem curried_call_exact_sample :
    result (evaluate .none 9 0 (.sexpr [.lambda ["a", "b", "...", "rest"] [.symbol "rest"] [] none,
      .string "p", .string "q", .string "r", .string "t"])) {} = .ok (.qexpr [.string "r", .string "t"]) := by
  have hlambda : result (evaluate .none 9 0 (.lambda ["a", "b", "...", "rest"] [.symbol "rest"] [] none)) {} =
      .ok (.lambda ["a", "b", "...", "rest"] [.symbol "rest"] [] none) := rfl
  have hcurried : result (evaluate .none 9 0 (.sexpr [.sexpr [.lambda ["a", "b", "...", "rest"] [.symbol "rest"]
      [] none, .string "p"], .string "q", .string "r", .string "t"])) {} =
        .ok (.qexpr [.string "r", .string "t"]) := by rfl
  obtain ⟨hsame, -⟩ := curried_call_exact (.string "p") [] (.string "q") [.string "r", .string "t"] hlambda
    (by decide)
  have hsingle := (hsame 9 (by rw [hcurried]; rintro ⟨⟩)).result
  rw [hcurried] at hsingle
  exact hsingle.symm

end CurriedLisp
