import CurriedLisp.Proofs.Prelude.Lists
import CurriedLisp.Proofs.Session.NormalForms
import CurriedLisp.Proofs.Session.ScopingAgreement

/-! Sequences. A call of `do` evaluates its items as every call does; what is left is to find the last of their
values, which does not change when it is evaluated once more. -/

namespace CurriedLisp

open Eval
open Session (globalFrame eachBy)

local instance nameAsSymbol : Coe String Value := ⟨.symbol⟩

variable {self : Evaluator} {files : Files} {c : Option FrameId} {room : Nat} {s : State} {e f v : Value}
  {name message : String} {items left vs : List Value} {k : List Value → Eval Value}

lemma withValues_of_each (h : result (eachBy self items) s = .ok vs) (hvs : ∀ v ∈ vs, v.isError = false) :
    result (self.withValues globalFrame items k) s = result (k vs) (final (eachBy self items) s) ∧
      final (self.withValues globalFrame items k) s = final (k vs) (final (eachBy self items) s) := by
  induction items generalizing s vs k with
  | nil =>
    cases h
    exact ⟨rfl, rfl⟩
  | cons item rest ih =>
    obtain ⟨v, others, hv, hothers, rfl, hfinal⟩ := Session.eachBy_eq_ok h
    obtain ⟨hne, hrest⟩ := List.forall_mem_cons.mp hvs
    rw [Evaluator.withValues_cons, (bind_of_ok hv).1, (bind_of_ok hv).2, Evaluator.unlessError_eq hne, hfinal]
    exact ih hothers hrest

lemma evaluate_named (hf : s.store.get? globalFrame name = some f) (hne : f.isError = false) :
    result (evaluate files (room + 3) globalFrame (.sexpr (name :: items))) s =
        result ((evaluate files (room + 1)).withValues globalFrame items
          fun vs => evaluateValues files globalFrame (room + 2) (f :: vs)) s ∧
      final (evaluate files (room + 3) globalFrame (.sexpr (name :: items))) s =
        final ((evaluate files (room + 1)).withValues globalFrame items
          fun vs => evaluateValues files globalFrame (room + 2) (f :: vs)) s := by
  obtain ⟨hresult, hfinal⟩ := @evaluate_symbol files room globalFrame s name
  rw [hf] at hresult
  rw [evaluate_sexpr, Evaluator.withValues_cons, Nat.add_succ_sub_one, (bind_of_ok hresult).1,
    (bind_of_ok hresult).2, hfinal, Option.getD_some, Evaluator.unlessError_eq hne]
  exact ⟨rfl, rfl⟩

namespace Prelude

def sequencing (c : Option FrameId) : Value :=
  .lambda [variadicMarker, "l"] (byEmptiness ["nil"] ["last", "l"]) [] c

lemma InForce.sequencing (h : InForce c s.store globalFrame) :
    s.store.get? globalFrame "do" = some (sequencing c) :=
  h.definition _ (by simp [program, calling]) _ _ (.function "do" [variadicMarker, "l"] _)

lemma applies_sequencing (hu : Usable c s globalFrame) (hlimit : vs.length < 2 ^ 53) (hv : vs.getLast? = some v)
    (hsettled : v.Settled) :
    Applies files (12 * vs.length + 30) s globalFrame (sequencing c :: vs) v := by
  cases vs with
  | nil => cases hv
  | cons a rest =>
    refine .of_attains (takes_function hu rfl (by decide +kernel) fun t frame _ ht hframe => ?_)
    have hlist : t.store.get? frame "l" = some (.qexpr (a :: rest)) := by
      rw [Store.get?_of_frame? hframe]
      rfl
    have hlast : Yields files (12 * (a :: rest).length + 21) t frame (.sexpr ["last", "l"]) v :=
      yields_last ht (yields_symbol hlist) hlimit hv hsettled (by omega) le_rfl
    exact (yields_byEmptiness ht hlist hlast).attains_quiet

lemma evaluate_sequence (hs : InForce c s.store globalFrame)
    (hu : Usable c (final (eachBy (evaluate files (room + 1)) items) s) globalFrame)
    (h : result (eachBy (evaluate files (room + 1)) items) s = .ok vs) (hvs : ∀ v ∈ vs, v.isError = false)
    (hlimit : vs.length < 2 ^ 53) (hv : vs.getLast? = some v) (hsettled : v.Settled)
    (hroom : 12 * vs.length + 28 ≤ room) :
    result (evaluate files (room + 3) globalFrame (.sexpr ("do" :: items))) s = .ok v ∧
      (final (eachBy (evaluate files (room + 1)) items) s).Extends
        (final (evaluate files (room + 3) globalFrame (.sexpr ("do" :: items))) s) := by
  obtain ⟨hresult, hfinal⟩ := @evaluate_named files room s (sequencing c) "do" items hs.sequencing rfl
  rw [hresult, hfinal, (withValues_of_each h hvs).1, (withValues_of_each h hvs).2]
  exact applies_sequencing hu hlimit hv hsettled _ (.refl _) _ (by omega)

lemma evaluate_sequence_error (hs : InForce c s.store globalFrame)
    (h : result (eachBy (evaluate files (room + 1)) left) s = .ok vs) (hvs : ∀ v ∈ vs, v.isError = false)
    (he : result (evaluate files (room + 1) globalFrame e) (final (eachBy (evaluate files (room + 1)) left) s) =
      .ok (.error message)) (right : List Value) :
    result (evaluate files (room + 3) globalFrame (.sexpr ("do" :: (left ++ e :: right)))) s = .ok (.error message) ∧
      final (evaluate files (room + 3) globalFrame (.sexpr ("do" :: (left ++ e :: right)))) s =
        final (evaluate files (room + 1) globalFrame e) (final (eachBy (evaluate files (room + 1)) left) s) := by
  obtain ⟨hresult, hfinal⟩ := @evaluate_named files room s (sequencing c) "do" (left ++ e :: right) hs.sequencing rfl
  rw [hresult, hfinal, Evaluator.withValues_append, (withValues_of_each h hvs).1, (withValues_of_each h hvs).2,
    Evaluator.withValues_cons, (bind_of_ok he).1, (bind_of_ok he).2]
  exact ⟨rfl, rfl⟩

end Prelude

lemma State.Extends.exists_of_alike {t u : State} (h : s.Extends t) (hu : s.Alike u) :
    ∃ t', u.Extends t' ∧ t.Alike t' := by
  refine ⟨{ t with transcript := u.transcript }, ⟨fun id f hf => ?_, ?_, rfl⟩, rfl, rfl, ?_⟩
  · exact h.frames id f (hu.store ▸ hf)
  · exact h.marks.trans hu.marks
  · exact h.effects.trans hu.effects

lemma room_pos {env : FrameId} (h : result (evaluate files room env e) s = .ok v) : 1 ≤ room := by
  cases room with
  | zero => cases h
  | succ room => exact Nat.le_add_left 1 room

namespace Session

structure RunsThrough (w : World) (s : State) (es vs : List Value) (t : State) : Prop where
  values : result (evaluateEach w es) s = .ok vs
  left : final (evaluateEach w es) s = t
  noError : ∀ v ∈ vs, v.isError = false

/-- With room for two levels more than there are in `w`, and for `needed` levels, the session evaluates the expression
to `v` and leaves a state of which `K` holds, log records apart. With less room it does the same or goes too deep.
If two more levels are enough, log records are no exception with these. -/
structure EndsUp (w : World) (s : State) (needed : Nat) (e v : Value) (K : State → Prop) : Prop where
  anyRoom : ∀ room,
    (result (evaluate { w with room } e) s = .ok v ∧
      ∃ t, K t ∧ (final (evaluate { w with room } e) s).Alike t) ∨
    room < max (w.room + 2) needed ∧ result (evaluate { w with room } e) s = .error .tooDeep
  twoMore : needed ≤ w.room + 2 → K (final (evaluate { w with room := w.room + 2 } e) s)

variable {w : World} {scoping : Scoping} {es right : List Value} {t u : State}

lemma RunsThrough.nil (w : World) (s : State) : RunsThrough w s [] [] s := ⟨rfl, rfl, by simp⟩

lemma RunsThrough.cons (hv : result (evaluate w e) s = .ok v) (hne : v.isError = false)
    (h : RunsThrough w (final (evaluate w e) s) es vs t) : RunsThrough w s (e :: es) (v :: vs) t := by
  refine ⟨?_, ?_, List.forall_mem_cons.mpr ⟨hne, h.noError⟩⟩
  · rw [evaluateEach, (bind_of_ok hv).1, (bind_of_ok h.values).1]
    rfl
  · rw [evaluateEach, (bind_of_ok hv).2, (bind_of_ok h.values).2]
    exact h.left

lemma RunsThrough.each (h : RunsThrough w s es vs t) :
    result (eachBy (CurriedLisp.evaluate w.files w.room) es) s = .ok vs ∧
      final (eachBy (CurriedLisp.evaluate w.files w.room) es) s = t := by
  have heach := evaluateEach_eq (w := w) es
  exact ⟨heach ▸ h.values, heach ▸ h.left⟩

lemma RunsThrough.settled (h : RunsThrough w s es vs t) (hs : Reachable scoping s) (hes : ∀ e ∈ es, e.Plain) :
    ∀ v ∈ vs, v.Settled := by
  intro v hv
  have hd : Disciplined (.normal scoping) s.store := Reachable.disciplined (.normal scoping) hs
  have hsound := evaluate_sound (.normal scoping) globalFrame w.files w.room
  have hresult := (eachBy_preserves hsound hd.holds hd.global hes).post vs h.each.1 v hv
  rcases normal_of_result hresult with hnormal | herror
  · exact hnormal.1
  · rw [h.noError v hv] at herror
    cases herror

section Value

variable (hs : KeepsPrelude scoping s) (h : RunsThrough w s es vs t) (hes : ∀ e ∈ es, e.Plain)
  (hlimit : es.length < 2 ^ 53) (hv : vs.getLast? = some v)
  (hkept : ∀ name ∈ Prelude.words, t.store.get? globalFrame name = s.store.get? globalFrame name)
include hs h hes hlimit hv hkept

lemma do_at {room : Nat} (hroom : w.room ≤ room) (hneeded : 12 * es.length + 29 ≤ room) :
    result (CurriedLisp.evaluate w.files (room + 2) globalFrame (.sexpr ("do" :: es))) s = .ok v ∧
      t.Alike (final (eachBy (CurriedLisp.evaluate w.files room) es) s) ∧
      (final (eachBy (CurriedLisp.evaluate w.files room) es) s).Extends
        (final (CurriedLisp.evaluate w.files (room + 2) globalFrame (.sexpr ("do" :: es))) s) := by
  obtain ⟨heach, rfl⟩ := h.each
  obtain ⟨room, rfl⟩ := Nat.exists_eq_add_of_le' (Nat.le_trans (Nat.le_add_left 1 _) hneeded)
  have hlength := length_eachBy heach
  -- With more room the items do the same, so that the prelude is in force after them as well.
  rcases eachBy_follows (evaluate_refines w.files hroom) (.refl s) es with hcut | ⟨hsame, halike⟩
  · rw [heach] at hcut
    cases hcut
  · have hforce : Prelude.InForce (keptFrame scoping)
        (final (eachBy (CurriedLisp.evaluate w.files (room + 1)) es) s).store globalFrame := by
      rw [← halike.store]
      exact hs.inForce.of_kept fun name hname v hv => (hkept name hname).trans hv
    obtain ⟨hresult, hleft⟩ := Prelude.evaluate_sequence hs.inForce hforce.usable (hsame.symm.trans heach) h.noError
      (by omega) hv (h.settled hs.reachable hes v (List.mem_of_getLast? hv)) (by omega)
    exact ⟨hresult, halike, hleft⟩

lemma do_value : EndsUp w s (12 * es.length + 31) (.sexpr ("do" :: es)) v t.Extends where
  anyRoom room := by
    obtain ⟨most, hmost⟩ : ∃ most, max (w.room + 2) (12 * es.length + 31) = most + 2 :=
      ⟨max (w.room + 2) (12 * es.length + 31) - 2, by omega⟩
    obtain ⟨hresult, halike, hleft⟩ := do_at hs h hes hlimit hv hkept (by omega : w.room ≤ most) (by omega)
    obtain ⟨u, hu, hfinal⟩ := hleft.exists_of_alike halike.symm
    rw [hmost]
    exact (evaluate_same_or_tooDeep hresult room).imp_left fun ⟨hsame, hmore⟩ => ⟨hsame, u, hu, hmore.trans hfinal⟩
  twoMore hneeded := by
    obtain ⟨-, -, hleft⟩ := do_at hs h hes hlimit hv hkept le_rfl (by omega)
    rw [h.each.2] at hleft
    exact hleft

end Value

lemma do_error (hs : KeepsPrelude scoping s) (h : RunsThrough w s left vs t)
    (he : result (evaluate w e) t = .ok (.error message)) (hu : final (evaluate w e) t = u) (right : List Value) :
    EndsUp w s 0 (.sexpr ("do" :: (left ++ e :: right))) (.error message) (· = u) := by
  obtain ⟨heach, rfl⟩ := h.each
  obtain ⟨room, hroom⟩ := Nat.exists_eq_add_of_le' (CurriedLisp.room_pos he)
  have hcall : result (evaluate { w with room := w.room + 2 } (.sexpr ("do" :: (left ++ e :: right)))) s =
        .ok (.error message) ∧
      final (evaluate { w with room := w.room + 2 } (.sexpr ("do" :: (left ++ e :: right)))) s = u := by
    unfold evaluate World.evaluate at he hu ⊢
    rw [hroom] at heach he hu ⊢
    obtain ⟨hresult, hleft⟩ := Prelude.evaluate_sequence_error hs.inForce heach h.noError he right
    exact ⟨hresult, hleft.trans hu⟩
  refine ⟨fun room => ?_, fun _ => hcall.2⟩
  rw [Nat.max_zero]
  exact (evaluate_same_or_tooDeep hcall.1 room).imp_left fun ⟨hsame, hmore⟩ => ⟨hsame, u, rfl, hcall.2 ▸ hmore⟩

/-- A call of `do` comes to the value of its last item and to no more effects than its items have one after the other;
or it comes to the first error among them, and no item after that is evaluated. -/
theorem do_sequences (hs : KeepsPrelude scoping s) (w : World) :
    (∀ es vs t v, (∀ e ∈ es, e.Plain) → es.length < 2 ^ 53 → RunsThrough w s es vs t → vs.getLast? = some v →
      (∀ name ∈ Prelude.words, t.store.get? globalFrame name = s.store.get? globalFrame name) →
        EndsUp w s (12 * es.length + 31) (.sexpr ("do" :: es)) v t.Extends) ∧
    ∀ left e right vs t u message, RunsThrough w s left vs t → result (evaluate w e) t = .ok (.error message) →
      final (evaluate w e) t = u →
        EndsUp w s 0 (.sexpr ("do" :: (left ++ e :: right))) (.error message) (· = u) :=
  ⟨fun _ _ _ _ hes hlimit h hv hkept => do_value hs h hes hlimit hv hkept,
    fun _ _ right _ _ _ _ h he hu => do_error hs h he hu right⟩

theorem do_sequences_defining :
    result (evaluate { room := 62 } (.sexpr ["do", .sexpr ["def", .qexpr ["x"], .string "a"], "x"]))
      (final (start { room := 60 } (some .dynamic) true) {}) = .ok (.string "a") ∧
    result (evaluate { room := 62 } (.sexpr ["do", .sexpr ["def", .qexpr ["x"], .string "a"], "y", "x"]))
      (final (start { room := 60 } (some .dynamic) true) {}) = .ok (.error "unbound symbol: y") := by
  have hs := keepsPrelude_start .dynamic
  have hy : (final (start { room := 60 } (some .dynamic) true) {}).store.get? globalFrame "y" = none := by
    rw [← Option.isNone_iff_eq_none]
    decide +kernel
  generalize final (start { room := 60 } (some .dynamic) true) {} = s at hs hy ⊢
  have hglobal : s.store.EndsIn globalFrame globalFrame := (hs.reachable.disciplined (.normal .dynamic)).global
  obtain ⟨hform, hfinal⟩ : result (evaluate { room := 60 } (.sexpr ["def", .qexpr ["x"], .string "a"])) s =
        .ok .nothing ∧
      final (evaluate { room := 60 } (.sexpr ["def", .qexpr ["x"], .string "a"])) s =
        { s with store := s.store.update globalFrame (·.putAll [("x", .string "a")]) } :=
    evaluate_binding_run (a := .qexpr ["x"]) (b := .string "a") hglobal (hs.inForce.builtin .define) trivial trivial
      (.define [("x", .string "a")]) .none 57
  have hget := Store.get?_bind hglobal "x" (.string "a")
  have hsymbol := fun name => @evaluate_symbol .none 59 globalFrame
    { s with store := s.store.update globalFrame (·.putAll [("x", .string "a")]) } name
  simp only [hget] at hsymbol
  refine ⟨?_, ?_⟩
  · have hrun : RunsThrough { room := 60 } s [.sexpr ["def", .qexpr ["x"], .string "a"], "x"] [.nothing, .string "a"]
        { s with store := s.store.update globalFrame (·.putAll [("x", .string "a")]) } := by
      refine .cons hform rfl (.cons (hfinal ▸ (hsymbol "x").1) rfl ?_)
      rw [hfinal, show final (evaluate { room := 60 } "x") _ = _ from (hsymbol "x").2]
      exact .nil _ _
    have hkept : ∀ name ∈ Prelude.words, name ≠ "x" := by decide +kernel
    have hplain : ∀ e ∈ [Value.sexpr ["def", .qexpr ["x"], .string "a"], "x"], e.Plain := by
      simp [Value.plain_list, Value.plain_symbol, Value.plain_string]
    have hdo := (do_sequences hs { room := 60 }).1 _ _ _ _ hplain (by decide) hrun rfl fun name hname =>
      (hget name).trans (if_neg (hkept name hname))
    rcases hdo.anyRoom 62 with ⟨hresult, -⟩ | ⟨hroom, -⟩
    · exact hresult
    · exact absurd hroom (by decide)
  · have hunbound : result (evaluate { room := 60 } "y") (final (evaluate { room := 60 }
        (.sexpr ["def", .qexpr ["x"], .string "a"])) s) = .ok (.error "unbound symbol: y") := by
      rw [hfinal]
      refine (hsymbol "y").1.trans ?_
      rw [if_neg (by decide), hy]
      rfl
    have hdo := (do_sequences hs { room := 60 }).2 _ "y" ["x"] _ _ _ _ (.cons hform rfl (.nil _ _)) hunbound rfl
    rcases hdo.anyRoom 62 with ⟨hresult, -⟩ | ⟨hroom, -⟩
    · exact hresult
    · exact absurd hroom (by decide)

end Session

end CurriedLisp
