import CurriedLisp.Eval.Evaluator
import CurriedLisp.Proofs.Eval.Follows
import CurriedLisp.Proofs.Syntax.Parsing

/-! More room changes nothing but that fewer evaluations are cut off. The induction is on the room: if
evaluators below refine others, then so do the evaluators made of them. -/

namespace CurriedLisp

open Eval

lemma within_mono {room larger : Nat} (h : room ≤ larger) (values : List Value) :
    Reading.within room values = .error .tooDeep ∨ Reading.within room values = Reading.within larger values := by
  unfold Reading.within
  split
  · next hroom =>
    have hlarger : (values.all fun v => Reading.bracketLevels * v.nesting ≤ larger) = true := by
      rw [List.all_eq_true] at hroom ⊢
      exact fun v hv => decide_eq_true ((of_decide_eq_true (hroom v hv)).trans h)
    rw [if_pos hlarger]
    exact .inr rfl
  · exact .inl rfl

lemma readProgram_mono {room larger : Nat} (h : room ≤ larger) (source : String) :
    readProgram room source = .error .tooDeep ∨ readProgram room source = readProgram larger source := by
  have hlimit : Reading.parserLimit room ≤ Reading.parserLimit larger := Nat.div_le_div_right h
  unfold readProgram
  rcases parseProgram_mono hlimit source with hp | hp
  · rw [hp]
    exact .inl rfl
  rw [← hp]
  cases parseProgram (Reading.parserLimit room) source with
  | error e => exact .inr rfl
  | ok forms => exact within_mono h (forms.map Form.value)

namespace Evaluator

def Refines (self other : Evaluator) : Prop :=
  ∀ s t env v, s.Alike t → Follows s t (self env v) (other env v)

variable {self other : Evaluator} {files : Files} {room larger : Nat} {below above : Nat → Evaluator}
  {s t : State} {env : FrameId}

lemma Refines.items (h : self.Refines other) (hs : s.Alike t) (l : List Value) :
    Follows s t (self.items env l) (other.items env l) := by
  induction l generalizing s t with
  | nil => exact .pure hs _
  | cons item rest ih =>
    refine (h s t env item hs).bind fun v s t hs => ?_
    split
    · exact .pure hs _
    · exact (ih hs).bind fun r s t hs => .pure hs _

lemma Refines.forms (h : self.Refines other) (hs : s.Alike t) (sink : Sink) (l : List Value) :
    Follows s t (self.forms env sink l) (other.forms env sink l) := by
  induction l generalizing s t with
  | nil => exact .pure hs _
  | cons form rest ih =>
    refine (h s t env form hs).bind fun v s t hs => ?_
    cases v.isError with
    | true =>
      simp only [reduceIte]
      exact (Follows.store hs).bind fun st s t hs => (Follows.record hs _).bind fun _ s t hs => ih hs
    | false =>
      simp only [Bool.false_eq_true, reduceIte]
      exact ih hs

lemma Refines.loadForms (h : self.Refines other) (hs : s.Alike t) (sink : Sink) (name : String)
    (l : List Value) : Follows s t (self.loadForms env sink name l) (other.loadForms env sink name l) :=
  (Follows.record hs _).bind fun _ _ _ hs => (h.forms hs sink l).bind fun _ _ _ hs => .pure hs _

lemma Refines.loadSource (h : self.Refines other) (hr : room ≤ larger) (hs : s.Alike t) (sink : Sink)
    (name source : String) :
    Follows s t (self.loadSource room env sink name source) (other.loadSource larger env sink name source) := by
  unfold Evaluator.loadSource
  rcases readProgram_mono hr source with hp | hp
  · rw [hp]
    exact .of_tooDeep rfl
  rw [← hp]
  split
  · exact h.loadForms hs sink name _
  · exact .pure hs _
  · exact .throw hs _

lemma Refines.loadFile (h : self.Refines other) (hr : room ≤ larger) (hs : s.Alike t) (sink : Sink)
    (name path : String) :
    Follows s t (self.loadFile files room env sink name path)
      (other.loadFile files larger env sink name path) := by
  unfold Evaluator.loadFile
  cases Path.hasNul path with
  | true =>
    simp only [reduceIte]
    exact (Follows.throw hs _).bind_of_result (by rintro a ⟨⟩)
  | false =>
    simp only [Bool.false_eq_true, reduceIte]
    refine (Follows.record hs _).bind fun _ s t hs => ?_
    split
    · exact .pure hs _
    · split
      · exact .throw hs _
      · exact h.loadSource hr hs sink name _

variable (hb : ∀ less, (below less).Refines (above less))
include hb

lemma perform_follows (hr : room ≤ larger) (hs : s.Alike t) (a : Action) :
    Follows s t (perform files room below env a) (perform files larger above env a) := by
  cases a with
  | give v => exact .pure hs v
  | compute n => exact .newNumber hs n
  | bind target new => exact (Follows.changeStore hs _).bind fun _ s t hs => .pure hs _
  | print line => exact (Follows.record hs _).bind fun _ s t hs => .pure hs _
  | call items => exact hb _ s t env _ hs
  | load path => exact (hb _).loadFile (Nat.sub_le_sub_right hr _) hs _ _ _

lemma applyLambda_follows (hs : s.Alike t) {formals formals' : List String} {own own' : Bindings}
    {args args' : List Value} (h : bindFormals own formals args = bindFormals own' formals' args')
    (body : List Value) (captured : Option FrameId) :
    Follows s t (applyLambda below env formals body own captured args)
      (applyLambda above env formals' body own' captured args') := by
  unfold applyLambda
  rw [h]
  split
  · exact .pure hs _
  · exact (Follows.log hs _ _).bind fun _ s t hs => .pure hs _
  · exact (Follows.newFrame hs _).bind fun frame s t hs => hb _ s t frame _ hs

lemma apply_follows (hr : room ≤ larger) (hs : s.Alike t) (args : List Value) (head : Value) :
    Follows s t (apply files room below env args head) (apply files larger above env args head) := by
  unfold apply
  split
  · unfold applyBuiltin
    refine (Follows.store hs).bind fun st s t hs => ?_
    split
    · exact .pure hs _
    · exact perform_follows hb hr hs _
  · exact applyLambda_follows hb hs rfl _ _
  · exact .pure hs _

lemma call_follows (hr : room ≤ larger) (hs : s.Alike t) (program : List Value) :
    Follows s t (call files room below env program) (call files larger above env program) := by
  refine ((hb _).items hs program).bind fun r s t hs => ?_
  split
  · exact .pure hs _
  · exact .pure hs _
  · exact .pure hs _
  · exact apply_follows hb hr hs _ _

lemma step_refines (hr : room ≤ larger) : Refines (step files room below) (step files larger above) := by
  intro s t env v hs
  unfold step
  split
  · exact (Follows.store hs).bind fun st s t hs => .pure hs _
  · exact call_follows hb hr hs _
  · exact .pure hs _

end Evaluator

theorem evaluate_refines (files : Files) {room larger : Nat} (hr : room ≤ larger) :
    (evaluate files room).Refines (evaluate files larger) := by
  induction room using Nat.strongRecOn generalizing larger with
  | ind room ih =>
    cases room with
    | zero => exact fun s t env v _ => .of_tooDeep rfl
    | succ room =>
      obtain ⟨larger, rfl⟩ : ∃ n, larger = n + 1 := ⟨larger - 1, by omega⟩
      have hroom : room ≤ larger := Nat.le_of_succ_le_succ hr
      rw [evaluate_succ, evaluate_succ]
      exact Evaluator.step_refines (fun less => ih _ (by omega) (Nat.sub_le_sub_right hroom less)) hroom

theorem evaluate_same_or_tooDeep {files : Files} {enough : Nat} {env : FrameId} {e v : Value} {s : State}
    (h : result (evaluate files enough env e) s = .ok v) (room : Nat) :
    (result (evaluate files room env e) s = .ok v ∧
      (final (evaluate files room env e) s).Alike (final (evaluate files enough env e) s)) ∨
    room < enough ∧ result (evaluate files room env e) s = .error .tooDeep := by
  rcases Nat.lt_or_ge room enough with hroom | hroom
  · rcases evaluate_refines files hroom.le s s env e (.refl s) with hcut | ⟨hsame, halike⟩
    · exact .inr ⟨hroom, hcut⟩
    · exact .inl ⟨hsame.trans h, halike⟩
  · rcases evaluate_refines files hroom s s env e (.refl s) with hcut | ⟨hsame, halike⟩
    · rw [h] at hcut
      cases hcut
    · exact .inl ⟨hsame.symm.trans h, halike.symm⟩

end CurriedLisp
