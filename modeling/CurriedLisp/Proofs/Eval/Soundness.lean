import CurriedLisp.Eval.Evaluator
import CurriedLisp.Proofs.Eval.Actions
import CurriedLisp.Proofs.Eval.Binding
import CurriedLisp.Proofs.Eval.Preserves

/-! Evaluation keeps every discipline up, and of the frames there are it writes to none but the one it
evaluates in and the global one. The induction is on the room: if the evaluators below do both, then so does
the evaluator made of them. -/

namespace CurriedLisp

namespace Form

mutual

lemma plain_value : ∀ form : Form, form.value.Plain
  | number _ n => Value.plain_number n
  | symbol _ name => Value.plain_symbol name
  | string _ text => Value.plain_string text
  | list _ _ items => Value.plain_list.mpr (plain_values items)

lemma plain_values : ∀ forms : List Form, ∀ v ∈ values forms, v.Plain
  | [], _, hv => by cases hv
  | form :: rest, v, hv => by
    rcases List.mem_cons.mp hv with rfl | hv
    · exact plain_value form
    · exact plain_values rest v hv

end

end Form

lemma plain_of_readProgram {room : Nat} {source : String} {program : List Value}
    (h : readProgram room source = .ok program) : ∀ v ∈ program, v.Plain := by
  simp only [readProgram, bind_eq_ok, Reading.within] at h
  obtain ⟨forms, -, h⟩ := h
  split at h
  · cases h
    rw [← Form.values_eq_map]
    exact Form.plain_values forms
  · cases h

namespace Evaluator

variable {δ : Discipline} {g : FrameId} {files : Files} {room : Nat} {below : Nat → Evaluator}

def Sound (δ : Discipline) (g : FrameId) (self : Evaluator) : Prop :=
  ∀ s env v, δ.Holds g s.store → s.store.EndsIn env g → δ.Fits g s.store v →
    Preserves δ g (fun id => id = env ∨ id = g) s (self env v) (δ.Result g)

variable {self : Evaluator} {s : State} {env : FrameId}

lemma Sound.items (h : Sound δ g self) {l : List Value} (hs : δ.Holds g s.store)
    (he : s.store.EndsIn env g) (hl : ∀ v ∈ l, δ.Fits g s.store v) :
    Preserves δ g (fun id => id = env ∨ id = g) s (self.items env l) fun t r =>
      ∀ vs, r = .ok vs → ∀ v ∈ vs, δ.Good g t v := by
  induction l generalizing s with
  | nil =>
    refine .pure hs ?_
    rintro _ ⟨⟩
    simp
  | cons item rest ih =>
    refine (h s env item hs he (hl item List.mem_cons_self)).bind fun v t ht hg hv => ?_
    have hrest : ∀ v ∈ rest, δ.Fits g t.store v := fun v hv => (hl v (List.mem_cons_of_mem _ hv)).mono hg
    split
    · refine .pure ht ?_
      rintro _ ⟨⟩
    · next hne =>
      refine (ih ht (hg.endsIn he) hrest).bind fun r u hu hg' hr => .pure hu ?_
      intro vs hvs
      cases r with
      | error _ => cases hvs
      | ok others =>
        cases hvs
        have hgood : δ.Good g t.store v := hv.resolve_left fun hve => by
          cases v <;> simp_all [Value.isError]
        intro w hw
        rcases List.mem_cons.mp hw with rfl | hw
        · exact hgood.mono hg'
        · exact hr others rfl w hw

lemma Sound.forms (h : Sound δ g self) {sink : Sink} {l : List Value} (hs : δ.Holds g s.store)
    (he : s.store.EndsIn env g) (hl : ∀ v ∈ l, δ.Fits g s.store v) :
    Preserves δ g (fun id => id = env ∨ id = g) s (self.forms env sink l) fun _ _ => True := by
  induction l generalizing s with
  | nil => exact .pure hs trivial
  | cons form rest ih =>
    refine (h s env form hs he (hl form List.mem_cons_self)).bind fun v t ht hg _ => ?_
    have hrest : ∀ v ∈ rest, δ.Fits g t.store v := fun v hv => (hl v (List.mem_cons_of_mem _ hv)).mono hg
    cases hv : v.isError with
    | true =>
      simp only [reduceIte]
      refine (Preserves.store ht).bind fun _ u hu hg' _ => ?_
      refine (Preserves.record _ hu).bind fun _ w hw hg'' _ => ?_
      exact ih hw (hg''.endsIn (hg'.endsIn (hg.endsIn he))) fun v hv => ((hrest v hv).mono hg').mono hg''
    | false =>
      simp only [Bool.false_eq_true, reduceIte]
      exact ih ht (hg.endsIn he) hrest

lemma Sound.loadForms (h : Sound δ g self) {sink : Sink} {name : String} {l : List Value}
    (hs : δ.Holds g s.store) (he : s.store.EndsIn env g) (hl : ∀ v ∈ l, δ.Fits g s.store v) :
    Preserves δ g (fun id => id = env ∨ id = g) s (self.loadForms env sink name l) (δ.Result g) := by
  refine (Preserves.record _ hs).bind fun _ t ht hg _ => ?_
  refine (h.forms ht (hg.endsIn he) fun v hv => (hl v hv).mono hg).bind fun _ u hu _ _ => ?_
  exact .pure hu (.inr Discipline.good_nothing)

lemma Sound.loadSource (h : Sound δ g self) {sink : Sink} {name source : String}
    (hs : δ.Holds g s.store) (he : s.store.EndsIn env g) :
    Preserves δ g (fun id => id = env ∨ id = g) s (self.loadSource room env sink name source)
      (δ.Result g) := by
  unfold Evaluator.loadSource
  split
  · next program hp =>
    have hplain := plain_of_readProgram hp
    exact h.loadForms hs he fun v hv => Discipline.fits_of_plain (hplain v hv)
  · exact .pure hs (.inl rfl)
  · exact .throw _ hs

lemma Sound.loadFile (h : Sound δ g self) {sink : Sink} {name path : String}
    (hs : δ.Holds g s.store) (he : s.store.EndsIn env g) :
    Preserves δ g (fun id => id = env ∨ id = g) s (self.loadFile files room env sink name path)
      (δ.Result g) := by
  unfold Evaluator.loadFile
  cases hn : Path.hasNul path with
  | true =>
    simp only [reduceIte]
    exact (Preserves.throw (Q := fun _ _ => False) _ hs).bind fun _ _ _ _ h => h.elim
  | false =>
    simp only [Bool.false_eq_true, reduceIte]
    refine (Preserves.record _ hs).bind fun _ t ht hg _ => ?_
    split
    · exact .pure ht (.inl rfl)
    · split
      · exact .throw _ ht
      · exact h.loadSource ht (hg.endsIn he)

variable (hb : ∀ less, Sound δ g (below less))
include hb

lemma perform_preserves {a : Action} (hs : δ.Holds g s.store) (he : s.store.EndsIn env g)
    (ha : δ.Carries g s.store a) :
    Preserves δ g (fun id => id = env ∨ id = g) s (perform files room below env a) (δ.Result g) := by
  cases a with
  | give v => exact .pure hs (.inr ha)
  | compute n => exact .newNumber n hs
  | bind target new =>
    refine Preserves.bind (Q := fun _ _ => True) ?_ fun _ t ht _ _ => .pure ht (.inr Discipline.good_nothing)
    cases target with
    | caller => exact .changeBindings (fun _ => env) hs (.inl rfl) ha
    | global => exact .changeBindings (fun s => s.root env) hs (.inr he.root) ha
  | print line =>
    exact (Preserves.record _ hs).bind fun _ t ht _ _ => .pure ht (.inr Discipline.good_nothing)
  | call items => exact hb _ s env _ hs he (Discipline.fits_list.mpr ha)
  | load path => exact (hb _).loadFile hs he

lemma applyLambda_preserves {formals : List String} {body : List Value} {own : Bindings}
    {captured : Option FrameId} {args : List Value} (hs : δ.Holds g s.store) (he : s.store.EndsIn env g)
    (hf : δ.Fits g s.store (.lambda formals body own captured)) (ha : ∀ v ∈ args, δ.Good g s.store v) :
    Preserves δ g (· = g) s (applyLambda below env formals body own captured args) (δ.Result g) := by
  have hall : (bindFormals own formals args).All (δ.Good g s.store) :=
    bindFormals_all (fun l hl => Discipline.good_qexpr fun v hv => (hl v hv).2) (Discipline.good_own hf) ha
  unfold Evaluator.applyLambda
  split
  · exact .pure hs (.inl rfl)
  · next remaining own' hw =>
    rw [hw] at hall
    refine (Preserves.record _ hs).bind fun _ t ht hg _ => .pure ht (.inr ?_)
    exact (Discipline.good_applied remaining hf hall).mono hg
  · next own' hc =>
    rw [hc] at hall
    obtain ⟨⟨-, hcap⟩, hbody, -⟩ := Value.every_lambda.1 hf
    have houter : s.store.EndsIn (captured.getD env) g := by
      cases captured with
      | none => exact he
      | some c => exact hcap c rfl
    refine (Preserves.newFrame hs houter hall).bind_fresh fun frame t ht hg hframe => ?_
    refine ⟨fun id => id = frame ∨ id = g, ?_, ?_⟩
    · have hfits : ∀ v ∈ body, δ.Fits g t.store v := fun v hv => Discipline.Fits.mono hg (hbody v hv)
      exact hb _ t frame _ ht hframe.1 (Discipline.fits_list.mpr hfits)
    · rintro id (rfl | rfl) hid
      · simp [hframe.2] at hid
      · rfl

lemma apply_preserves {head : Value} {args : List Value} (hs : δ.Holds g s.store)
    (he : s.store.EndsIn env g) (hh : δ.Fits g s.store head) (ha : ∀ v ∈ args, δ.Good g s.store v) :
    Preserves δ g (fun id => id = env ∨ id = g) s (apply files room below env args head)
      (δ.Result g) := by
  unfold Evaluator.apply
  split
  · next op name =>
    refine (Preserves.store hs).bind fun st t ht hg hst => ?_
    subst hst
    split
    · exact .pure ht (.inl rfl)
    · next a hact =>
      have hsc : t.store.scoping env = δ.scoping := ((hg.endsIn he).scoping).trans ht.scoping
      have hargs : ∀ v ∈ args, δ.Good g t.store v := fun v hv => (ha v hv).mono hg
      have hcarries := Discipline.carries_of_action hsc (hg.endsIn he) hargs hact
      exact perform_preserves hb ht (hg.endsIn he) hcarries
  · exact (applyLambda_preserves hb hs he hh ha).mono fun id h => .inr h
  · exact .pure hs (.inl rfl)

lemma call_preserves {program : List Value} (hs : δ.Holds g s.store) (he : s.store.EndsIn env g)
    (hp : ∀ v ∈ program, δ.Fits g s.store v) :
    Preserves δ g (fun id => id = env ∨ id = g) s (call files room below env program) (δ.Result g) := by
  refine ((hb _).items hs he hp).bind fun r t ht hg hr => ?_
  split
  · exact .pure ht (.inl rfl)
  · exact .pure ht (.inr Discipline.good_nothing)
  · next v => exact .pure ht (.inr (hr _ rfl v (by simp)))
  · next head args _ =>
    have hgood := hr _ rfl
    exact apply_preserves hb ht (hg.endsIn he) (hgood head (by simp)).2
      fun v hv => hgood v (List.mem_cons_of_mem _ hv)

lemma step_sound : Sound δ g (step files room below) := by
  intro s env v hs he hv
  unfold Evaluator.step
  split
  · next name =>
    refine (Preserves.store hs).bind fun st t ht hg hst => .pure ht ?_
    subst hst
    cases hget : t.store.get? env name with
    | none => exact .inl rfl
    | some w =>
      obtain ⟨i, hi, hw⟩ := List.exists_of_findSome?_eq_some hget
      have hi := (hg.endsIn he).of_mem_chain hi
      exact .inr (ht.good i hi (name, w) (Bindings.mem_of_find? hw))
  · exact call_preserves hb hs he (Discipline.fits_list.mp hv)
  · next hsym hsexpr =>
    refine .pure hs ?_
    cases v with
    | symbol name => exact (hsym name rfl).elim
    | error message => exact .inl rfl
    | list b items =>
      cases b with
      | round => exact (hsexpr items rfl).elim
      | curly => exact .inr ⟨δ.bound_of_settled _ trivial, hv⟩
    | _ => exact .inr ⟨δ.bound_of_settled _ trivial, hv⟩

end Evaluator

theorem evaluate_sound (δ : Discipline) (g : FrameId) (files : Files) (room : Nat) :
    (evaluate files room).Sound δ g := by
  induction room using Nat.strongRecOn with
  | ind room ih =>
    cases room with
    | zero => exact fun s env v hs _ _ => .throw _ hs
    | succ room =>
      rw [evaluate_succ]
      exact Evaluator.step_sound fun less => ih _ (by omega)

end CurriedLisp
