import CurriedLisp.Eval.Evaluator
import CurriedLisp.Proofs.Eval.Actions
import CurriedLisp.Proofs.Eval.Binding
import CurriedLisp.Proofs.Eval.Runs
import CurriedLisp.Proofs.Store.Growth
import CurriedLisp.Proofs.Store.Rebinding
import CurriedLisp.Proofs.Value.Words

/-! Evaluation makes no names. If all names in a store and in an expression are words, then so are those in
what comes out; and no frame and no function binds one of them twice. The induction is on the room. -/

namespace CurriedLisp

open Eval

def WordedBindings (new : List (String × Value)) : Prop := ∀ b ∈ new, (Value.symbol b.1).Worded ∧ b.2.Worded

structure Store.Worded (g : FrameId) (s : Store) : Prop where
  values : ∀ id, ∀ b ∈ s.bindings id, b.2.Worded
  isSome : (s.frame? g).isSome
  words : ∀ name ∈ (s.bindings g).names, IsWord name
  distinct : ∀ id, (s.bindings id).names.Nodup

namespace Store.Worded

open Store

variable {g : FrameId} {s : Store}

lemma update (h : s.Worded g) (id : FrameId) {new : List (String × Value)} (hn : WordedBindings new) :
    (s.update id (·.putAll new)).Worded g := by
  have hbindings : ∀ i, (s.update id (·.putAll new)).bindings i = s.bindings i ∨
      (s.update id (·.putAll new)).bindings i = (s.bindings i).putAll new := by
    intro i
    rw [bindings_update]
    split
    · exact .inr rfl
    · exact .inl rfl
  refine ⟨fun i b hb => ?_, ?_, ?_, ?_⟩
  · rcases hbindings i with he | he
    · exact h.values i b (he ▸ hb)
    · rw [he] at hb
      rcases Bindings.mem_putAll hb with hb | ⟨other, ho, hvalue⟩
      · exact h.values i b hb
      · exact hvalue ▸ (hn other ho).2
  · rw [Store.frame?_update, Option.isSome_map]
    exact h.isSome
  · rcases hbindings g with he | he
    · exact he ▸ h.words
    · intro name hname
      rw [he, Bindings.names_putAll, List.mem_append, List.mem_eraseDups] at hname
      rcases hname with hold | hnew
      · exact h.words name hold
      · obtain ⟨b, hb, rfl⟩ := List.mem_map.mp (List.mem_of_mem_filter hnew)
        exact Value.worded_symbol.mp (hn b hb).1
  · intro i
    rcases hbindings i with he | he
    · exact he ▸ h.distinct i
    · exact he ▸ Bindings.nodup_putAll (h.distinct i) new

lemma alloc (h : s.Worded g) {f : Frame} (hf : ∀ b ∈ f.bindings, b.2.Worded) (hd : f.bindings.names.Nodup) :
    (s.alloc f).2.Worded g := by
  have hg : (s.alloc f).2.frame? g = s.frame? g := s.frame?_alloc f (frame?_isSome_iff.mp h.isSome)
  have hbindings : ∀ i, (s.alloc f).2.bindings i = s.bindings i ∨ (s.alloc f).2.bindings i = f.bindings := by
    intro i
    rw [bindings_alloc]
    split
    · exact .inr rfl
    · exact .inl rfl
  refine ⟨fun i b hb => ?_, hg ▸ h.isSome, ?_, fun i => ?_⟩
  · rcases hbindings i with he | he
    · exact h.values i b (he ▸ hb)
    · exact hf b (he ▸ hb)
  · rw [Store.bindings, hg]
    exact h.words
  · rcases hbindings i with he | he
    · exact he ▸ h.distinct i
    · exact he ▸ hd

lemma get? (h : s.Worded g) {env : FrameId} {name : String} {v : Value} (hv : s.get? env name = some v) :
    v.Worded := by
  obtain ⟨i, -, hw⟩ := List.exists_of_findSome?_eq_some hv
  exact h.values i (name, v) (Bindings.mem_of_find? hw)

end Store.Worded

lemma Builtin.keeps_worded (s : Store) (env : FrameId) : Builtin.Keeps s env Value.Worded Value.Worded where
  inside_of_given h := h
  number := Value.worded_number
  qexpr := Value.worded_list
  created _ _ hnames hbody :=
    Value.worded_lambda.mpr ⟨⟨Value.worded_symbols.mp hnames, List.nodup_nil⟩, hbody, List.forall_mem_nil _⟩

lemma bindFormals_suffix {own own' : Bindings} {formals remaining : List String} {args : List Value}
    (h : bindFormals own formals args = .waiting remaining own') : remaining <:+ formals := by
  fun_induction bindFormals own formals args with
  | case6 own formal rest =>
    cases h
    exact List.suffix_rfl
  | case7 own formal rest _ a others ih => exact (ih h).trans (List.suffix_cons formal rest)
  | _ => cases h

def KeepsWords {α : Type} (g : FrameId) (x : Eval α) (Q : α → Prop) : Prop :=
  ∀ s : State, s.store.Worded g → (final x s).store.Worded g ∧ ∀ a, result x s = .ok a → Q a

namespace KeepsWords

variable {α β : Type} {g : FrameId} {x : Eval α} {Q : α → Prop}

lemma pure {a : α} (ha : Q a) : KeepsWords g (Pure.pure a) Q := by
  refine fun s hs => ⟨hs, ?_⟩
  rintro _ ⟨⟩
  exact ha

lemma throw (e : Fault) : KeepsWords g (MonadExcept.throw e : Eval α) Q := by
  refine fun s hs => ⟨hs, ?_⟩
  rintro _ ⟨⟩

lemma bind {f : α → Eval β} {Q' : β → Prop} (hx : KeepsWords g x Q)
    (hf : ∀ a, Q a → KeepsWords g (f a) Q') : KeepsWords g (x >>= f) Q' := by
  intro s hs
  obtain ⟨hstore, hresult⟩ := hx s hs
  cases hr : result x s with
  | error e =>
    obtain ⟨hre, hst⟩ := bind_of_error (f := f) hr
    rw [hre, hst]
    exact ⟨hstore, by rintro _ ⟨⟩⟩
  | ok a =>
    obtain ⟨hre, hst⟩ := bind_of_ok (f := f) hr
    rw [hre, hst]
    exact hf a (hresult a hr) _ hstore

lemma record (e : Event) : KeepsWords g (Eval.record e) fun _ => True :=
  fun _ hs => ⟨hs, fun _ _ => trivial⟩

lemma store : KeepsWords g Eval.store (Store.Worded g) := by
  refine fun s hs => ⟨hs, ?_⟩
  rintro _ ⟨⟩
  exact hs

lemma newNumber (n : Number) : KeepsWords g (Eval.newNumber n) Value.Worded := by
  intro s hs
  obtain ⟨⟨m, hm⟩, hst⟩ := newNumber_run (s := s) n
  refine ⟨hst ▸ hs, fun v hv => ?_⟩
  obtain rfl := Except.ok.inj (hm.symm.trans hv)
  exact Value.worded_number m

lemma changeBindings (target : Store → FrameId) {new : List (String × Value)} (hn : WordedBindings new) :
    KeepsWords g (Eval.changeStore fun t => t.update (target t) (·.putAll new)) fun _ => True :=
  fun s hs => ⟨hs.update (target s.store) hn, fun _ _ => trivial⟩

lemma newFrame {f : Frame} (hf : ∀ b ∈ f.bindings, b.2.Worded) (hd : f.bindings.names.Nodup) :
    KeepsWords g (Eval.newFrame f) fun _ => True :=
  fun _ hs => ⟨hs.alloc hf hd, fun _ _ => trivial⟩

end KeepsWords

namespace Evaluator

variable {g : FrameId} {files : Files} {room : Nat} {below : Nat → Evaluator} {env : FrameId}

def MakesNoNames (g : FrameId) (self : Evaluator) : Prop :=
  ∀ env v, v.Worded → KeepsWords g (self env v) Value.Worded

section Parts

variable {self : Evaluator} {sink : Sink} {l : List Value} (h : MakesNoNames g self)
include h

lemma MakesNoNames.items (hl : ∀ v ∈ l, v.Worded) :
    KeepsWords g (self.items env l) fun r => ∀ vs, r = .ok vs → ∀ v ∈ vs, v.Worded := by
  induction l with
  | nil =>
    refine .pure ?_
    rintro _ ⟨⟩
    simp
  | cons item rest ih =>
    obtain ⟨hitem, hrest⟩ := List.forall_mem_cons.mp hl
    refine (h env item hitem).bind fun v hv => ?_
    split
    · refine .pure ?_
      rintro _ ⟨⟩
    · refine (ih hrest).bind fun r hr => .pure fun vs hvs => ?_
      cases r with
      | error _ => cases hvs
      | ok others =>
        cases hvs
        exact List.forall_mem_cons.mpr ⟨hv, hr others rfl⟩

lemma MakesNoNames.forms (hl : ∀ v ∈ l, v.Worded) : KeepsWords g (self.forms env sink l) fun _ => True := by
  induction l with
  | nil => exact .pure trivial
  | cons form rest ih =>
    obtain ⟨hform, hrest⟩ := List.forall_mem_cons.mp hl
    refine (h env form hform).bind fun v _ => ?_
    cases v.isError with
    | true => exact KeepsWords.store.bind fun _ _ => (KeepsWords.record _).bind fun _ _ => ih hrest
    | false => exact ih hrest

lemma MakesNoNames.loadForms {name : String} (hl : ∀ v ∈ l, v.Worded) :
    KeepsWords g (self.loadForms env sink name l) Value.Worded :=
  (KeepsWords.record _).bind fun _ _ => (h.forms hl).bind fun _ _ => .pure Value.worded_nothing

lemma MakesNoNames.loadSource {name source : String} :
    KeepsWords g (self.loadSource room env sink name source) Value.Worded := by
  rw [Evaluator.loadSource]
  split
  · next hp => exact h.loadForms (worded_of_readProgram hp)
  · exact .pure (Value.worded_error _)
  · exact .throw _

lemma MakesNoNames.loadFile {name path : String} :
    KeepsWords g (self.loadFile files room env sink name path) Value.Worded := by
  rw [Evaluator.loadFile]
  cases Path.hasNul path with
  | true => exact (KeepsWords.throw (Q := fun _ => False) _).bind fun _ hfalse => hfalse.elim
  | false =>
    simp only [Bool.false_eq_true, reduceIte]
    refine (KeepsWords.record _).bind fun _ _ => ?_
    split
    · exact .pure (Value.worded_error _)
    · split
      · exact .throw _
      · exact h.loadSource

end Parts

variable (hb : ∀ less, MakesNoNames g (below less))
include hb

lemma perform_worded {a : Action} (ha : a.Carries Value.Worded Value.Worded) :
    KeepsWords g (perform files room below env a) Value.Worded := by
  cases a with
  | give v => exact .pure ha
  | compute n => exact .newNumber n
  | bind target new =>
    cases target with
    | caller => exact (KeepsWords.changeBindings (fun _ => env) ha).bind fun _ _ => .pure Value.worded_nothing
    | global =>
      exact (KeepsWords.changeBindings (fun s => s.root env) ha).bind fun _ _ => .pure Value.worded_nothing
  | print line => exact (KeepsWords.record _).bind fun _ _ => .pure Value.worded_nothing
  | call items => exact hb _ env _ (Value.worded_list.mpr ha)
  | load path => exact (hb _).loadFile

lemma applyLambda_worded {formals : List String} {body : List Value} {own : Bindings}
    {captured : Option FrameId} {args : List Value} (hf : (Value.lambda formals body own captured).Worded)
    (ha : ∀ v ∈ args, v.Worded) :
    KeepsWords g (applyLambda below env formals body own captured args) Value.Worded := by
  obtain ⟨⟨hformals, hnames⟩, hbody, hown⟩ := Value.worded_lambda.mp hf
  have hall : (bindFormals own formals args).All Value.Worded :=
    bindFormals_all (fun l hl => Value.worded_list.mpr hl) hown ha
  have hdistinct := bindFormals_distinct hnames formals args
  rw [Evaluator.applyLambda]
  split
  · exact .pure (Value.worded_error _)
  · next remaining own' hw =>
    rw [hw] at hall hdistinct
    have hremaining : ∀ name ∈ remaining, IsWord name :=
      fun name hn => hformals name ((bindFormals_suffix hw).subset hn)
    refine (KeepsWords.record _).bind fun _ _ => .pure ?_
    exact Value.worded_lambda.mpr ⟨⟨hremaining, hdistinct⟩, hbody, hall⟩
  · next own' hc =>
    rw [hc] at hall hdistinct
    refine (KeepsWords.newFrame (f := ⟨own', some (captured.getD env), none⟩) hall hdistinct).bind fun frame _ => ?_
    exact hb _ frame _ (Value.worded_list.mpr hbody)

lemma apply_worded {head : Value} {args : List Value} (hh : head.Worded) (ha : ∀ v ∈ args, v.Worded) :
    KeepsWords g (apply files room below env args head) Value.Worded := by
  cases head with
  | builtin op name =>
    refine KeepsWords.store.bind fun s _ => ?_
    split
    · exact .pure (Value.worded_error _)
    · next haction => exact perform_worded hb (Builtin.carries_of_action (Builtin.keeps_worded s env) ha haction)
  | lambda formals body own captured => exact applyLambda_worded hb hh ha
  | _ => exact .pure (Value.worded_error _)

lemma call_worded {program : List Value} (hp : ∀ v ∈ program, v.Worded) :
    KeepsWords g (call files room below env program) Value.Worded := by
  refine ((hb _).items hp).bind fun r hr => ?_
  split
  · exact .pure (Value.worded_error _)
  · exact .pure Value.worded_nothing
  · exact .pure (hr _ rfl _ List.mem_cons_self)
  · obtain ⟨hhead, hargs⟩ := List.forall_mem_cons.mp (hr _ rfl)
    exact apply_worded hb hhead hargs

lemma step_makesNoNames : MakesNoNames g (step files room below) := by
  intro env v hv
  cases v with
  | symbol name =>
    refine KeepsWords.store.bind fun s hs => .pure ?_
    cases hget : s.get? env name with
    | none => exact Value.worded_error _
    | some w => exact hs.get? hget
  | list b items =>
    cases b with
    | round => exact call_worded hb (Value.worded_list.mp hv)
    | curly => exact .pure hv
  | _ => exact .pure hv

end Evaluator

theorem evaluate_makesNoNames (g : FrameId) (files : Files) (room : Nat) :
    (evaluate files room).MakesNoNames g := by
  induction room using Nat.strongRecOn with
  | ind room ih =>
    cases room with
    | zero => exact fun _ _ _ => .throw _
    | succ room =>
      rw [evaluate_succ]
      exact Evaluator.step_makesNoNames fun less => ih _ (by omega)

end CurriedLisp
