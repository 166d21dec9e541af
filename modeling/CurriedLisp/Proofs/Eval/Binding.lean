import CurriedLisp.Eval.Bind
import CurriedLisp.Proofs.Store.Growth
import CurriedLisp.Proofs.Store.Rebinding

namespace CurriedLisp

def Bound.All (p : Value → Prop) : Bound → Prop
  | .complete own | .waiting _ own => ∀ b ∈ own, p b.2
  | .refused _ => True

lemma bindFormals_all {p : Value → Prop} {own : Bindings} {formals : List String} {args : List Value}
    (hq : ∀ l : List Value, (∀ v ∈ l, p v) → p (.qexpr l)) (ho : ∀ b ∈ own, p b.2) (ha : ∀ v ∈ args, p v) :
    (bindFormals own formals args).All p := by
  have hput : ∀ (own : Bindings) (name : String) (v : Value), (∀ b ∈ own, p b.2) → p v →
      ∀ b ∈ own.put name v, p b.2 := by
    intro own name v ho hv b hb
    rcases Bindings.mem_put hb with hb | rfl
    · exact ho b hb
    · exact hv
  fun_induction bindFormals own formals args with
  | case1 own => exact ho
  | case2 => trivial
  | case3 => trivial
  | case4 own args last => exact hput _ _ _ ho (hq _ ha)
  | case5 => trivial
  | case6 => exact ho
  | case7 own formal rest _ a others ih =>
    exact ih (hput _ _ _ ho (ha a List.mem_cons_self)) fun v hv => ha v (List.mem_cons_of_mem _ hv)

def Bound.Distinct : Bound → Prop
  | .complete own | .waiting _ own => own.names.Nodup
  | .refused _ => True

lemma bindFormals_distinct {own : Bindings} (h : own.names.Nodup) (formals : List String) (args : List Value) :
    (bindFormals own formals args).Distinct := by
  fun_induction bindFormals own formals args with
  | case1 => exact h
  | case4 own args last => exact Bindings.nodup_put h last _
  | case6 => exact h
  | case7 own formal rest _ a others ih => exact ih (Bindings.nodup_put h formal a)
  | _ => trivial

lemma names_of_complete {own own' : Bindings} {formals : List String} {args : List Value}
    (h : bindFormals own formals args = .complete own') :
    ∀ name ∈ own'.names, name ∈ own.names ∨ name ∈ formals := by
  have hput : ∀ (own : Bindings) (formal : String) (v : Value), ∀ name ∈ (own.put formal v).names,
      name ∈ own.names ∨ name = formal := by
    intro own formal v name hname
    rw [Bindings.names_put] at hname
    split at hname
    · exact .inl hname
    · simpa using hname
  fun_induction bindFormals own formals args with
  | case1 own =>
    cases h
    exact fun _ => .inl
  | case4 own args last =>
    cases h
    exact fun name hname => (hput _ _ _ name hname).imp_right fun he => by simp [he]
  | case7 own formal rest _ a others ih =>
    intro name hname
    rcases ih h name hname with hname | hname
    · exact (hput _ _ _ name hname).imp_right fun he => by simp [he]
    · exact .inr (List.mem_cons_of_mem _ hname)
  | _ => cases h

def leadingFormals (formals : List String) : List String := formals.takeWhile (· ≠ variadicMarker)

variable {own own' : Bindings} {formals remaining rest : List String} {formal : String} {args : List Value}

lemma bindFormals_cons (h : formal ≠ variadicMarker) (a : Value) :
    bindFormals own (formal :: rest) (a :: args) = bindFormals (own.put formal a) rest args := by
  conv_lhs => unfold bindFormals
  rw [if_neg h]

theorem bindFormals_append (h : bindFormals own formals args = .waiting remaining own') (more : List Value) :
    bindFormals own' remaining more = bindFormals own formals (args ++ more) := by
  fun_induction bindFormals own formals args with
  | case6 own formal rest hne =>
    cases h
    rfl
  | case7 own formal rest hne a others ih =>
    rw [ih h, List.cons_append, bindFormals_cons hne]
  | _ => cases h

lemma exists_waiting (own : Bindings) (h : args.length < (leadingFormals formals).length) :
    ∃ remaining own', bindFormals own formals args = .waiting remaining own' := by
  fun_induction bindFormals own formals args with
  | case6 => exact ⟨_, _, rfl⟩
  | case7 own formal rest hne a others ih => exact ih (by simpa [leadingFormals, hne] using h)
  | _ => simp_all [leadingFormals]

end CurriedLisp
