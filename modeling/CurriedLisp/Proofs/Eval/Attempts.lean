import CurriedLisp.Eval.Contract
import CurriedLisp.Number.Arithmetic
import CurriedLisp.Value.Conversion
import Mathlib.Tactic.Lemma

/-! Steps that rely on their arguments without looking, and the checks that come before them. A step that is
wrong about its arguments is a defect, which is nothing that a program could have for a value. -/

namespace CurriedLisp

inductive Defect where
  | conversion (e : ConversionError)
  | part (kind : Kind)
  | index (position length : Nat)
  | key (name : String)
  | unpacking (length : Nat)
  | unbound (name : String)
  | zeroDivision
  | mathDomain

/-- What comes of an operation: a complaint is a result, a defect is none. -/
inductive Attempt (α : Type) where
  | value (a : α)
  | complaint (c : Complaint)
  | defect (d : Defect)

namespace Attempt

variable {α β : Type}

def andThen (x : Attempt α) (f : α → Attempt β) : Attempt β :=
  match x with
  | value a => f a
  | complaint c => complaint c
  | defect d => defect d

instance : Monad Attempt where
  pure := value
  bind := andThen

def settle : Except Complaint α → Attempt α
  | .ok a => value a
  | .error c => complaint c

@[simp] lemma value_bind (a : α) (f : α → Attempt β) : value a >>= f = f a := rfl

lemma bind_assoc {γ : Type} (x : Attempt α) (f : α → Attempt β) (g : β → Attempt γ) :
    x >>= f >>= g = x >>= fun a => f a >>= g := by
  cases x <;> rfl

lemma settle_bind (x : Except Complaint α) (f : α → Except Complaint β) :
    settle (x >>= f) = settle x >>= fun a => settle (f a) := by
  cases x <;> rfl

lemma complaint_bind (c : Complaint) (f : α → Attempt β) : complaint c >>= f = complaint c := rfl

end Attempt

namespace Trusting

def item {α : Type} (l : List α) (position : Nat) : Attempt α :=
  match l[position]? with
  | some a => .value a
  | none => .defect (.index position l.length)

def valuesOf (v : Value) : Attempt (List Value) :=
  match v.toItems with
  | .ok items => .value items
  | .error e => .defect (.conversion e)

def numberOf (v : Value) : Attempt Number :=
  match v.toNumber with
  | .ok n => .value n
  | .error e => .defect (.conversion e)

def nameOf : Value → Attempt String
  | .symbol name => .value name
  | v => .defect (.part v.kind)

def textOf : Value → Attempt String
  | .string text => .value text
  | v => .defect (.part v.kind)

def each {α : Type} (step : Value → Attempt α) : List Value → Attempt (List α)
  | [] => .value []
  | v :: rest => do
    let first ← step v
    let others ← each step rest
    .value (first :: others)

def unpackTwo {α : Type} : List α → Attempt (α × α)
  | [a, b] => .value (a, b)
  | l => .defect (.unpacking l.length)

def unpackFirst {α : Type} : List α → Attempt (α × List α)
  | a :: rest => .value (a, rest)
  | [] => .defect (.unpacking 0)

def entry {α : Type} (table : List (String × α)) (name : String) : Attempt α :=
  match table.lookup name with
  | some a => .value a
  | none => .defect (.key name)

def divide (a b : Number) : Attempt Number := if b.isZero then .defect .zeroDivision else .value (a.div b)

def fmod (a b : Number) : Attempt Number :=
  if (!a.isFinite || b.isZero) && !a.isNan && !b.isNan then .defect .mathDomain else .value (a.remainder b)

def modulo (a b : Number) : Attempt Number := if a.isFinite then fmod a b else .value (.nan 0)

@[simp] lemma item_zero {α : Type} (a : α) (l : List α) : item (a :: l) 0 = .value a := rfl

@[simp] lemma item_one {α : Type} (a b : α) (l : List α) : item (a :: b :: l) 1 = .value b := rfl

@[simp] lemma item_append {α : Type} (l : List α) (a : α) (rest : List α) :
    item (l ++ a :: rest) l.length = .value a := by
  simp [item]

@[simp] lemma item_append_succ {α : Type} (l : List α) (a b : α) (rest : List α) :
    item (l ++ a :: b :: rest) (l.length + 1) = .value b := by
  simp [item]

@[simp] lemma valuesOf_list (b : Bracket) (l : List Value) : valuesOf (.list b l) = .value l := rfl

@[simp] lemma numberOf_number (n : Number) : numberOf (.number n) = .value n := rfl

@[simp] lemma nameOf_symbol (name : String) : nameOf (.symbol name) = .value name := rfl

lemma each_map {α : Type} {step : Value → Attempt α} {shape : α → Value}
    (h : ∀ a, step (shape a) = .value a) (l : List α) : each step (l.map shape) = .value l := by
  induction l with
  | nil => rfl
  | cons a rest ih =>
    rw [List.map_cons, each, h, ih]
    rfl

lemma divide_eq {a b : Number} (h : b.isZero = false) : divide a b = .value (a.div b) := by
  rw [divide, h]
  rfl

lemma modulo_eq {a b : Number} (h : b.isZero = false) : modulo a b = .value (a.remainder b) := by
  unfold modulo fmod
  rw [h]
  cases a with
  | finite s q hq => rfl
  | infinite s => rfl
  | nan m => cases b <;> rfl

end Trusting

namespace Check

open Trusting

variable (op : String) (args : List Value)

def lengthIs (n : Nat) : Attempt Unit :=
  if args.length = n then .value () else .complaint (.argumentCount op (.exactly n) args.length)

def lengthAtLeast (n : Nat) : Attempt Unit :=
  if args.length < n then .complaint (.argumentCount op (.atLeast n) args.length) else .value ()

def lengthAtMost (n : Nat) : Attempt Unit :=
  if n < args.length then .complaint (.argumentCount op (.atMost n) args.length) else .value ()

def kind (position : Nat) (expected : Kind) : Attempt Unit := do
  let arg ← item args position
  if arg.kind = expected then .value () else .complaint (.wrongKind op (position + 1) expected arg.kind)

def nonEmpty (position : Nat) : Attempt Unit := do
  kind op args position .qexpr
  match ← valuesOf (← item args position) with
  | [] => .complaint (.emptyList op)
  | _ :: _ => .value ()

def kindsFrom (expected : Kind) : (position remaining : Nat) → Attempt Unit
  | _, 0 => .value ()
  | position, remaining + 1 => do
    kind op args position expected
    kindsFrom expected (position + 1) remaining

def kinds (expected : Kind) : Attempt Unit := kindsFrom op args expected 0 args.length

def symbols (complaint : Value → Complaint) : List Value → Attempt Unit
  | [] => .value ()
  | .symbol _ :: rest => symbols complaint rest
  | v :: _ => .complaint (complaint v)

inductive Decides {α : Type} (check : Attempt Unit) (contract : Except Complaint α) (Is : α → Prop) : Prop
  | kept {a : α} : check = .value () → contract = .ok a → Is a → Decides check contract Is
  | broken {c : Complaint} : check = .complaint c → contract = .error c → Decides check contract Is

lemma Decides.bind {α β : Type} {check : Attempt Unit} {contract : Except Complaint α} {Is : α → Prop}
    {rest : Attempt β} {f : α → Except Complaint β} (h : Decides check contract Is)
    (hrest : ∀ a, Is a → rest = Attempt.settle (f a)) :
    (check >>= fun _ => rest) = Attempt.settle (contract >>= f) := by
  cases h with
  | kept hcheck hcontract ha =>
    rw [hcheck, hcontract]
    exact hrest _ ha
  | broken hcheck hcontract =>
    rw [hcheck, hcontract]
    rfl

variable {op} {args}

lemma one_decides (op : String) (args : List Value) :
    Decides (lengthIs op args 1) (Contract.one op args) fun a => args = [a] := by
  rcases args with _ | ⟨a, _ | ⟨b, rest⟩⟩
  · exact .broken rfl rfl
  · exact .kept rfl rfl rfl
  · exact .broken (if_neg (by simp)) rfl

lemma two_decides (op : String) (args : List Value) :
    Decides (lengthIs op args 2) (Contract.two op args) fun p => args = [p.1, p.2] := by
  rcases args with _ | ⟨a, _ | ⟨b, _ | ⟨c, rest⟩⟩⟩
  · exact .broken rfl rfl
  · exact .broken rfl rfl
  · exact .kept rfl rfl rfl
  · exact .broken (if_neg (by simp)) rfl

lemma nonEmpty_decides (op : String) (args : List Value) :
    Decides (lengthAtLeast op args 1) (Contract.nonEmpty op args) fun p => args = p.1 :: p.2 := by
  cases args with
  | nil => exact .broken rfl rfl
  | cons a rest => exact .kept (if_neg (by simp)) rfl rfl

def AsksFor {α : Type} (op : String) (expected : Kind) (contract : Nat → Value → Except Complaint α)
    (shape : α → Value) : Prop :=
  ∀ i v, (∃ a, v = shape a ∧ v.kind = expected ∧ contract i v = .ok a) ∨
    v.kind ≠ expected ∧ contract i v = .error (.wrongKind op i expected v.kind)

lemma asksFor_number (op : String) : AsksFor op .number (Contract.number op) .number := by
  intro i v
  cases v with
  | number n => exact .inl ⟨n, rfl, rfl, rfl⟩
  | list b l => cases b <;> exact .inr ⟨by simp [Value.kind], rfl⟩
  | _ => exact .inr ⟨by simp [Value.kind], rfl⟩

lemma asksFor_string (op : String) : AsksFor op .string (Contract.string op) .string := by
  intro i v
  cases v with
  | string t => exact .inl ⟨t, rfl, rfl, rfl⟩
  | list b l => cases b <;> exact .inr ⟨by simp [Value.kind], rfl⟩
  | _ => exact .inr ⟨by simp [Value.kind], rfl⟩

lemma asksFor_items (op : String) : AsksFor op .qexpr (Contract.items op) .qexpr := by
  intro i v
  cases v with
  | list b l =>
    cases b with
    | round => exact .inr ⟨by simp [Value.kind], rfl⟩
    | curly => exact .inl ⟨l, rfl, rfl, rfl⟩
  | _ => exact .inr ⟨by simp [Value.kind], rfl⟩

section AsksFor

variable {α : Type} {expected : Kind} {contract : Nat → Value → Except Complaint α} {shape : α → Value}
  (h : AsksFor op expected contract shape)
include h

lemma AsksFor.decides {i : Nat} {v : Value} (hv : item args i = .value v) :
    Decides (kind op args i expected) (contract (i + 1) v) fun a => v = shape a := by
  unfold kind
  rw [hv, Attempt.value_bind]
  rcases h (i + 1) v with ⟨a, hv, hk, ha⟩ | ⟨hk, he⟩
  · exact .kept (if_pos hk) ha hv
  · exact .broken (if_neg hk) he

lemma AsksFor.decides_kindsFrom (seen rest : List Value) :
    Decides (kindsFrom op (seen ++ rest) expected seen.length rest.length)
      (Contract.each contract (seen.length + 1) rest) fun l => rest = l.map shape := by
  induction rest generalizing seen with
  | nil => exact .kept rfl rfl rfl
  | cons v rest ih =>
    have hnext := ih (seen ++ [v])
    rw [List.append_assoc, List.singleton_append, List.length_append, List.length_singleton] at hnext
    rw [List.length_cons, kindsFrom, Contract.each]
    cases h.decides (item_append seen v rest) with
    | broken hcheck hcontract =>
      rw [hcheck, hcontract]
      exact .broken rfl rfl
    | kept hcheck hcontract hv =>
      rw [hcheck, hcontract, Attempt.value_bind]
      cases hnext with
      | broken hchecks hcontracts => exact .broken hchecks (by rw [hcontracts]; rfl)
      | kept hchecks hcontracts hrest => exact .kept hchecks (by rw [hcontracts]; rfl) (by rw [hv, hrest]; rfl)

lemma AsksFor.decides_kinds (args : List Value) :
    Decides (kinds op args expected) (Contract.each contract 1 args) fun l => args = l.map shape :=
  h.decides_kindsFrom [] args

end AsksFor

lemma someItems_decides {i : Nat} {v : Value} (hv : item args i = .value v) :
    Decides (nonEmpty op args i) (Contract.someItems op (i + 1) v) fun p => v = .qexpr (p.1 :: p.2) := by
  unfold nonEmpty Contract.someItems
  cases (asksFor_items op).decides hv with
  | broken hcheck hcontract =>
    rw [hcheck, hcontract]
    exact .broken rfl rfl
  | @kept l hcheck hcontract hl =>
    rw [hcheck, hcontract, hv, hl]
    cases l with
    | nil => exact .broken rfl rfl
    | cons first rest => exact .kept rfl rfl rfl

lemma symbols_decides (complaint : Value → Complaint) (l : List Value) :
    Decides (symbols complaint l) (Contract.symbolNames complaint l) fun names => l = names.map .symbol := by
  induction l with
  | nil => exact .kept rfl rfl rfl
  | cons v rest ih =>
    cases v with
    | symbol name =>
      rw [symbols, Contract.symbolNames]
      cases ih with
      | broken hcheck hcontract => exact .broken hcheck (by rw [hcontract]; rfl)
      | kept hcheck hcontract hrest => exact .kept hcheck (by rw [hcontract]; rfl) (by rw [hrest]; rfl)
    | _ => exact .broken rfl rfl

end Check

end CurriedLisp
