import CurriedLisp.Eval.Action
import CurriedLisp.Proofs.Eval.Attempts

namespace CurriedLisp

open Contract

namespace Trusting

section Definitions

variable (s : Store) (env : FrameId)

def lambda (args : List Value) : Attempt Value := do
  Check.lengthIs Builtin.lambda.name args 2
  Check.kind Builtin.lambda.name args 0 .qexpr
  Check.kind Builtin.lambda.name args 1 .qexpr
  let (formals, body) ← unpackTwo args
  let formals ← valuesOf formals
  Check.symbols (fun v => .nonSymbolFormal (v.display (s.builtinName? env))) formals
  let names ← each nameOf formals
  .value (.lambda names (← valuesOf body) [] (if s.scoping env = .lexical then some env else none))

def function (args : List Value) : Attempt Action := do
  Check.lengthIs Builtin.function.name args 2
  Check.nonEmpty Builtin.function.name args 0
  Check.kind Builtin.function.name args 1 .qexpr
  let (name, formals) ← unpackFirst (← valuesOf (← item args 0))
  Check.symbols (fun v => .nonSymbolName (v.display (s.builtinName? env))) [name]
  let new ← lambda s env [.qexpr formals, ← item args 1]
  .value (.bind .global [(← nameOf name, new)])

def bind (op : String) (target : Target) (args : List Value) : Attempt Action := do
  Check.lengthAtLeast op args 1
  Check.kind op args 0 .qexpr
  let symbols ← valuesOf (← item args 0)
  let values := args.drop 1
  Check.symbols (fun v => .nonSymbolName (v.display (s.builtinName? env))) symbols
  if symbols.length = values.length then .value (.bind target ((← each nameOf symbols).zip values))
  else .complaint (.symbolCount op symbols.length values.length)

def eval (args : List Value) : Attempt Action := do
  Check.lengthIs Builtin.eval.name args 1
  Check.kind Builtin.eval.name args 0 .qexpr
  .value (.call (← valuesOf (← item args 0)))

def load (args : List Value) : Attempt Action := do
  Check.lengthIs Builtin.load.name args 1
  Check.kind Builtin.load.name args 0 .string
  .value (.load (← textOf (← item args 0)))

def error (args : List Value) : Attempt Action := do
  Check.lengthIs Builtin.error.name args 1
  Check.kind Builtin.error.name args 0 .string
  .complaint (.raised (← textOf (← item args 0)))

def comparisons : List (String × Comparison) :=
  [Comparison.less, .lessOrEqual, .greaterOrEqual, .greater].map fun r => (r.name, r)

def compare (op : String) (args : List Value) : Attempt Action := do
  Check.lengthAtLeast op args 2
  Check.kinds op args .number
  let numbers ← each numberOf args
  let relation ← entry comparisons op
  .value (.give (truth (relation.holdsAlong numbers)))

def equal (op : String) (test : Bool → Bool) (args : List Value) : Attempt Action := do
  Check.lengthIs op args 2
  .value (.give (truth (test ((← item args 0).equal (← item args 1)))))

def both (args : List Value) : Attempt Action := do
  Check.lengthIs Builtin.both.name args 2
  Check.kinds Builtin.both.name args .number
  if (← numberOf (← item args 0)).isTrue then .value (.give (truth (← numberOf (← item args 1)).isTrue))
  else .value (.give (truth false))

def either (args : List Value) : Attempt Action := do
  Check.lengthIs Builtin.either.name args 2
  Check.kinds Builtin.either.name args .number
  if (← numberOf (← item args 0)).isTrue then .value (.give (truth true))
  else .value (.give (truth (← numberOf (← item args 1)).isTrue))

def negation (args : List Value) : Attempt Action := do
  Check.lengthIs Builtin.negation.name args 1
  Check.kind Builtin.negation.name args 0 .number
  .value (.give (truth (← numberOf (← item args 0)).isZero))

def cond (args : List Value) : Attempt Action := do
  Check.lengthAtLeast Builtin.cond.name args 2
  Check.lengthAtMost Builtin.cond.name args 3
  Check.kind Builtin.cond.name args 0 .number
  Check.kind Builtin.cond.name args 1 .qexpr
  if args.length = 3 then Check.kind Builtin.cond.name args 2 .qexpr else .value ()
  if (← numberOf (← item args 0)).isTrue then .value (.call (← valuesOf (← item args 1)))
  else if args.length = 3 then .value (.call (← valuesOf (← item args 2)))
  else .value (.call [])

def head (args : List Value) : Attempt Action := do
  Check.lengthIs Builtin.head.name args 1
  Check.nonEmpty Builtin.head.name args 0
  .value (.give (.qexpr ((← valuesOf (← item args 0)).take 1)))

def tail (args : List Value) : Attempt Action := do
  Check.lengthIs Builtin.tail.name args 1
  Check.nonEmpty Builtin.tail.name args 0
  .value (.give (.qexpr ((← valuesOf (← item args 0)).drop 1)))

def join (args : List Value) : Attempt Action := do
  Check.lengthAtLeast Builtin.join.name args 1
  Check.kinds Builtin.join.name args .qexpr
  .value (.give (.qexpr (← each valuesOf args).flatten))

def cons (args : List Value) : Attempt Action := do
  Check.lengthIs Builtin.cons.name args 2
  Check.kind Builtin.cons.name args 1 .qexpr
  .value (.give (.qexpr ((← item args 0) :: (← valuesOf (← item args 1)))))

def operations : List (String × (Number → Number → Attempt Number)) :=
  [("+", fun a b => .value (a.add b)), ("-", fun a b => .value (a.sub b)),
    ("*", fun a b => .value (a.mul b)), ("/", divide), ("%", modulo),
    ("min", fun a b => .value (a.least b)), ("max", fun a b => .value (a.greatest b))]

def fold (op : String) (f : Number → Number → Attempt Number) (x : Number) : List Value → Attempt Number
  | [] => .value x
  | v :: rest => do
    let y ← numberOf v
    if (op = "/" ∨ op = "%") ∧ y.isZero then .complaint .divisionByZero
    else fold op f (← f x y) rest

def arithmetic (op : String) (args : List Value) : Attempt Action := do
  Check.kinds op args .number
  Check.lengthAtLeast op args 1
  let first ← item args 0
  let x ← numberOf first
  if args.length = 1 then
    if op = "-" then .value (.compute x.negate) else .value (.give first)
  else
    let f ← entry operations op
    .value (.compute (← fold op f x (args.drop 1)))

def action (op : Builtin) (args : List Value) : Attempt Action :=
  match op with
  | .lambda => do .value (.give (← lambda s env args))
  | .function => function s env args
  | .define => bind s env op.name .global args
  | .assign => bind s env op.name .caller args
  | .eval => eval args
  | .load => load args
  | .error => error args
  | .println => .value (.print (outputLine (s.builtinName? env) args))
  | .compare r => compare r.name args
  | .equal => equal op.name id args
  | .differ => equal op.name not args
  | .cond => cond args
  | .both => both args
  | .either => either args
  | .negation => negation args
  | .head => head args
  | .tail => tail args
  | .list => .value (.give (.qexpr args))
  | .join => join args
  | .cons => cons args
  | .arithmetic o => arithmetic o.name args

end Definitions

open Attempt (settle)
open Check

variable {s : Store} {env : FrameId}

section Rules

variable {α β : Type} {op : String} {args : List Value} {expected : Kind}
  {contract : Nat → Value → Except Complaint α} {shape : α → Value} {rest : Attempt β}

lemma onOne_eq (h : AsksFor op expected contract shape) {f : α → Except Complaint β}
    (hrest : ∀ a, args = [shape a] → rest = settle (f a)) :
    (do
      lengthIs op args 1
      kind op args 0 expected
      rest) = settle (do f (← contract 1 (← one op args))) := by
  refine (one_decides _ args).bind ?_
  rintro v rfl
  refine (h.decides rfl).bind ?_
  rintro a rfl
  exact hrest a rfl

lemma onTwo_eq (h : AsksFor op expected contract shape) {f : α → α → Except Complaint β}
    (hrest : ∀ a b, args = [shape a, shape b] → rest = settle (f a b)) :
    (do
      lengthIs op args 2
      kinds op args expected
      rest) = settle (do
        let (v, w) ← two op args
        let a ← contract 1 v
        let b ← contract 2 w
        f a b) := by
  refine (two_decides _ args).bind ?_
  rintro ⟨v, w⟩ rfl
  have hkinds : kinds op [v, w] expected =
      kind op [v, w] 0 expected >>= fun _ => kind op [v, w] 1 expected >>= fun _ => .value () := rfl
  rw [hkinds, Attempt.bind_assoc]
  refine (h.decides rfl).bind ?_
  intro a ha
  rw [Attempt.bind_assoc]
  refine (h.decides rfl).bind ?_
  intro b hb
  cases ha
  cases hb
  exact hrest a b rfl

end Rules

lemma eval_eq (args : List Value) : eval args = settle (Builtin.eval.action s env args) := by
  refine onOne_eq (asksFor_items _) ?_
  rintro l rfl
  rfl

lemma load_eq (args : List Value) : load args = settle (Builtin.load.action s env args) := by
  refine onOne_eq (asksFor_string _) ?_
  rintro path rfl
  rfl

lemma error_eq (args : List Value) : error args = settle (Builtin.error.action s env args) := by
  refine onOne_eq (asksFor_string _) ?_
  rintro message rfl
  rfl

lemma negation_eq (args : List Value) : negation args = settle (Builtin.negation.action s env args) := by
  refine onOne_eq (asksFor_number _) ?_
  rintro n rfl
  rfl

lemma both_eq (args : List Value) : both args = settle (Builtin.both.action s env args) := by
  refine onTwo_eq (asksFor_number _) ?_
  rintro m n rfl
  simp only [item_zero, item_one, numberOf_number, Attempt.value_bind]
  cases m.isTrue <;> rfl

lemma either_eq (args : List Value) : either args = settle (Builtin.either.action s env args) := by
  refine onTwo_eq (asksFor_number _) ?_
  rintro m n rfl
  simp only [item_zero, item_one, numberOf_number, Attempt.value_bind]
  cases m.isTrue <;> rfl

lemma head_eq (args : List Value) : head args = settle (Builtin.head.action s env args) := by
  refine (one_decides _ args).bind ?_
  rintro a rfl
  refine (someItems_decides rfl).bind ?_
  rintro ⟨first, rest⟩ rfl
  rfl

lemma tail_eq (args : List Value) : tail args = settle (Builtin.tail.action s env args) := by
  refine (one_decides _ args).bind ?_
  rintro a rfl
  refine (someItems_decides rfl).bind ?_
  rintro ⟨first, rest⟩ rfl
  rfl

lemma cons_eq (args : List Value) : cons args = settle (Builtin.cons.action s env args) := by
  refine (two_decides _ args).bind ?_
  rintro ⟨first, rest⟩ rfl
  refine ((asksFor_items _).decides rfl).bind ?_
  rintro l hl
  cases hl
  rfl

lemma join_eq (args : List Value) : join args = settle (Builtin.join.action s env args) := by
  refine (nonEmpty_decides _ args).bind ?_
  rintro ⟨first, rest⟩ rfl
  refine ((asksFor_items _).decides_kinds _).bind ?_
  intro ls hls
  rw [hls, each_map (valuesOf_list .curly)]
  rfl

lemma newFunction_eq (formals body : List Value) :
    lambda s env [.qexpr formals, .qexpr body] = settle (Builtin.newFunction s env formals body) := by
  refine (symbols_decides _ formals).bind ?_
  rintro names rfl
  rw [each_map nameOf_symbol]
  rfl

lemma lambda_eq (args : List Value) :
    lambda s env args = settle (do
      let (formals, body) ← two Builtin.lambda.name args
      let formals ← items Builtin.lambda.name 1 formals
      let body ← items Builtin.lambda.name 2 body
      Builtin.newFunction s env formals body) := by
  refine (two_decides _ args).bind ?_
  rintro ⟨formals, body⟩ rfl
  refine ((asksFor_items _).decides rfl).bind ?_
  intro formals hformals
  refine ((asksFor_items _).decides rfl).bind ?_
  intro body hbody
  cases hformals
  cases hbody
  exact newFunction_eq formals body

lemma function_eq (args : List Value) : function s env args = settle (Builtin.functionAction s env args) := by
  refine (two_decides _ args).bind ?_
  rintro ⟨signature, body⟩ rfl
  refine (someItems_decides rfl).bind ?_
  rintro ⟨first, formals⟩ hsignature
  refine ((asksFor_items _).decides rfl).bind ?_
  intro body hbody
  cases hsignature
  cases hbody
  cases first with
  | symbol name =>
    have hnew : lambda s env [.qexpr formals, .qexpr body] = settle (Builtin.newFunction s env formals body) :=
      newFunction_eq formals body
    simp only [item_zero, item_one, valuesOf_list, Attempt.value_bind, unpackFirst, symbols, hnew]
    cases Builtin.newFunction s env formals body <;> rfl
  | _ => rfl

lemma bind_eq (op : Builtin) (target : Target) (args : List Value) :
    bind s env op.name target args = settle (Builtin.bindAction s env op target args) := by
  refine (nonEmpty_decides _ args).bind ?_
  rintro ⟨first, values⟩ rfl
  refine ((asksFor_items _).decides rfl).bind ?_
  rintro symbols rfl
  refine (symbols_decides _ symbols).bind ?_
  rintro names rfl
  simp only [List.length_map, each_map nameOf_symbol, List.drop_succ_cons, List.drop_zero]
  split
  · rfl
  · rfl

lemma entry_comparisons (r : Comparison) : entry comparisons r.name = .value r := by
  cases r <;> rfl

lemma compare_eq (r : Comparison) (args : List Value) :
    compare r.name args = settle (Builtin.compareAction r args) := by
  unfold compare Check.lengthAtLeast Builtin.compareAction
  split
  · rfl
  · refine ((asksFor_number _).decides_kinds _).bind ?_
    rintro ns rfl
    rw [each_map numberOf_number, entry_comparisons]
    rfl

lemma equal_eq (op : String) (test : Bool → Bool) (args : List Value) :
    equal op test args = settle (do
      let (a, b) ← two op args
      .ok (.give (truth (test (a.equal b))))) := by
  refine (two_decides _ args).bind ?_
  rintro ⟨a, b⟩ rfl
  rfl

lemma cond_eq (args : List Value) : cond args = settle (Builtin.condAction args) := by
  rcases args with _ | ⟨condition, _ | ⟨yes, _ | ⟨no, _ | ⟨other, rest⟩⟩⟩⟩
  · rfl
  · rfl
  · refine ((asksFor_number _).decides rfl).bind ?_
    rintro n rfl
    refine ((asksFor_items _).decides rfl).bind ?_
    intro l hl
    cases hl
    simp only [item_zero, item_one, numberOf_number, valuesOf_list, Attempt.value_bind]
    cases n.isTrue <;> rfl
  · refine ((asksFor_number _).decides rfl).bind ?_
    rintro n rfl
    refine ((asksFor_items _).decides rfl).bind ?_
    intro l hl
    cases hl
    have hlast : Contract.each (items Builtin.cond.name) 3 [no] =
        items Builtin.cond.name 3 no >>= fun branch => .ok [branch] := rfl
    rw [hlast, bind_assoc]
    refine ((asksFor_items _).decides rfl).bind ?_
    rintro branch rfl
    simp only [item_zero, item_one, numberOf_number, valuesOf_list, Attempt.value_bind]
    cases n.isTrue <;> rfl
  · have hmany : 3 < (condition :: yes :: no :: other :: rest).length := by simp
    have hrest : 1 < (no :: other :: rest).length := by simp
    simp only [cond, Builtin.condAction, lengthAtMost, if_pos hmany, if_pos hrest]
    rfl

lemma entry_operations (o : Arithmetic) :
    ∃ f, entry operations o.name = .value f ∧
      ∀ a b : Number, (o.divides && b.isZero) = false → f a b = .value (o.combine a b) := by
  cases o with
  | div => exact ⟨divide, rfl, fun a b h => divide_eq h⟩
  | mod => exact ⟨modulo, rfl, fun a b h => modulo_eq h⟩
  | _ => exact ⟨_, rfl, fun a b _ => rfl⟩

lemma divides_iff (o : Arithmetic) : (o.name = "/" ∨ o.name = "%") ↔ o.divides = true := by
  cases o <;> decide

lemma fold_eq {o : Arithmetic} {f : Number → Number → Attempt Number}
    (hf : ∀ a b : Number, (o.divides && b.isZero) = false → f a b = .value (o.combine a b)) (x : Number)
    (ns : List Number) : fold o.name f x (ns.map .number) = settle (o.fold x ns) := by
  induction ns generalizing x with
  | nil => rfl
  | cons y rest ih =>
    rw [List.map_cons, fold, numberOf_number, Attempt.value_bind, Arithmetic.fold]
    simp only [divides_iff, ← Bool.and_eq_true]
    cases h : o.divides && y.isZero with
    | true => rfl
    | false =>
      rw [hf x y h]
      exact ih _

lemma arithmetic_eq (o : Arithmetic) (args : List Value) :
    arithmetic o.name args = settle (Builtin.arithmeticAction o args) := by
  refine ((asksFor_number _).decides_kinds _).bind ?_
  rintro ns rfl
  rcases ns with _ | ⟨x, _ | ⟨y, rest⟩⟩
  · rfl
  · cases o <;> rfl
  · obtain ⟨f, hentry, hf⟩ := entry_operations o
    have hfold := fold_eq hf x (y :: rest)
    simp only [List.map_cons, List.drop_succ_cons, List.drop_zero, item_zero, numberOf_number, hentry,
      Attempt.value_bind] at hfold ⊢
    rw [hfold, if_neg (by simp)]
    exact (Attempt.settle_bind (o.fold x (y :: rest)) fun n => .ok (Action.compute n)).symm

theorem action_eq (s : Store) (env : FrameId) (op : Builtin) (args : List Value) :
    action s env op args = settle (op.action s env args) := by
  cases op with
  | lambda =>
    rw [action, lambda_eq]
    refine (Attempt.settle_bind _ fun new => .ok (Action.give new)).symm.trans ?_
    simp only [bind_assoc]
    rfl
  | function => exact function_eq args
  | define => exact bind_eq _ _ args
  | assign => exact bind_eq _ _ args
  | eval => exact eval_eq args
  | load => exact load_eq args
  | error => exact error_eq args
  | println => rfl
  | compare r => exact compare_eq r args
  | equal => exact equal_eq _ _ args
  | differ => exact equal_eq _ _ args
  | cond => exact cond_eq args
  | both => exact both_eq args
  | either => exact either_eq args
  | negation => exact negation_eq args
  | head => exact head_eq args
  | tail => exact tail_eq args
  | list => rfl
  | join => exact join_eq args
  | cons => exact cons_eq args
  | arithmetic o => exact arithmetic_eq o args

end Trusting

end CurriedLisp
