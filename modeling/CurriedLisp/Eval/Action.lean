import CurriedLisp.Eval.Contract
import CurriedLisp.Number.Arithmetic
import CurriedLisp.Store.Basic
import CurriedLisp.Value.Display

/-! What the builtins do. An operation first decides, from its arguments and the state of the store,
either on a complaint or on one action, and only an action has effects. -/

namespace CurriedLisp

inductive Target where
  | global
  | caller
  deriving DecidableEq

inductive Action where
  | give (v : Value)
  /-- Give a number that was not there before. -/
  | compute (n : Number)
  | bind (target : Target) (new : List (String × Value))
  | print (line : String)
  | call (items : List Value)
  | load (path : String)

namespace Comparison

def holds : Comparison → Number → Number → Bool
  | less, a, b => a.lt b
  | lessOrEqual, a, b => a.le b
  | greaterOrEqual, a, b => b.le a
  | greater, a, b => b.lt a

def holdsAlong (r : Comparison) : List Number → Bool
  | a :: b :: rest => r.holds a b && holdsAlong r (b :: rest)
  | _ => true

end Comparison

namespace Arithmetic

def combine : Arithmetic → Number → Number → Number
  | add, a, b => a.add b
  | sub, a, b => a.sub b
  | mul, a, b => a.mul b
  | div, a, b => a.div b
  | mod, a, b => a.remainder b
  | least, a, b => a.least b
  | greatest, a, b => a.greatest b

def divides : Arithmetic → Bool
  | div | mod => true
  | _ => false

def fold (op : Arithmetic) (x : Number) : List Number → Except Complaint Number
  | [] => .ok x
  | y :: rest =>
    if op.divides && y.isZero then .error .divisionByZero else fold op (op.combine x y) rest

end Arithmetic

def truth (b : Bool) : Value := .number (.ofNat (if b then 1 else 0))

def Number.isTrue (n : Number) : Bool := !n.isZero

namespace Builtin

open Contract

def newFunction (s : Store) (env : FrameId) (formals body : List Value) : Except Complaint Value := do
  let names ← symbolNames (fun v => .nonSymbolFormal (v.display (s.builtinName? env))) formals
  .ok (.lambda names body [] (if s.scoping env = .lexical then some env else none))

def bindAction (s : Store) (env : FrameId) (op : Builtin) (target : Target) (args : List Value) :
    Except Complaint Action := do
  let (first, values) ← nonEmpty op.name args
  let symbols ← items op.name 1 first
  let names ← symbolNames (fun v => .nonSymbolName (v.display (s.builtinName? env))) symbols
  if names.length = values.length then .ok (.bind target (names.zip values))
  else .error (.symbolCount op.name names.length values.length)

def functionAction (s : Store) (env : FrameId) (args : List Value) : Except Complaint Action := do
  let (signature, body) ← two function.name args
  let (first, formals) ← someItems function.name 1 signature
  let body ← items function.name 2 body
  match first with
  | .symbol name => .ok (.bind .global [(name, ← newFunction s env formals body)])
  | v => .error (.nonSymbolName (v.display (s.builtinName? env)))

def condAction (args : List Value) : Except Complaint Action := do
  match args with
  | condition :: yes :: rest =>
    if 1 < rest.length then .error (.argumentCount cond.name (.atMost 3) args.length)
    let n ← number cond.name 1 condition
    let yes ← items cond.name 2 yes
    let branches ← each (items cond.name) 3 rest
    .ok (.call (if n.isTrue then yes else branches.headD []))
  | _ => .error (.argumentCount cond.name (.atLeast 2) args.length)

def compareAction (r : Comparison) (args : List Value) : Except Complaint Action := do
  if args.length < 2 then .error (.argumentCount r.name (.atLeast 2) args.length)
  .ok (.give (truth (r.holdsAlong (← numbers r.name args))))

def arithmeticAction (op : Arithmetic) (args : List Value) : Except Complaint Action := do
  let operands ← numbers op.name args
  match operands with
  | [] => .error (.argumentCount op.name (.atLeast 1) 0)
  | [n] => .ok (if op = .sub then .compute n.negate else .give (.number n))
  | n :: rest => .ok (.compute (← op.fold n rest))

def testAction (op : Builtin) (test : Number → Number → Bool) (args : List Value) :
    Except Complaint Action := do
  let (a, b) ← two op.name args
  let a ← number op.name 1 a
  let b ← number op.name 2 b
  .ok (.give (truth (test a b)))

def action (s : Store) (env : FrameId) (op : Builtin) (args : List Value) : Except Complaint Action :=
  match op with
  | lambda => do
    let (formals, body) ← two op.name args
    let formals ← items op.name 1 formals
    let body ← items op.name 2 body
    .ok (.give (← newFunction s env formals body))
  | function => functionAction s env args
  | define => bindAction s env op .global args
  | assign => bindAction s env op .caller args
  | eval => do .ok (.call (← items op.name 1 (← one op.name args)))
  | load => do .ok (.load (← string op.name 1 (← one op.name args)))
  | error => do .error (.raised (← string op.name 1 (← one op.name args)))
  | println => .ok (.print (outputLine (s.builtinName? env) args))
  | compare r => compareAction r args
  | equal => do
    let (a, b) ← two op.name args
    .ok (.give (truth (a.equal b)))
  | differ => do
    let (a, b) ← two op.name args
    .ok (.give (truth (!a.equal b)))
  | cond => condAction args
  | both => testAction op (fun a b => a.isTrue && b.isTrue) args
  | either => testAction op (fun a b => a.isTrue || b.isTrue) args
  | negation => do .ok (.give (truth (← number op.name 1 (← one op.name args)).isZero))
  | head => do
    let (first, _) ← someItems op.name 1 (← one op.name args)
    .ok (.give (.qexpr [first]))
  | tail => do
    let (_, rest) ← someItems op.name 1 (← one op.name args)
    .ok (.give (.qexpr rest))
  | list => .ok (.give (.qexpr args))
  | join => do
    let _ ← nonEmpty op.name args
    .ok (.give (.qexpr (← each (items op.name) 1 args).flatten))
  | cons => do
    let (first, rest) ← two op.name args
    .ok (.give (.qexpr (first :: (← items op.name 2 rest))))
  | arithmetic operation => arithmeticAction operation args

end Builtin

end CurriedLisp
