import CurriedLisp.Eval.Complaint

/-! Contracts of operations. Each part of a contract hands on what it has checked, and the first part
that does not hold is the complaint. -/

namespace CurriedLisp.Contract

def one (op : String) : List Value → Except Complaint Value
  | [a] => .ok a
  | args => .error (.argumentCount op (.exactly 1) args.length)

def two (op : String) : List Value → Except Complaint (Value × Value)
  | [a, b] => .ok (a, b)
  | args => .error (.argumentCount op (.exactly 2) args.length)

def nonEmpty (op : String) : List Value → Except Complaint (Value × List Value)
  | a :: rest => .ok (a, rest)
  | [] => .error (.argumentCount op (.atLeast 1) 0)

def number (op : String) (position : Nat) : Value → Except Complaint Number
  | .number n => .ok n
  | v => .error (.wrongKind op position .number v.kind)

def string (op : String) (position : Nat) : Value → Except Complaint String
  | .string text => .ok text
  | v => .error (.wrongKind op position .string v.kind)

def items (op : String) (position : Nat) : Value → Except Complaint (List Value)
  | .qexpr items => .ok items
  | v => .error (.wrongKind op position .qexpr v.kind)

def someItems (op : String) (position : Nat) (v : Value) : Except Complaint (Value × List Value) := do
  match ← items op position v with
  | [] => .error (.emptyList op)
  | first :: rest => .ok (first, rest)

def each {α : Type} (contract : Nat → Value → Except Complaint α) (position : Nat) :
    List Value → Except Complaint (List α)
  | [] => .ok []
  | v :: rest => do
    let first ← contract position v
    let others ← each contract (position + 1) rest
    .ok (first :: others)

def numbers (op : String) (args : List Value) : Except Complaint (List Number) :=
  each (number op) 1 args

def symbolNames (complaint : Value → Complaint) : List Value → Except Complaint (List String)
  | [] => .ok []
  | .symbol name :: rest => do .ok (name :: (← symbolNames complaint rest))
  | v :: _ => .error (complaint v)

end CurriedLisp.Contract
