namespace CurriedLisp

inductive Comparison where
  | less
  | lessOrEqual
  | greaterOrEqual
  | greater
  deriving DecidableEq

inductive Arithmetic where
  | add
  | sub
  | mul
  | div
  | mod
  | least
  | greatest
  deriving DecidableEq

inductive Builtin where
  | lambda
  | function
  | define
  | assign
  | eval
  | load
  | error
  | println
  | compare (relation : Comparison)
  | equal
  | differ
  | cond
  | both
  | either
  | negation
  | head
  | tail
  | list
  | join
  | cons
  | arithmetic (operation : Arithmetic)
  deriving DecidableEq

namespace Comparison

def name : Comparison → String
  | less => "<"
  | lessOrEqual => "<="
  | greaterOrEqual => ">="
  | greater => ">"

end Comparison

namespace Arithmetic

def name : Arithmetic → String
  | add => "+"
  | sub => "-"
  | mul => "*"
  | div => "/"
  | mod => "%"
  | least => "min"
  | greatest => "max"

end Arithmetic

namespace Builtin

def name : Builtin → String
  | lambda => "\\"
  | function => "fun"
  | define => "def"
  | assign => "="
  | eval => "eval"
  | load => "load"
  | error => "error"
  | println => "println"
  | compare relation => relation.name
  | equal => "=="
  | differ => "!="
  | cond => "if"
  | both => "and"
  | either => "or"
  | negation => "not"
  | head => "head"
  | tail => "tail"
  | list => "list"
  | join => "join"
  | cons => "cons"
  | arithmetic operation => operation.name

/-- In the order in which a global frame binds them. -/
def all : List Builtin :=
  [lambda, function, define, assign, eval, load, error, println, compare .less, compare .lessOrEqual,
    compare .greaterOrEqual, compare .greater, equal, differ, cond, both, either, negation, head, tail,
    list, join, cons, arithmetic .add, arithmetic .sub, arithmetic .mul, arithmetic .div,
    arithmetic .mod, arithmetic .least, arithmetic .greatest]

def ofName? (name : String) : Option Builtin := all.find? (·.name == name)

theorem mem_all (op : Builtin) : op ∈ all := by
  cases op with
  | compare r => cases r <;> decide
  | arithmetic o => cases o <;> decide
  | _ => decide

end Builtin

end CurriedLisp
