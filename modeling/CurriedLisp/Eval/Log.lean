import CurriedLisp.Store.Basic
import CurriedLisp.Text.Quoted

namespace CurriedLisp

inductive LogLevel where
  | all
  | debug
  | info
  | warning
  | error
  | critical
  deriving DecidableEq

namespace LogLevel

def rank : LogLevel → Nat
  | all => 0
  | debug => 1
  | info => 2
  | warning => 3
  | error => 4
  | critical => 5

def name : LogLevel → String
  | all => "NOTSET"
  | debug => "DEBUG"
  | info => "INFO"
  | warning => "WARNING"
  | error => "ERROR"
  | critical => "CRITICAL"

def ofName? (name : String) : Option LogLevel :=
  [("CRITICAL", critical), ("FATAL", critical), ("ERROR", error), ("WARN", warning),
    ("WARNING", warning), ("INFO", info), ("DEBUG", debug), ("NOTSET", all)].lookup name

end LogLevel

inductive LogRecord where
  | created (scoping : Scoping)
  | preludeNotLoaded (message : String)
  | loading (forms : Nat) (source : String)
  | partialApplication (bound formals : Nat)
  | tooDeep (input : String)
  deriving DecidableEq

namespace LogRecord

def level : LogRecord → LogLevel
  | preludeNotLoaded _ => .warning
  | _ => .debug

def origin : LogRecord → String
  | created _ | preludeNotLoaded _ => "mlisp.interpreter"
  | loading .. => "mlisp.loader"
  | partialApplication .. => "mlisp.types.bind"
  | tooDeep _ => "mlisp.repl"

def message : LogRecord → String
  | created scoping => "interpreter created with " ++ scoping.name ++ " scoping"
  | preludeNotLoaded message => "prelude not loaded: " ++ message
  | loading forms source => "loading " ++ forms.repr ++ " forms from " ++ source
  | partialApplication bound formals =>
    "partial application: " ++ bound.repr ++ " of " ++ formals.repr ++ " formals bound"
  | tooDeep input => "recursion limit hit evaluating " ++ Text.quoted input

def line (r : LogRecord) : String := r.level.name ++ " " ++ r.origin ++ ": " ++ r.message

end LogRecord

end CurriedLisp
