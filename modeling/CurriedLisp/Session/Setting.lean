import CurriedLisp.Files.Path
import CurriedLisp.Store.Basic
import CurriedLisp.Text.Casing
import CurriedLisp.Text.Quoted
import CurriedLisp.Text.Whole

/-! Settings, read from the variables of the surroundings. A variable that is empty counts as missing. -/

namespace CurriedLisp

inductive SettingProblem where
  | unknownScoping (text : String)
  | unknownLogLevel (name : String)
  | notWhole (text : String)
  | tooManyDigits (digits : Nat)
  | limitTooLow
  | limitTooHigh
  deriving DecidableEq

namespace SettingProblem

def message : SettingProblem → String
  | unknownScoping text =>
    "MLISP_SCOPING must be 'dynamic' or 'lexical', got " ++ Text.quoted text
  | unknownLogLevel name => "Unknown level: " ++ Text.quoted name
  | notWhole text =>
    "invalid literal for int() with base 10: " ++ String.ofList ((Text.quoted text).toList.take 200)
  | tooManyDigits digits =>
    "Exceeds the limit (" ++ Text.maxWholeDigits.repr ++
      " digits) for integer string conversion: value has " ++ digits.repr ++
      " digits; use sys.set_int_max_str_digits() to increase the limit"
  | limitTooLow => "recursion limit must be greater or equal than 1"
  | limitTooHigh => "Python int too large to convert to C int"

end SettingProblem

abbrev Variables := String → Option String

namespace Setting

def nonEmpty (vars : Variables) (name : String) : Option String := (vars name).filter (· ≠ "")

def scoping (vars : Variables) : Except SettingProblem Scoping :=
  let text := Text.lower (Text.strip ((vars "MLISP_SCOPING").getD ""))
  if text = "" then .ok .dynamic
  else
    match Scoping.ofName? text with
    | some s => .ok s
    | none => .error (.unknownScoping text)

def defaultLimit : Nat := 10000

def recursionLimit (vars : Variables) : Except SettingProblem Int :=
  match nonEmpty vars "MLISP_RECURSION_LIMIT" with
  | none => .ok defaultLimit
  | some text =>
    match Text.readWhole text with
    | .ok n => .ok n
    | .error .malformed => .error (.notWhole text)
    | .error (.tooLong digits) => .error (.tooManyDigits digits)

def logLevelName (vars : Variables) : String :=
  Text.upper ((vars "MLISP_LOG_LEVEL").getD "WARNING")

def paths (vars : Variables) (name : String) (defaults : List String) : List String :=
  let texts :=
    match nonEmpty vars name with
    | none => defaults
    | some text => ((text.splitOn ":").map Text.strip).filter (· ≠ "")
  texts.map Path.normalize

end Setting

end CurriedLisp
