import CurriedLisp.Text.Quoted

namespace CurriedLisp

inductive FileProblem where
  | notPermitted
  | missing
  | badDescriptor
  | accessDenied
  | notDirectory
  | isDirectory
  | nameTooLong
  | tooManyLinks
  | other (number : Nat) (text : String)
  deriving DecidableEq

namespace FileProblem

def text : FileProblem → String
  | notPermitted => "Operation not permitted"
  | missing => "No such file or directory"
  | badDescriptor => "Bad file descriptor"
  | accessDenied => "Permission denied"
  | notDirectory => "Not a directory"
  | isDirectory => "Is a directory"
  | nameTooLong => "File name too long"
  | tooManyLinks => "Too many levels of symbolic links"
  | other _ text => text

def number : FileProblem → Nat
  | notPermitted => 1
  | missing => 2
  | badDescriptor => 9
  | accessDenied => 13
  | notDirectory => 20
  | isDirectory => 21
  | nameTooLong => 36
  | tooManyLinks => 40
  | other number _ => number

def known : List FileProblem :=
  [notPermitted, missing, badDescriptor, accessDenied, notDirectory, isDirectory, nameTooLong, tooManyLinks]

def ofNumber (number : Nat) (text : String) : FileProblem :=
  (known.find? (·.number == number)).getD (other number text)

/-- Whether the problem counts as the answer that there is no directory. -/
def isAbsence (p : FileProblem) : Bool :=
  [missing, badDescriptor, notDirectory, tooManyLinks].any (·.number == p.number)

def isRefusal (p : FileProblem) : Bool := [notPermitted, accessDenied].any (·.number == p.number)

def report (p : FileProblem) (path : String) : String :=
  "[Errno " ++ p.number.repr ++ "] " ++ p.text ++ ": " ++ Text.quoted path

end FileProblem

structure Files where
  read : String → Except FileProblem (List UInt8)
  isDirectory : String → Except FileProblem Bool
  entries : String → Except FileProblem (List String)

def Files.none : Files := ⟨fun _ => .error .missing, fun _ => .error .missing, fun _ => .error .missing⟩

end CurriedLisp
