namespace CurriedLisp.Path

def isAbsolute (path : String) : Bool := path.toList.head? = some '/'

def parts (path : String) : List String :=
  (path.splitOn "/").filter fun part => part ≠ "" ∧ part ≠ "."

/-- Two slashes at the very beginning are kept, three or more count as one. -/
def anchor (path : String) : String :=
  match path.toList with
  | '/' :: '/' :: '/' :: _ => "/"
  | '/' :: '/' :: _ => "//"
  | '/' :: _ => "/"
  | _ => ""

def normalize (path : String) : String :=
  let text := anchor path ++ "/".intercalate (parts path)
  if text = "" then "." else text

def join (directory name : String) : String :=
  if directory = "." then name
  else if directory.toList.getLast? = some '/' then directory ++ name
  else directory ++ "/" ++ name

def hasNul (path : String) : Bool := path.toList.contains '\x00'

end CurriedLisp.Path
