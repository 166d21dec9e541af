import CurriedLisp.Files.Basic
import CurriedLisp.Files.Path

namespace CurriedLisp

inductive FileTree where
  | file (bytes : List UInt8)
  | directory (entries : List (String × FileTree))

namespace FileTree

def empty : FileTree := .directory []

def alter (change : FileTree → FileTree) : List String → FileTree → FileTree
  | [], tree => change tree
  | name :: rest, tree =>
    let entries :=
      match tree with
      | directory entries => entries
      | file _ => []
    let old := (entries.lookup name).getD empty
    .directory (entries.filter (·.1 ≠ name) ++ [(name, alter change rest old)])

def write (bytes : List UInt8) (tree : FileTree) (path : String) : FileTree :=
  tree.alter (fun _ => file bytes) (Path.parts path)

def makeDirectory (tree : FileTree) (path : String) : FileTree :=
  tree.alter
    (fun
      | directory entries => directory entries
      | file _ => empty)
    (Path.parts path)

def maxNameSize : Nat := 255

def maxPathSize : Nat := 4095

/-- The node that names lead to; `above` are the directories that were entered to get here. Outside the
tree there are only directories without entries. -/
def follow (above : List FileTree) (here : FileTree) : List String → Except FileProblem FileTree
  | [] => .ok here
  | name :: rest =>
    match here with
    | file _ => .error .notDirectory
    | directory entries =>
      if name = ".." then
        match above with
        | [] => follow [] empty rest
        | parent :: others => follow others parent rest
      else if maxNameSize < name.utf8ByteSize then .error .nameTooLong
      else
        match entries.lookup name with
        | none => .error .missing
        | some node => follow (here :: above) node rest

def find (tree : FileTree) (path : String) : Except FileProblem FileTree :=
  if maxPathSize < path.utf8ByteSize then .error .nameTooLong
  else follow [] (if Path.isAbsolute path then empty else tree) (Path.parts path)

def read (tree : FileTree) (path : String) : Except FileProblem (List UInt8) := do
  match ← tree.find path with
  | file bytes => .ok bytes
  | directory _ => .error .isDirectory

def isDirectory (tree : FileTree) (path : String) : Except FileProblem Bool := do
  match ← tree.find path with
  | file _ => .ok false
  | directory _ => .ok true

def entries (tree : FileTree) (path : String) : Except FileProblem (List String) := do
  match ← tree.find path with
  | file _ => .error .notDirectory
  | directory entries => .ok (entries.map Prod.fst)

def files (tree : FileTree) : Files := ⟨tree.read, tree.isDirectory, tree.entries⟩

end FileTree

end CurriedLisp
