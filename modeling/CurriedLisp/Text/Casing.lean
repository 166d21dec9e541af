import CurriedLisp.Text.CaseTable

namespace CurriedLisp.Text

def mapCase (sequences : List (Nat × List Nat)) (runs : List CaseRun) (c : Char) : List Char :=
  match sequences.lookup c.toNat with
  | some codes => codes.map Char.ofNat
  | none =>
    match runs.find? (·.holds c.toNat) with
    | some run => [run.partner c.toNat]
    | none => [c]

def endsInLetter (text : List Char) : Bool :=
  match text.find? (fun c => !inRuns caseIgnorableBounds c) with
  | some c => inRuns casedBounds c
  | none => false

/-- Small letters of the rest of a text, given what stands before it in reverse. A capital sigma that
ends a word has a form of its own. -/
def lowerAfter (before : List Char) : List Char → List Char
  | [] => []
  | c :: rest =>
    (if c = 'Σ' then
      if endsInLetter before && !endsInLetter rest then ['ς'] else ['σ']
    else mapCase lowerSequences lowerRuns c) ++ lowerAfter (c :: before) rest

def lower (text : String) : String := String.ofList (lowerAfter [] text.toList)

def upper (text : String) : String :=
  String.ofList (text.toList.flatMap (mapCase upperSequences upperRuns))

end CurriedLisp.Text
