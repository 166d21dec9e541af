import CurriedLisp.Number.Shortest

/-! How numbers are written: `Number.exactText` keeps a point in every number, `Number.text` leaves it
out of whole numbers. -/

namespace CurriedLisp

structure Layout where
  positionalFrom : Int
  positionalTo : Int
  exponentWidth : Nat

namespace Layout

/-- Exponents below `-4` and above `15` are written, with a sign and at least two digits. -/
def standard : Layout := ⟨-4, 15, 2⟩

def padded (width : Nat) (digits : String) : String :=
  String.ofList (List.replicate (width - digits.length) '0') ++ digits

def exponentText (l : Layout) (e : Int) : String :=
  (if e < 0 then "e-" else "e+") ++ padded l.exponentWidth e.natAbs.repr

def positional (digits : List Char) (before : Int) : String :=
  if before ≤ 0 then "0." ++ String.ofList (List.replicate (-before).toNat '0' ++ digits)
  else
    let whole := digits.take before.toNat ++ List.replicate (before.toNat - digits.length) '0'
    let fraction := digits.drop before.toNat
    String.ofList whole ++ "." ++ (if fraction.isEmpty then "0" else String.ofList fraction)

def scientific (l : Layout) (digits : List Char) (e : Int) : String :=
  let fraction := digits.drop 1
  String.ofList (digits.take 1) ++ (if fraction.isEmpty then "" else "." ++ String.ofList fraction) ++
    l.exponentText e

def write (l : Layout) (d : Decimal) : String :=
  let digits := d.digits.repr.toList
  let e := d.exponent + digits.length - 1
  (if d.negative then "-" else "") ++
    if l.positionalFrom ≤ e ∧ e ≤ l.positionalTo then positional digits (e + 1)
    else l.scientific digits e

end Layout

namespace Number

def exactText : Number → String
  | finite s q h => Layout.standard.write (shortest s q h)
  | infinite s => if s then "-inf" else "inf"
  | nan _ => "nan"

/-- Whole numbers are written without a point up to the least one whose neighbour is two away. -/
def text : Number → String
  | finite s q h =>
    if q % one = 0 ∧ q < 10 ^ 16 * one then
      (if s ∧ q ≠ 0 then "-" else "") ++ (q / one).repr
    else exactText (finite s q h)
  | a => exactText a

end Number

end CurriedLisp
