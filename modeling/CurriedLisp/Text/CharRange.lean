namespace CurriedLisp.Text

/-- Whether `c` lies in a run, for ascending `bounds` that begin and end runs in turn. -/
def inRuns (bounds : List Nat) (c : Char) : Bool :=
  bounds.countP (· ≤ c.toNat) % 2 == 1

end CurriedLisp.Text
