/-!
Sets of code points, written as ascending lists of closed ranges.
-/

namespace CellMachine.Text

/-- Membership in ascending ranges: the search stops at the first range that starts beyond `n`. -/
def inRanges (n : Nat) : List (Nat × Nat) → Bool
  | [] => false
  | (first, last) :: rest => if n < first then false else n ≤ last || inRanges n rest

end CellMachine.Text
