/-!
# Tables of ranges

A class of characters as a table of closed ranges, in increasing order.
-/

namespace Attendant.Text

/-- Looks for a range that holds a number, among those from `lo` to before `hi`. -/
private def searchRanges (ranges : Array (Nat × Nat)) (n : Nat) : Nat → Nat → Nat → Bool
  | 0, _, _ => false
  | fuel + 1, lo, hi =>
    if lo < hi then
      let mid := (lo + hi) / 2
      match ranges[mid]? with
      | none => false
      | some (a, b) =>
        if n < a then searchRanges ranges n fuel lo mid
        else if b < n then searchRanges ranges n fuel (mid + 1) hi
        else true
    else false

/-- Whether a number lies in one of the ranges of a table. -/
def inRanges (ranges : Array (Nat × Nat)) (n : Nat) : Bool := searchRanges ranges n 24 0 ranges.size

end Attendant.Text
