/-!
Sets of characters given as ascending, disjoint ranges of code points.
-/
namespace AlertSound.Text

/-- Binary search among ascending ranges, between the positions `lo` and `hi`. -/
def inRangesFrom (ranges : Array (Nat × Nat)) (code lo hi : Nat) : Bool :=
  if lo < hi then
    let mid := (lo + hi) / 2
    match ranges[mid]? with
    | none => false
    | some (first, last) =>
      if code < first then inRangesFrom ranges code lo mid
      else if last < code then inRangesFrom ranges code (mid + 1) hi
      else true
  else false
termination_by hi - lo

def inRanges (ranges : Array (Nat × Nat)) (c : Char) : Bool :=
  inRangesFrom ranges c.toNat 0 ranges.size

end AlertSound.Text
