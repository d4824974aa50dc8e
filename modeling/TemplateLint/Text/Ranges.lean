/-! Sets of characters as ascending ranges. -/

namespace TemplateLint.Text

/-- Searches an ascending array of ranges between two indices; `width` bounds their distance. -/
def inRanges (ranges : Array (Nat × Nat)) (n : Nat) : (low high width : Nat) → Bool
  | _, _, 0 => false
  | low, high, width + 1 =>
    if low < high then
      let middle := (low + high) / 2
      match ranges[middle]? with
      | none => false
      | some (first, last) =>
        if n < first then inRanges ranges n low middle width
        else if last < n then inRanges ranges n (middle + 1) high width
        else true
    else false

/-- Whether a character lies in one of the ranges, which are ascending and include their ends. -/
def isWithin (ranges : Array (Nat × Nat)) (c : Char) : Bool :=
  inRanges ranges c.toNat 0 ranges.size ranges.size

end TemplateLint.Text
