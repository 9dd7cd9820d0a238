/-!
Sets of characters given as ranges of code points.
-/

namespace DocFilter.Text

def inRanges (ranges : List (Nat × Nat)) (n : Nat) : Bool :=
  ranges.any fun range => range.1 ≤ n && n ≤ range.2

end DocFilter.Text
