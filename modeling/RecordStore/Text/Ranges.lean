/-!
Sets of characters given as ranges of code points, ends included.
-/

namespace RecordStore

/-- Whether a code point lies in one of the ranges. -/
def inRanges (ranges : List (Nat × Nat)) (code : Nat) : Bool :=
  ranges.any fun (low, high) => low ≤ code && code ≤ high

end RecordStore
