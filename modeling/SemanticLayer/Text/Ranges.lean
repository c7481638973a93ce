/-
# Sets of characters given as ranges of code points
-/

namespace SemanticLayer.Text

/-- Whether a character lies in one of the ranges, ends included. -/
def inRanges (ranges : Array (Nat × Nat)) (c : Char) : Bool :=
  ranges.any fun (lo, hi) => lo ≤ c.toNat && c.toNat ≤ hi

end SemanticLayer.Text
