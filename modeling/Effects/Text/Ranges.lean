/-!
# Classes of characters

A class of characters is listed as the ranges of its code points.
-/

namespace Effects.Text

/-- Whether a character lies in one of the given ranges of code points. -/
def inRanges (ranges : List (Nat × Nat)) (c : Char) : Bool :=
  ranges.any fun (first, last) => first ≤ c.toNat && c.toNat ≤ last

end Effects.Text
