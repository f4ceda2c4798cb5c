/-!
# Classes of code points

A class of characters is given by the ranges of their code points, the ends of a range included.
-/

namespace CollectionProfile.Text

/-- Whether a character lies in one of the ranges. -/
def inRanges (ranges : List (Nat × Nat)) (c : Char) : Bool :=
  ranges.any fun (first, last) => first ≤ c.toNat && c.toNat ≤ last

end CollectionProfile.Text
