/-!
# Ranges of characters

A property of characters is given by the ranges of code points that have it.
-/

namespace StoreAdmin.Text

/-- Whether a character is in one of the ranges; each is given by its first and last code point. -/
def inRanges (ranges : List (Nat × Nat)) (c : Char) : Bool :=
  ranges.any fun r => r.1 ≤ c.toNat && c.toNat ≤ r.2

end StoreAdmin.Text
