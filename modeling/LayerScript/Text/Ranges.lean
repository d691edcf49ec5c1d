/-!
# Sets of characters as ranges

A property of characters is a list of ranges of code points in ascending order.
-/

namespace LayerScript.Text

/-- Inclusive ranges of code points. -/
abbrev Ranges := List (Nat × Nat)

def Ranges.holds (ranges : Ranges) (c : Char) : Bool :=
  ranges.any fun r => r.1 ≤ c.toNat && c.toNat ≤ r.2

end LayerScript.Text
