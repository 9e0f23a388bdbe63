/-!
# Ranges of characters

A class of characters is a list of ranges of code points, each given by its first and last, in
ascending order.
-/

namespace DebugDashboard.Text

/-- Whether a character lies in one of the ranges. What begins behind it is not looked at. -/
def inRanges (ranges : List (Nat × Nat)) (c : Char) : Bool :=
  match ranges with
  | [] => false
  | (first, last) :: rest => first ≤ c.toNat && (c.toNat ≤ last || inRanges rest c)

end DebugDashboard.Text
