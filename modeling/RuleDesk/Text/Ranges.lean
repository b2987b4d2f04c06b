/-!
# Ranges of code points

A class of characters given by a list of closed ranges of code points.
-/

set_option autoImplicit false

namespace RuleDesk.Text

/-- Closed ranges of code points, each with its first and its last one. -/
abbrev Ranges := List (Nat × Nat)

/-- Whether a character lies in one of the ranges. -/
def Ranges.covers (ranges : Ranges) (c : Char) : Bool :=
  ranges.any fun (first, last) => first ≤ c.toNat && c.toNat ≤ last

end RuleDesk.Text
