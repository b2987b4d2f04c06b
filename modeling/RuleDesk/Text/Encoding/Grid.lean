/-!
# Grids of characters

A character set of the two-octet kind arranges its characters in rows. A full stop stands in the
place of a row that has no character; no such set has the full stop itself.
-/

set_option autoImplicit false

namespace RuleDesk.Text.Encoding

/-- Rows of characters, each from its first place. -/
abbrev Grid := Array String

/-- The character at a place of a row. -/
def Grid.at? (grid : Grid) (row place : Nat) : Option Char := do
  let text ← grid[row]?
  let c ← text.toList[place]?
  if c = '.' then none else some c

end RuleDesk.Text.Encoding
