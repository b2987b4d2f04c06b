import RuleDesk.Text.Pieces

/-!
# Hexadecimal blocks

In the content of a rule, vertical bars enclose octets in hexadecimal: the first bar opens a block
that the second closes, the third opens the next one, and so on. A bar without partner opens none.
-/

set_option autoImplicit false

namespace RuleDesk.Validation

open RuleDesk.Text

/-- Every second piece that has a piece behind it. -/
def enclosed : List (List Char) → List (List Char)
  | _ :: block :: next :: rest => block :: enclosed (next :: rest)
  | _ => []

/-- The texts that pairs of vertical bars enclose. -/
def hexBlocks (content : List Char) : List (List Char) :=
  enclosed (pieces '|' content)

/-- An ASCII hexadecimal digit. -/
def isHexDigit (c : Char) : Bool :=
  ('0' ≤ c && c ≤ '9') || ('a' ≤ c && c ≤ 'f') || ('A' ≤ c && c ≤ 'F')

/-- Whether the characters of a block other than spaces are odd in number. -/
def hasOddHex (block : List Char) : Bool :=
  (block.filter (· != ' ')).length % 2 != 0

/-- Whether a block is empty or holds a character that is no hexadecimal digit and not blank. -/
def hasNonHex (block : List Char) : Bool :=
  block.isEmpty || !block.all (fun c => isHexDigit c || isBlank c)

end RuleDesk.Validation
