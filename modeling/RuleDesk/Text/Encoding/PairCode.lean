import RuleDesk.Text.Encoding.Decoder

/-!
# Codes of single octets and pairs

An octet stands alone for a character, or it leads and makes a character together with the octet
behind it.
-/

set_option autoImplicit false

namespace RuleDesk.Text.Encoding

/-- A code of single octets and pairs. No octet of ASCII leads. -/
structure PairCode where
  single : UInt8 → Option Char
  isLead : UInt8 → Bool
  pair : UInt8 → UInt8 → Option (List Char)

/-- Reading keeps the octet that leads. -/
def PairCode.decoder (code : PairCode) : Decoder (Option UInt8) where
  start := none
  step
    | none, b =>
        if code.isLead b then ([], some b) else ([(code.single b).getD unreadable], none)
    | some a, b => ((code.pair a b).getD (mismatched b), none)
  finish lead := if lead.isSome then [unreadable] else []

/-- ASCII alone. -/
def asciiOnly (b : UInt8) : Option Char :=
  if isAscii b then some (plain b) else none

/-- The place of a second octet in a row, where octets from `low` on have places, of which those
from `gap` below `resume` have none. -/
def placeIn (low gap resume b : UInt8) : Option Nat :=
  if low ≤ b && b < gap then some (b.toNat - low.toNat)
  else if resume ≤ b && b != 0xFF then
    some (b.toNat - resume.toNat + (gap.toNat - low.toNat))
  else none

end RuleDesk.Text.Encoding
