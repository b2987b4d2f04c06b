import RuleDesk.Text.Encoding.BigFiveGrid
import RuleDesk.Text.Encoding.PairCode

/-!
# Big5

The encoding of traditional Chinese, with the Hong Kong supplement. Four of its pairs stand for a
letter with a combining mark.
-/

set_option autoImplicit false

namespace RuleDesk.Text.Encoding

/-- The pairs that stand for two characters. -/
def bigFiveCombined? (a b : UInt8) : Option (List Char) :=
  if a != 0x88 then none
  else if b == 0x62 then some ['Ê', '\u0304']
  else if b == 0x64 then some ['Ê', '\u030C']
  else if b == 0xA3 then some ['ê', '\u0304']
  else if b == 0xA5 then some ['ê', '\u030C']
  else none

/-- Big5. -/
def bigFive : PairCode where
  single := asciiOnly
  isLead := within 0x81 0xFE
  pair a b :=
    match bigFiveCombined? a b with
    | some combined => some combined
    | none => do
        let place ← placeIn 0x40 0x7F 0xA1 b
        let c ← bigFiveRows.at? (a.toNat - 0x81) place
        return [c]

end RuleDesk.Text.Encoding
