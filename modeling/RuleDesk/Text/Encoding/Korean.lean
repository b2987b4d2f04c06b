import RuleDesk.Text.Encoding.KoreanGrid
import RuleDesk.Text.Encoding.PairCode

/-!
# A Korean encoding

EUC-KR in its unified form: every octet from 0x81 on leads, and gives the row.
-/

set_option autoImplicit false

namespace RuleDesk.Text.Encoding

/-- EUC-KR. -/
def eucKr : PairCode where
  single := asciiOnly
  isLead := within 0x81 0xFE
  pair a b := do
    let c ← if within 0x41 0xFE b then
        unifiedHangul.at? (a.toNat - 0x81) (b.toNat - 0x41)
      else none
    return [c]

end RuleDesk.Text.Encoding
