import RuleDesk.Text.Pieces
import RuleDesk.Text.Utf8

/-!
# Percent encoding and form encoding

A percent sign with two hexadecimal digits stands for an octet; a percent sign without them stands
for itself. In a query, pairs stand between ampersands, a name and a value on either side of the
first equals sign, and a plus sign stands for a space.
-/

set_option autoImplicit false

namespace RuleDesk.Http

open RuleDesk.Text

/-- The value of an octet as a hexadecimal digit. -/
def hexOctet? (b : UInt8) : Option UInt8 :=
  if 0x30 ≤ b && b ≤ 0x39 then some (b - 0x30)
  else if 0x41 ≤ b && b ≤ 0x46 then some (b - 0x41 + 10)
  else if 0x61 ≤ b && b ≤ 0x66 then some (b - 0x61 + 10)
  else none

/-- Replace each percent sign that two hexadecimal digits follow, and the digits, by their octet.
-/
def percentDecode : List UInt8 → List UInt8
  | 0x25 :: high :: low :: rest =>
      match hexOctet? high, hexOctet? low with
      | some h, some l => (h * 16 + l) :: percentDecode rest
      | _, _ => 0x25 :: percentDecode (high :: low :: rest)
  | b :: rest => b :: percentDecode rest
  | [] => []

/-- The text of a path segment; none if its octets are not UTF-8. -/
def decodeSegment? (segment : List Char) : Option String :=
  (exactText? (percentDecode (toOctets segment))).map String.ofList

/-- The text of a name or value in a query; octets that are not UTF-8 become U+FFFD. -/
def decodeFormText (s : List Char) : String :=
  let octets := (toOctets s).map fun b => if b = 0x2B then 0x20 else b
  String.ofList (lossyText (percentDecode octets))

/-- The pairs of a query. Empty pieces are passed over; a piece without equals sign has an empty
value. -/
def formPairs (query : List Char) : List (String × String) :=
  ((pieces '&' query).filter (fun piece => !piece.isEmpty)).map fun piece =>
    match cutAt? '=' piece with
    | some (name, value) => (decodeFormText name, decodeFormText value)
    | none => (decodeFormText piece, "")

end RuleDesk.Http
