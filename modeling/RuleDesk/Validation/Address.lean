import RuleDesk.Text.DecimalDigit
import RuleDesk.Text.Pieces
import RuleDesk.Text.WordCharacter

/-!
# Addresses and ports

The written forms of the address and port fields of a rule. Either is `any`, a variable, or a
number form or bracketed list that one exclamation mark may negate.

```text
variable   $NAME
address    n.n.n.n   n.n.n.n/n   [ ... ]
port       n   n:n   [ n , n:n , ... ]
```

Digits and the characters of names may be of any script. Nothing may stand before or after a form.
-/

set_option autoImplicit false

namespace RuleDesk.Validation

open RuleDesk.Text

/-! ## Common parts -/

/-- From `least` to `most` decimal digits. -/
def isDigits (least most : Nat) (s : List Char) : Bool :=
  least ≤ s.length && s.length ≤ most && s.all isDecimalDigit

/-- A dollar sign and a name. -/
def isVariable : List Char → Bool
  | '$' :: name => !name.isEmpty && name.all isWordCharacter
  | _ => false

/-- The text behind one optional exclamation mark. -/
def positive : List Char → List Char
  | '!' :: rest => rest
  | s => s

/-- The text between square brackets that stand at both ends. -/
def bracketed? : List Char → Option (List Char)
  | '[' :: rest =>
      match rest.getLast? with
      | some ']' => some rest.dropLast
      | _ => none
  | _ => none

/-! ## Ports -/

/-- A port: one to five digits. -/
def isPortNumber (s : List Char) : Bool :=
  isDigits 1 5 s

/-- A port, or two with a colon between them. -/
def isPortRange (s : List Char) : Bool :=
  match pieces ':' s with
  | [port] => isPortNumber port
  | [low, high] => isPortNumber low && isPortNumber high
  | _ => false

/-- Port ranges between square brackets, with commas between them. -/
def isPortList (s : List Char) : Bool :=
  match bracketed? s with
  | some inner => (pieces ',' inner).all isPortRange
  | none => false

/-- The written form of a port field. -/
def isPort (s : List Char) : Bool :=
  s == "any".toList || isVariable s || isPortRange (positive s) || isPortList (positive s)

/-! ## Addresses -/

/-- Four groups of one to three digits, with dots between them. -/
def isDottedQuad (s : List Char) : Bool :=
  match pieces '.' s with
  | [a, b, c, d] => isDigits 1 3 a && isDigits 1 3 b && isDigits 1 3 c && isDigits 1 3 d
  | _ => false

/-- A dotted quad, or one with a slash and one or two digits behind it. -/
def isNetwork (s : List Char) : Bool :=
  match pieces '/' s with
  | [address] => isDottedQuad address
  | [address, bits] => isDottedQuad address && isDigits 1 2 bits
  | _ => false

/-- A character that may stand in an address list. -/
def isAddressListCharacter (c : Char) : Bool :=
  isWordCharacter c || isDecimalDigit c || isBlank c || c == '.' || c == ',' || c == '/' ||
    c == '!' || c == '$'

/-- One or more characters of an address list between square brackets. -/
def isAddressList (s : List Char) : Bool :=
  match bracketed? s with
  | some inner => !inner.isEmpty && inner.all isAddressListCharacter
  | none => false

/-- The written form of an address field. -/
def isAddress (s : List Char) : Bool :=
  s == "any".toList || isVariable s || isNetwork (positive s) || isAddressList (positive s)

end RuleDesk.Validation
