/-!
# Decimal numerals

Writing a natural number gives its decimal digits with no leading zero. Reading accepts an optional
`+` before one or more ASCII digits and refuses a value above a stated limit; leading zeros are
allowed.
-/

set_option autoImplicit false

namespace RuleDesk.Text

/-- One of the ten ASCII digits. -/
def isAsciiDigit (c : Char) : Bool :=
  '0' ≤ c && c ≤ '9'

/-- The decimal digits of a number. -/
def numeral (n : Nat) : List Char :=
  Nat.toDigits 10 n

/-- The number that a run of ASCII digits denotes. -/
def digitsValue (digits : List Char) : Nat :=
  digits.foldl (fun n d => 10 * n + (d.toNat - '0'.toNat)) 0

/-- Read one or more ASCII digits. -/
def readDigits? (s : List Char) : Option Nat :=
  if !s.isEmpty && s.all isAsciiDigit then some (digitsValue s) else none

/-- Read an unsigned number of at most `limit`, with an optional `+` before it. -/
def readNat? (limit : Nat) (s : List Char) : Option Nat :=
  let digits :=
    match s with
    | '+' :: rest => rest
    | _ => s
  (readDigits? digits).filter (· ≤ limit)

/-- Read a number of 32 bits. -/
def readWord? (s : List Char) : Option UInt32 :=
  (readNat? 0xFFFFFFFF s).map UInt32.ofNat

end RuleDesk.Text
