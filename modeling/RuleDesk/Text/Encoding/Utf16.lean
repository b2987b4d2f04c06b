import RuleDesk.Text.Encoding.Decoder

/-!
# Reading UTF-16

Two octets make a unit, in either order. A unit is a character, or two of them, a high and a low
surrogate, make one together.
-/

set_option autoImplicit false

namespace RuleDesk.Text.Encoding

/-- Which octet of a unit comes first. -/
inductive ByteOrder where
  | bigEndian
  | littleEndian
  deriving DecidableEq, Repr

/-- The unit that two octets make. -/
def ByteOrder.unit : ByteOrder → UInt8 → UInt8 → Nat
  | .bigEndian, a, b => a.toNat * 256 + b.toNat
  | .littleEndian, a, b => b.toNat * 256 + a.toNat

/-- The first half of a surrogate pair. -/
def isHighSurrogate (unit : Nat) : Bool :=
  0xD800 ≤ unit && unit < 0xDC00

/-- The second half of a surrogate pair. -/
def isLowSurrogate (unit : Nat) : Bool :=
  0xDC00 ≤ unit && unit < 0xE000

/-- What is read but not shown yet: a high surrogate, and the first octet of a unit. -/
structure Utf16State where
  high : Option Nat
  octet : Option UInt8
  deriving DecidableEq, Repr

/-- Take a unit that stands where a character begins. -/
def beginUnit (unit : Nat) : List Char × Utf16State :=
  if isHighSurrogate unit then ([], ⟨some unit, none⟩)
  else if isLowSurrogate unit then ([unreadable], ⟨none, none⟩)
  else ([Char.ofNat unit], ⟨none, none⟩)

/-- Take a unit behind a high surrogate. -/
def joinUnit (high unit : Nat) : List Char × Utf16State :=
  if isLowSurrogate unit then
    ([Char.ofNat (0x10000 + (high - 0xD800) * 0x400 + (unit - 0xDC00))], ⟨none, none⟩)
  else
    let (shown, s) := beginUnit unit
    (unreadable :: shown, s)

/-- UTF-16 with a given order of octets. -/
def utf16 (order : ByteOrder) : Decoder Utf16State where
  start := ⟨none, none⟩
  step
    | ⟨high, none⟩, b => ([], ⟨high, some b⟩)
    | ⟨none, some a⟩, b => beginUnit (order.unit a b)
    | ⟨some high, some a⟩, b => joinUnit high (order.unit a b)
  finish
    | ⟨none, none⟩ => []
    | _ => [unreadable]

end RuleDesk.Text.Encoding
