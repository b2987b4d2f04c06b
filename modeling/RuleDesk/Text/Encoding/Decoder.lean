/-!
# Decoders

An encoding is read octet by octet. A decoder keeps what it has to know of the octets before, and
says for each octet which characters it completes; U+FFFD stands where octets spell no character.
Every octet sequence has a reading.
-/

set_option autoImplicit false

namespace RuleDesk.Text.Encoding

/-- The character that is shown for octets that spell none. -/
def unreadable : Char := '\uFFFD'

/-- How octets are read: the state at the start, the characters and the state that an octet leads
to, and the characters for what is left unfinished at the end. -/
structure Decoder (σ : Type) where
  start : σ
  step : σ → UInt8 → List Char × σ
  finish : σ → List Char

namespace Decoder

variable {σ : Type}

/-- Read octets from a given state on. -/
def readFrom (d : Decoder σ) : σ → List UInt8 → List Char
  | s, [] => d.finish s
  | s, b :: rest =>
      let (shown, s) := d.step s b
      shown ++ d.readFrom s rest

/-- The text of octets. -/
def read (d : Decoder σ) (octets : List UInt8) : List Char :=
  d.readFrom d.start octets

end Decoder

/-- An octet of ASCII. -/
def isAscii (b : UInt8) : Bool :=
  b < 0x80

/-- The character with the number of an octet. -/
def plain (b : UInt8) : Char :=
  Char.ofNat b.toNat

/-- What is shown where an octet does not go with those before it: these spell no character, and
the octet is read afresh if it is one of ASCII. -/
def mismatched (b : UInt8) : List Char :=
  if isAscii b then [unreadable, plain b] else [unreadable]

/-- Whether an octet lies between two others. -/
def within (low high b : UInt8) : Bool :=
  low ≤ b && b ≤ high

end RuleDesk.Text.Encoding
