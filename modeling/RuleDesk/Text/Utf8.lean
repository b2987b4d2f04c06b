/-!
# Reading octets as UTF-8

Octets are read one at a time. Where they spell a character the result is that character; where
they do not, the longest run of octets that still began a character, or a single octet that begins
none, is kept as a flaw. So every octet sequence has a reading, a well-formed one has a reading
without flaws, and what stands before an ASCII octet never changes what is read after it.
-/

set_option autoImplicit false

namespace RuleDesk.Text

/-- One item of the reading: a character, or `octets` octets that spell none. -/
inductive Glyph where
  | char (c : Char)
  | flaw (octets : Nat)
  deriving DecidableEq, Repr

/-- A character of which `read` octets are read and `owed` are still to come. The next octet must
lie between `low` and `high`; the bits read so far are `bits`. -/
structure Started where
  owed : Nat
  low : UInt8
  high : UInt8
  bits : Nat
  read : Nat
  deriving DecidableEq, Repr

/-- What the first octet of a character says. -/
inductive Lead where
  | whole (glyph : Glyph)
  | more (started : Started)
  deriving DecidableEq, Repr

/-- Classify an octet that stands where a character begins. The bounds keep out overlong forms,
surrogates and values above U+10FFFF. -/
def lead (b : UInt8) : Lead :=
  if b < 0x80 then .whole (.char (Char.ofNat b.toNat))
  else if b < 0xC2 then .whole (.flaw 1)
  else if b < 0xE0 then .more ⟨1, 0x80, 0xBF, b.toNat - 0xC0, 1⟩
  else if b = 0xE0 then .more ⟨2, 0xA0, 0xBF, 0, 1⟩
  else if b = 0xED then .more ⟨2, 0x80, 0x9F, 13, 1⟩
  else if b < 0xF0 then .more ⟨2, 0x80, 0xBF, b.toNat - 0xE0, 1⟩
  else if b = 0xF0 then .more ⟨3, 0x90, 0xBF, 0, 1⟩
  else if b < 0xF4 then .more ⟨3, 0x80, 0xBF, b.toNat - 0xF0, 1⟩
  else if b = 0xF4 then .more ⟨3, 0x80, 0x8F, 4, 1⟩
  else .whole (.flaw 1)

/-- Add the six bits of a continuation octet. -/
def Started.push (s : Started) (b : UInt8) : Started :=
  ⟨s.owed - 1, 0x80, 0xBF, s.bits * 64 + (b.toNat - 0x80), s.read + 1⟩

/-- Read octets from between characters (`none`) or inside one. -/
def readFrom : Option Started → List UInt8 → List Glyph
  | none, [] => []
  | some s, [] => [.flaw s.read]
  | none, b :: rest =>
      match lead b with
      | .whole g => g :: readFrom none rest
      | .more s => readFrom (some s) rest
  | some s, b :: rest =>
      if s.low ≤ b ∧ b ≤ s.high then
        let s' := s.push b
        if s'.owed = 0 then .char (Char.ofNat s'.bits) :: readFrom none rest
        else readFrom (some s') rest
      else
        .flaw s.read ::
          match lead b with
          | .whole g => g :: readFrom none rest
          | .more s' => readFrom (some s') rest

/-- The reading of an octet sequence. -/
def glyphs (octets : List UInt8) : List Glyph :=
  readFrom none octets

/-- The character shown for an item: U+FFFD stands for octets that spell none. -/
def Glyph.shown : Glyph → Char
  | .char c => c
  | .flaw _ => '\uFFFD'

/-- How many octets an item takes. -/
def Glyph.octets : Glyph → Nat
  | .char c => c.utf8Size
  | .flaw n => n

/-- The text of an octet sequence, with U+FFFD in the place of each flaw. -/
def lossyText (octets : List UInt8) : List Char :=
  (glyphs octets).map Glyph.shown

/-- The characters of a reading, if it has no flaw. -/
def flawless? : List Glyph → Option (List Char)
  | [] => some []
  | .char c :: rest => (flawless? rest).map (c :: ·)
  | .flaw _ :: _ => none

/-- The text of a well-formed octet sequence. -/
def exactText? (octets : List UInt8) : Option (List Char) :=
  flawless? (glyphs octets)

/-- The octets of a text. -/
def toOctets (s : List Char) : List UInt8 :=
  s.flatMap String.utf8EncodeChar

end RuleDesk.Text
