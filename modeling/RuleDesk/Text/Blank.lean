/-!
# Blank characters, trimming and words

The blank characters are those of the Unicode property `White_Space`. Trimming removes them from
both ends of a text, and the words of a text are its maximal runs of other characters.

Texts are lists of characters here and in the other `Text` modules, so that each function is a
recursion on the data.
-/

set_option autoImplicit false

namespace RuleDesk.Text

/-- The Unicode property `White_Space`. -/
def isBlank (c : Char) : Bool :=
  (9 ≤ c.toNat && c.toNat ≤ 13) || c.toNat == 0x20 || c.toNat == 0x85 || c.toNat == 0xA0 ||
    c.toNat == 0x1680 || (0x2000 ≤ c.toNat && c.toNat ≤ 0x200A) || c.toNat == 0x2028 ||
    c.toNat == 0x2029 || c.toNat == 0x202F || c.toNat == 0x205F || c.toNat == 0x3000

/-! ## Stripping both ends -/

/-- Remove the items that satisfy `p` from the right end. -/
def stripRight {α : Type} (p : α → Bool) (s : List α) : List α :=
  (s.reverse.dropWhile p).reverse

/-- Remove the items that satisfy `p` from both ends. -/
def strip {α : Type} (p : α → Bool) (s : List α) : List α :=
  stripRight p (s.dropWhile p)

/-- Remove the blank characters from both ends. -/
def trim (s : List Char) : List Char :=
  strip isBlank s

/-- A text with no character but blank ones. -/
def isAllBlank (s : List Char) : Bool :=
  (trim s).isEmpty

/-- Whether `tail` ends the text. -/
def endsWith (tail s : List Char) : Bool :=
  tail.isSuffixOf s

end RuleDesk.Text
