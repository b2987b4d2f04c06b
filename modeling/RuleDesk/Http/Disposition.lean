import RuleDesk.Http.HeaderBlock

/-!
# Attributes of a content disposition

An attribute is a key, an equals sign and a value, with blanks around the equals sign if need be.
Its key stands at the start of the header value or behind a blank or semicolon. A value in double
quotes runs to the first quote that no backslash stands before; any other value runs to a space or
semicolon.
-/

set_option autoImplicit false

namespace RuleDesk.Http

open RuleDesk.Text

/-- Whether an attribute may begin behind an item, or at the start. -/
def opensAttribute : Option Glyph → Bool
  | none => true
  | some g => isLineBlank g || g == .char ';'

/-- What follows the first occurrence of a key that stands where an attribute may begin. An
occurrence elsewhere is passed over, and an attribute may begin right behind it; `fuel` bounds the
number of occurrences. -/
def behindKey? (key : List Glyph) : Nat → List Glyph → Option (List Glyph)
  | 0, _ => none
  | fuel + 1, s => do
      let (before, after) ← cutAround? key s
      if opensAttribute before.getLast? then some after else behindKey? key fuel after

/-- The value up to the closing quote. A backslash before a quote keeps it in the value and is left
out itself. -/
def quotedAttribute? : List Glyph → Option (List Glyph)
  | [] => none
  | .char '"' :: _ => some []
  | .char '\\' :: .char '"' :: rest => (quotedAttribute? rest).map (.char '"' :: ·)
  | g :: rest => (quotedAttribute? rest).map (g :: ·)

/-- The value behind the equals sign. -/
def attributeValue? (s : List Glyph) : Option (List Glyph) :=
  match s.dropWhile isLineBlank with
  | .char '"' :: rest => quotedAttribute? rest
  | rest => some (rest.takeWhile fun g => g != .char ' ' && g != .char ';')

/-- The value of the attribute with a given key. There is none if the first key that stands where
an attribute may begin has no equals sign behind it, or if the value's octets are not text. -/
def attribute? (key : String) (disposition : List Glyph) : Option String := do
  let rest ← behindKey? (key.toList.map .char) (disposition.length + 1) disposition
  match rest.dropWhile isLineBlank with
  | .char '=' :: rest => do
      let value ← attributeValue? rest
      let text ← flawless? value
      return String.ofList text
  | _ => none

end RuleDesk.Http
