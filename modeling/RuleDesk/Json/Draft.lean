import RuleDesk.Json.Value
import RuleDesk.Text.Utf8

/-!
# Drafts: JSON text as far as it could be read

A draft is the tree of a JSON text up to the first place where the text leaves the grammar. Whoever
walks a draft in document order meets each item before the place where the reading broke, so one
draft serves readers that want the whole value, readers that want a few typed members, and readers
that skip a member unseen.

A *flaw* marks text that keeps to the grammar and yet has no value: a lone surrogate or octets that
are not UTF-8 in a string, a number too large for a float, a container nested too deeply. Only a
reader that wants the value minds a flaw.
-/

set_option autoImplicit false

namespace RuleDesk.Json

open RuleDesk.Text

/-! ## Faults -/

/-- What is wrong at a place of a JSON text. -/
inductive Cause where
  | endInArray
  | endInObject
  | endInString
  | endInValue
  | expectedColon
  | expectedArrayEnd
  | expectedObjectEnd
  | expectedLiteral
  | expectedValue
  | invalidEscape
  | invalidNumber
  | numberOutOfRange
  | invalidCodePoint
  | controlCharacter
  | nameNotString
  | loneSurrogate
  | trailingComma
  | trailingCharacters
  | unpairedSurrogate
  | nestedTooDeeply
  deriving DecidableEq, Repr

/-- The wording of a cause. -/
def Cause.message : Cause → String
  | .endInArray => "EOF while parsing a list"
  | .endInObject => "EOF while parsing an object"
  | .endInString => "EOF while parsing a string"
  | .endInValue => "EOF while parsing a value"
  | .expectedColon => "expected `:`"
  | .expectedArrayEnd => "expected `,` or `]`"
  | .expectedObjectEnd => "expected `,` or `\x7d`"
  | .expectedLiteral => "expected ident"
  | .expectedValue => "expected value"
  | .invalidEscape => "invalid escape"
  | .invalidNumber => "invalid number"
  | .numberOutOfRange => "number out of range"
  | .invalidCodePoint => "invalid unicode code point"
  | .controlCharacter =>
      "control character (\\u0000-\\u001F) found while parsing a string"
  | .nameNotString => "key must be a string"
  | .loneSurrogate => "lone leading surrogate in hex escape"
  | .trailingComma => "trailing comma"
  | .trailingCharacters => "trailing characters"
  | .unpairedSurrogate => "unexpected end of hex escape"
  | .nestedTooDeeply => "recursion limit exceeded"

/-- A cause and its place, given by how many octets of the text follow it. -/
structure Fault where
  cause : Cause
  after : Nat
  deriving DecidableEq, Repr

/-- How many octets a reading takes. -/
def octetCount (input : List Glyph) : Nat :=
  input.foldl (fun count g => count + g.octets) 0

/-- A fault at the last octet read, of which `rest` follows. -/
def Fault.behind (cause : Cause) (rest : List Glyph) : Fault :=
  ⟨cause, octetCount rest⟩

/-- A fault at the octet that comes next, the first of `rest`. -/
def Fault.ahead (cause : Cause) (rest : List Glyph) : Fault :=
  ⟨cause, octetCount rest - 1⟩

/-- The line and the column, in octets, that are reached after `left` more octets. -/
def placeAfter (line column left : Nat) : List Glyph → Nat × Nat
  | [] => (line, column)
  | g :: rest =>
      if g.octets ≤ left then
        if g = .char '\n' then placeAfter (line + 1) 0 (left - g.octets) rest
        else placeAfter line (column + g.octets) (left - g.octets) rest
      else (line, column + left)

/-- The cause with its line and column in the text. -/
def Fault.message (f : Fault) (input : List Glyph) : String :=
  let (line, column) := placeAfter 1 0 (octetCount input - f.after) input
  s!"{f.cause.message} at line {line} column {column}"

/-! ## Drafts -/

/-- The name of a member as read. -/
structure Name where
  text : String
  flaw : Option Fault
  deriving DecidableEq, Repr

/-- A JSON text up to the place where it leaves the grammar. In an array or object, `stop` is the
fault that stands between or after its items. -/
inductive Draft where
  | null
  | bool (b : Bool)
  | number (flaw : Option Fault) (n : Number)
  | string (flaw : Option Fault) (s : String)
  | array (flaw : Option Fault) (items : List Draft) (stop : Option Fault)
  | object (flaw : Option Fault) (members : List (Name × Draft)) (stop : Option Fault)
  | broken (fault : Fault)
  deriving Inhabited, Repr

/-- The draft of a whole text, with the fault of what follows its value. -/
structure Document where
  draft : Draft
  trailing : Option Fault
  deriving Inhabited, Repr

/-! ## Walking a draft -/

/-- Fail with a fault if there is one. -/
def refuse : Option Fault → Except Fault Unit
  | none => .ok ()
  | some fault => .error fault

mutual

/-- The value of a draft that has one, or the first fault of it in document order. -/
def Draft.value : Draft → Except Fault Value
  | .null => .ok .null
  | .bool b => .ok (.bool b)
  | .number flaw n => do refuse flaw; return .number n
  | .string flaw s => do refuse flaw; return .string s
  | .array flaw items stop => do
      refuse flaw
      let values ← valueItems items
      refuse stop
      return .array values
  | .object flaw members stop => do
      refuse flaw
      let values ← valueMembers members
      refuse stop
      return .object (sortMembers values)
  | .broken fault => .error fault

/-- The values of the items of an array. -/
def valueItems : List Draft → Except Fault (List Value)
  | [] => .ok []
  | item :: rest => do
      let value ← item.value
      let values ← valueItems rest
      return value :: values

/-- The members of an object with their values, in document order. -/
def valueMembers : List (Name × Draft) → Except Fault (List (String × Value))
  | [] => .ok []
  | (name, item) :: rest => do
      refuse name.flaw
      let value ← item.value
      let values ← valueMembers rest
      return (name.text, value) :: values

end

mutual

/-- Whether a draft can be passed over: it keeps to the grammar, with or without flaws. -/
def Draft.isWhole : Draft → Bool
  | .array _ items stop => areWhole items && stop.isNone
  | .object _ members stop => membersAreWhole members && stop.isNone
  | .broken _ => false
  | _ => true

/-- Whether the items of an array can be passed over. -/
def areWhole : List Draft → Bool
  | [] => true
  | item :: rest => item.isWhole && areWhole rest

/-- Whether the members of an object can be passed over. -/
def membersAreWhole : List (Name × Draft) → Bool
  | [] => true
  | (_, item) :: rest => item.isWhole && membersAreWhole rest

end

/-- The value that a reader sees who looks at the kind of a draft only: an array or object counts
from its opening bracket, and its contents are not looked at. -/
def Draft.head : Draft → Except Fault Value
  | .array _ _ _ => .ok (.array [])
  | .object _ _ _ => .ok (.object [])
  | scalar => scalar.value

/-- The value of a whole text. -/
def Document.value (d : Document) : Except Fault Value := do
  let value ← d.draft.value
  refuse d.trailing
  return value

end RuleDesk.Json
