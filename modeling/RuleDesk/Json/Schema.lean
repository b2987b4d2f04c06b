import RuleDesk.Json.Draft
import RuleDesk.Json.Mismatch
import RuleDesk.Text.Blank

/-!
# Schemas

A codec says how values of a type are written as JSON and how they are read back, in two ways: from
a whole value, with the reason where it does not fit, and from a draft, in document order, where it
matters only whether the text broke or the data did not fit.

A schema lists the fields of a record with their codecs, once for writing and for both ways of
reading. A record is read from an object, whose unknown members are passed over and whose absent
ones take the blank record's values, or from an array, whose items fill the fields in order.
-/

set_option autoImplicit false

namespace RuleDesk.Json

open RuleDesk.Text

/-- Why a draft cannot be read: the text breaks, or it holds data that do not fit. -/
inductive ScanError where
  | malformed
  | mismatched
  deriving DecidableEq, Repr

/-- How a type is written as JSON and read from it. -/
structure Codec (β : Type) where
  write : β → Value
  read : Value → Except Mismatch β
  scan : Draft → Except ScanError β

/-! ## Scalars -/

/-- A mismatch met while a draft is read. -/
def unfit {β : Type} : Except Mismatch β → Except ScanError β
  | .ok b => .ok b
  | .error _ => .error .mismatched

/-- A fault met while a draft is read. -/
def unbroken {β : Type} : Except Fault β → Except ScanError β
  | .ok b => .ok b
  | .error _ => .error .malformed

/-- A codec that looks at the kind and value of a scalar only. -/
def Codec.scalar {β : Type} (write : β → Value) (read : Value → Except Mismatch β) : Codec β where
  write := write
  read := read
  scan draft := do
    let value ← unbroken draft.head
    unfit (read value)

/-- Text. -/
def Codec.text : Codec String :=
  .scalar .string fun
    | .string s => .ok s
    | other => .error (.kind other "a string")

/-- A truth value. -/
def Codec.flag : Codec Bool :=
  .scalar .bool fun
    | .bool b => .ok b
    | other => .error (.kind other "a boolean")

/-- Take a natural number below `limit`; `expected` names the numbers that fit. -/
def readNatural (limit : Nat) (expected : String) : Value → Except Mismatch Nat
  | .number (.natural n) =>
      if n < limit then .ok n else .error (.value (.number (.natural n)) expected)
  | .number (.negative n) => .error (.value (.number (.negative n)) expected)
  | other => .error (.kind other expected)

/-- A number of 32 bits. -/
def Codec.word : Codec UInt32 :=
  .scalar (fun n => .nat n.toNat) fun value =>
    (readNatural UInt32.size "u32" value).map UInt32.ofNat

/-- A position: a number of 64 bits. -/
def Codec.position : Codec Nat :=
  .scalar .nat (readNatural UInt64.size "usize")

/-! ## Keywords -/

/-- The member of a vocabulary with a given name. -/
def readVariant (α : Type) [Vocabulary α] (name : String) : Except Mismatch α :=
  match Vocabulary.ofWord? name with
  | some a => .ok a
  | none => .error (.variant name (Vocabulary.words α))

/-- A keyword, given as its name or as an object whose only member has that name and no value. -/
def Codec.keyword (α : Type) [Vocabulary α] : Codec α where
  write a := .string (Vocabulary.spelling a)
  read
    | .string name => readVariant α name
    | .object [(name, value)] => do
        let a ← readVariant α name
        match value with
        | .null => return a
        | other => .error (.kind other "unit")
    | .object members => .error (.value (.object members) "map with a single key")
    | other => .error (.kind other "string or map")
  scan
    | .string none name => unfit (readVariant α name)
    | .object _ ((⟨name, none⟩, item) :: rest) stop => do
        let a ← unfit (readVariant α name)
        match ← unbroken item.head with
        | .null =>
            match rest, stop with
            | [], none => return a
            | _, _ => .error .malformed
        | _ => .error .mismatched
    | _ => .error .malformed

/-- A keyword that may be absent: null and blank text stand for none, and other text is trimmed. -/
def Codec.optionalKeyword (α : Type) [Vocabulary α] : Codec (Option α) :=
  .scalar (fun a => .string ((a.map Vocabulary.spelling).getD "")) fun
    | .null => .ok none
    | .string s =>
        match trim s.toList with
        | [] => .ok none
        | word =>
            match Vocabulary.ofWord α (String.ofList word) with
            | .ok a => .ok (some a)
            | .error unknown => .error (.keyword unknown)
    | other => .error (.kind other "a string")

/-! ## Lists -/

/-- A list, as an array whose items are taken in order. -/
def Codec.list {β : Type} (item : Codec β) : Codec (List β) where
  write items := .array (items.map item.write)
  read
    | .array items => items.mapM item.read
    | other => .error (.kind other "a sequence")
  scan
    | .array _ items stop => do
        let values ← items.mapM item.scan
        match stop with
        | none => return values
        | some _ => .error .malformed
    | other => do
        let _ ← unbroken other.head
        .error .mismatched

/-! ## Records -/

/-- A field of a record: its name, whether it must be there, and how it is written and set. -/
structure Field (α : Type) where
  name : String
  required : Bool
  write : α → Value
  read : Value → α → Except Mismatch α
  scan : Draft → α → Except ScanError α

/-- A field made of a codec, a view and an update. -/
def Field.of {α β : Type} (name : String) (codec : Codec β) (view : α → β) (update : β → α → α) :
    Field α where
  name := name
  required := false
  write a := codec.write (view a)
  read value a := (codec.read value).map (update · a)
  scan draft a := (codec.scan draft).map (update · a)

/-- A field that must be there. -/
def Field.needed {α : Type} (f : Field α) : Field α :=
  { f with required := true }

/-- The fields of a record type, the name of the type in messages, and the record that absent
fields are taken from. -/
structure Schema (α : Type) where
  title : String
  blank : α
  fields : List (Field α)

namespace Schema

variable {α : Type}

/-- The field of a given name. -/
def field? (s : Schema α) (name : String) : Option (Field α) :=
  s.fields.find? (fun f => f.name == name)

/-- The first required field that is not among the names. -/
def absent? (s : Schema α) (names : List String) : Option (Field α) :=
  s.fields.find? (fun f => f.required && !names.contains f.name)

/-- The members of a record, in the order of its fields. -/
def members (s : Schema α) (a : α) : List (String × Value) :=
  s.fields.map fun f => (f.name, f.write a)

/-- Set the fields that the members name, in the order of the members. -/
def readMembers (s : Schema α) (a : α) : List (String × Value) → Except Mismatch α
  | [] => .ok a
  | (name, value) :: rest =>
      match s.field? name with
      | none => s.readMembers a rest
      | some f => do
          let a ← f.read value a
          s.readMembers a rest

/-- Set fields in order from the items of an array. -/
def readItems (a : α) : List (Field α) → List Value → Except Mismatch α
  | f :: fields, value :: values => do
      let a ← f.read value a
      readItems a fields values
  | [], _ => .ok a
  | fields, [] =>
      match fields.find? (·.required) with
      | some f => .error (.missing f.name)
      | none => .ok a

/-- Read a record from a value. -/
def read (s : Schema α) : Value → Except Mismatch α
  | .object members => do
      let a ← s.readMembers s.blank members
      match s.absent? (members.map (·.1)) with
      | some f => .error (.missing f.name)
      | none => return a
  | .array items => do
      let a ← readItems s.blank s.fields items
      if s.fields.length < items.length then .error (.surplus items.length)
      return a
  | other => .error (.kind other s!"struct {s.title}")

/-- Set the fields that the members of a draft name. A field that is named twice does not fit. -/
def scanMembers (s : Schema α) (seen : List String) (a : α) :
    List (Name × Draft) → Except ScanError (List String × α)
  | [] => .ok (seen, a)
  | (name, item) :: rest => do
      if name.flaw.isSome then .error .malformed
      match s.field? name.text with
      | none =>
          if item.isWhole then s.scanMembers seen a rest else .error .malformed
      | some f =>
          if seen.contains name.text then .error .mismatched
          let a ← f.scan item a
          s.scanMembers (name.text :: seen) a rest

/-- Set fields in order from the items of a draft; items that are left over break the text. -/
def scanItems (a : α) (stop : Option Fault) :
    List (Field α) → List Draft → Except ScanError α
  | f :: fields, item :: items => do
      let a ← f.scan item a
      scanItems a stop fields items
  | [], _ :: _ => .error .malformed
  | fields, [] =>
      if stop.isSome then .error .malformed
      else if fields.any (·.required) then .error .mismatched
      else .ok a

/-- Read a record from a draft. -/
def scan (s : Schema α) : Draft → Except ScanError α
  | .object _ members stop => do
      let (seen, a) ← s.scanMembers [] s.blank members
      if stop.isSome then .error .malformed
      match s.absent? seen with
      | some _ => .error .mismatched
      | none => return a
  | .array _ items stop => scanItems s.blank stop s.fields items
  | other => do
      let _ ← unbroken other.head
      .error .mismatched

/-- The codec of a record type. -/
def codec (s : Schema α) : Codec α where
  write a := .object (s.members a)
  read := s.read
  scan := s.scan

end Schema

/-- Read a record from a whole text: what follows the value breaks it. -/
def Document.scan {β : Type} (c : Codec β) (d : Document) : Except ScanError β := do
  let b ← c.scan d.draft
  if d.trailing.isSome then .error .malformed
  return b

end RuleDesk.Json
