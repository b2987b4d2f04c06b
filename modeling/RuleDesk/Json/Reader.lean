import RuleDesk.Json.Draft

/-!
# Reading JSON text

The grammar is that of RFC 8259, without a byte order mark: blanks are space, tab, line feed and
carriage return, strings hold no raw character below U+0020, numbers have no leading zero and no
bare point, and nothing but blanks follows the value. Containers may nest to a depth of 127.

Reading works on glyphs, so octets that are not UTF-8 are met where they stand.
-/

set_option autoImplicit false

namespace RuleDesk.Json

open RuleDesk.Text

/-- The deepest nesting of arrays and objects that has a value. -/
def nestingLimit : Nat := 127

/-- One of the four blank characters of JSON. -/
def isJsonBlank : Glyph → Bool
  | .char c => c == ' ' || c == '\n' || c == '\t' || c == '\r'
  | .flaw _ => false

/-- Pass over blanks. -/
def skipBlanks (input : List Glyph) : List Glyph :=
  input.dropWhile isJsonBlank

/-- The value of an ASCII digit. -/
def digit? : Glyph → Option Nat
  | .char c => if '0' ≤ c ∧ c ≤ '9' then some (c.toNat - '0'.toNat) else none
  | .flaw _ => none

/-- The value of a hexadecimal digit. -/
def hexValue? : Glyph → Option Nat
  | .char c =>
      if '0' ≤ c ∧ c ≤ '9' then some (c.toNat - '0'.toNat)
      else if 'a' ≤ c ∧ c ≤ 'f' then some (c.toNat - 'a'.toNat + 10)
      else if 'A' ≤ c ∧ c ≤ 'F' then some (c.toNat - 'A'.toNat + 10)
      else none
  | .flaw _ => none

/-! ## Strings -/

/-- Where the reader of a string stands. -/
inductive Spot where
  /-- Between characters. -/
  | plain
  /-- After a backslash. -/
  | escape
  /-- Inside `\u`, with `owed` hexadecimal digits to come and `value` read. -/
  | hex (owed : Nat) (value : Nat)
  deriving DecidableEq, Repr

/-- A string being read: its characters so far, the last first, a first half of a surrogate pair
that waits for its second, the first flaw met, and whether octets were met that are not UTF-8. -/
structure Scan where
  spot : Spot := .plain
  chars : List Char := []
  half : Option Nat := none
  flaw : Option Fault := none
  garbled : Bool := false
  deriving DecidableEq, Repr

/-- Keep the first flaw. -/
def Scan.mark (s : Scan) (fault : Fault) : Scan :=
  { s with flaw := s.flaw.or (some fault) }

/-- A half pair that is followed by anything but an escape is a flaw. -/
def Scan.settle (s : Scan) (rest : List Glyph) : Scan :=
  match s.half with
  | none => s
  | some _ => { s.mark (.behind .unpairedSurrogate rest) with half := none }

/-- Add a character. -/
def Scan.push (s : Scan) (c : Char) : Scan :=
  { s with spot := .plain, chars := c :: s.chars }

/-- Add the code unit of a finished `\u` escape. -/
def Scan.pushUnit (s : Scan) (unit : Nat) (rest : List Glyph) : Scan :=
  let s := { s with spot := .plain }
  match s.half with
  | some high =>
      let s := { s with half := none }
      if 0xDC00 ≤ unit ∧ unit ≤ 0xDFFF then
        s.push (Char.ofNat (0x10000 + (high - 0xD800) * 0x400 + (unit - 0xDC00)))
      else s.mark (.behind .loneSurrogate rest)
  | none =>
      if 0xDC00 ≤ unit ∧ unit ≤ 0xDFFF then s.mark (.behind .loneSurrogate rest)
      else if 0xD800 ≤ unit ∧ unit ≤ 0xDBFF then { s with half := some unit }
      else s.push (Char.ofNat unit)

/-- The character of a one-letter escape. -/
def escapedBy? : Char → Option Char
  | '"' => some '"'
  | '\\' => some '\\'
  | '/' => some '/'
  | 'b' => some '\x08'
  | 'f' => some '\x0C'
  | 'n' => some '\n'
  | 'r' => some '\r'
  | 't' => some '\t'
  | _ => none

/-- A string that was read to its closing quote, or the fault that ended the reading. -/
inductive StringRead where
  | done (flaw : Option Fault) (text : String) (rest : List Glyph)
  | failed (fault : Fault)
  deriving Repr

/-- The fault of a string, or the flaw met before it. -/
def Scan.fail (s : Scan) (fault : Fault) : StringRead :=
  .failed (s.flaw.getD fault)

/-- A string that ends here, at the quote before `rest`. Octets that are not UTF-8 are noticed right
before that quote. -/
def Scan.finish (s : Scan) (rest : List Glyph) : StringRead :=
  let s := s.settle rest
  let s := if s.garbled then s.mark ⟨.invalidCodePoint, octetCount rest + 1⟩ else s
  .done s.flaw (String.ofList s.chars.reverse) rest

/-- The fault of an escape whose next `owed` octets are not all hexadecimal digits: it lies behind
these octets, or at the end if the text has fewer. -/
def escapeFault (owed : Nat) (input : List Glyph) : Fault :=
  if octetCount input < owed then .behind .endInString []
  else ⟨.invalidEscape, octetCount input - owed⟩

/-- Read a string from behind its opening quote. -/
def readString (s : Scan) : List Glyph → StringRead
  | [] => s.fail (.behind .endInString [])
  | g :: rest =>
      match s.spot, g with
      | .plain, .char '"' => s.finish rest
      | .plain, .char '\\' => readString { s with spot := .escape } rest
      | .plain, .char c =>
          if c.toNat < 0x20 then s.fail (.behind .controlCharacter rest)
          else readString ((s.settle rest).push c) rest
      | .plain, .flaw _ => readString { s.settle rest with garbled := true } rest
      | .escape, .char 'u' => readString { s with spot := .hex 4 0 } rest
      | .escape, .char c =>
          match escapedBy? c with
          | some e => readString ((s.settle rest).push e) rest
          | none => s.fail (.ahead .invalidEscape (.char c :: rest))
      | .escape, .flaw n => s.fail (.ahead .invalidEscape (.flaw n :: rest))
      | .hex owed value, g =>
          match hexValue? g with
          | none => s.fail (escapeFault owed (g :: rest))
          | some h =>
              if owed ≤ 1 then readString (s.pushUnit (value * 16 + h) rest) rest
              else readString { s with spot := .hex (owed - 1) (value * 16 + h) } rest

/-! ## Numbers -/

/-- The leading digits of a text and what follows them. -/
def spanDigits : List Glyph → List Nat × List Glyph
  | [] => ([], [])
  | g :: rest =>
      match digit? g with
      | some d =>
          let (ds, after) := spanDigits rest
          (d :: ds, after)
      | none => ([], g :: rest)

/-- The largest significand that is kept. -/
def significandLimit : Nat := UInt64.size - 1

/-- Append digits to a significand until it would pass the limit; the digits left over follow. -/
def gather (significand : Nat) : List Nat → Nat × List Nat
  | [] => (significand, [])
  | d :: ds =>
      if significandLimit < significand * 10 + d then (significand, d :: ds)
      else gather (significand * 10 + d) ds

/-- A number that was read, or the fault that ended the reading. -/
inductive NumberRead where
  | done (flaw : Option Fault) (n : Number) (rest : List Glyph)
  | failed (fault : Fault)
  deriving Repr

/-- The largest power of ten that is read to its last digit. -/
def powerLimit : Nat := UInt32.size / 2 - 1

/-- The digits behind the one with which a number passes a limit; none are left if it does not. -/
def digitsPast (limit n : Nat) : List Nat → List Nat
  | [] => []
  | d :: ds => if limit < n * 10 + d then ds else digitsPast limit (n * 10 + d) ds

/-- A real with its range checked; `unread` digits before `rest` do not matter for that. -/
def finishReal (minus : Bool) (significand : Nat) (exponent : Int) (unread : Nat)
    (rest : List Glyph) : NumberRead :=
  let flaw :=
    match magnitude? significand exponent with
    | some _ => none
    | none => some ⟨.numberOutOfRange, octetCount rest + unread⟩
  .done flaw (.real minus significand exponent) rest

/-- Read the power of ten, if one follows. -/
def readPower (minus : Bool) (significand : Nat) (exponent : Int) (input : List Glyph) :
    NumberRead :=
  match input with
  | .char 'e' :: rest | .char 'E' :: rest =>
      let (down, rest) :=
        match rest with
        | .char '+' :: rest => (false, rest)
        | .char '-' :: rest => (true, rest)
        | _ => (false, rest)
      match spanDigits rest with
      | ([], []) => .failed (.behind .endInValue [])
      | ([], after) => .failed (.ahead .invalidNumber after)
      | (digits, after) =>
          let power : Int := (digits.foldl (fun n d => n * 10 + d) 0 : Nat)
          let unread := (digitsPast powerLimit 0 digits).length
          finishReal minus significand (if down then exponent - power else exponent + power)
            unread after
  | _ => finishReal minus significand exponent 0 input

/-- Read what may follow the whole part of a number: a fraction and a power of ten. -/
def readFraction (minus : Bool) (significand : Nat) (dropped : Nat) (input : List Glyph) :
    NumberRead :=
  match input with
  | .char '.' :: rest =>
      match spanDigits rest with
      | ([], []) => .failed (.behind .endInValue [])
      | ([], _) => .failed (.ahead .invalidNumber rest)
      | (digits, after) =>
          let (gathered, left) := gather significand digits
          readPower minus gathered ((dropped : Int) - (digits.length - left.length : Nat)) after
  | _ => readPower minus significand dropped input

/-- A number without fraction and power of ten. A whole number outside 64 bits, and negative zero,
count as reals. -/
def wholeNumber (minus : Bool) (n : Nat) : Number :=
  if !minus then .natural n
  else if n = 0 ∨ UInt64.size / 2 < n then .real true n 0
  else .negative n

/-- Read a number from behind its sign. -/
def readNumber (minus : Bool) (input : List Glyph) : NumberRead :=
  match spanDigits input with
  | ([], []) => .failed (.behind .endInValue [])
  | ([], after) => .failed (.ahead .invalidNumber after)
  | (0 :: _ :: _, _) => .failed (.ahead .invalidNumber (input.drop 1))
  | (digits, after) =>
      let (significand, left) := gather 0 digits
      match left, after with
      | [], .char '.' :: _ | [], .char 'e' :: _ | [], .char 'E' :: _ =>
          readFraction minus significand 0 after
      | [], _ => .done none (wholeNumber minus significand) after
      | left, _ => readFraction minus significand left.length after

/-! ## Values -/

/-- A draft with the text after it, or with none where the reading broke. -/
abbrev Reading := Draft × Option (List Glyph)

/-- A reading that broke. -/
def broke (fault : Fault) : Reading :=
  (.broken fault, none)

/-- Read the rest of `null`, `true` or `false`. -/
def readLiteral (draft : Draft) : List Char → List Glyph → Reading
  | [], rest => (draft, some rest)
  | _ :: _, [] => broke (.behind .endInValue [])
  | c :: cs, g :: rest =>
      if g = .char c then readLiteral draft cs rest
      else broke (.ahead .expectedLiteral (g :: rest))

/-- A number as a draft. -/
def NumberRead.reading : NumberRead → Reading
  | .done flaw n rest => (.number flaw n, some rest)
  | .failed fault => broke fault

/-- A string as a draft. -/
def StringRead.reading : StringRead → Reading
  | .done flaw text rest => (.string flaw text, some rest)
  | .failed fault => broke fault

/-- Read a value that is no array and no object, whose first glyph is given. -/
def readScalar (input : List Glyph) : Reading :=
  match input with
  | [] => broke (.ahead .endInValue [])
  | .char 'n' :: rest => readLiteral .null ['u', 'l', 'l'] rest
  | .char 't' :: rest => readLiteral (.bool true) ['r', 'u', 'e'] rest
  | .char 'f' :: rest => readLiteral (.bool false) ['a', 'l', 's', 'e'] rest
  | .char '"' :: rest => (readString {} rest).reading
  | .char '-' :: rest => (readNumber true rest).reading
  | g :: _ =>
      match digit? g with
      | some _ => (readNumber false input).reading
      | none => broke (.ahead .expectedValue input)

/-- The flaw of a container that opens inside `depth` others. -/
def depthFlaw (depth : Nat) (rest : List Glyph) : Option Fault :=
  if depth < nestingLimit then none else some (.behind .nestedTooDeeply rest)

/-- The items, the fault between them, and the text after the closing bracket. -/
abbrev Items (α : Type) := List α × Option Fault × Option (List Glyph)

/-- Items that end in a fault. -/
def Items.stopped {α : Type} (fault : Fault) : Items α :=
  ([], some fault, none)

/-- Items with one more before them. -/
def Items.cons {α : Type} (item : α) (items : Items α) : Items α :=
  (item :: items.1, items.2)

mutual

/-- Read a value. -/
def readValue : Nat → Nat → List Glyph → Reading
  | 0, _, _ => broke (.behind .endInValue [])
  | fuel + 1, depth, input =>
      match skipBlanks input with
      | .char '[' :: rest =>
          let (items, stop, after) := readItems fuel (depth + 1) true rest
          (.array (depthFlaw depth rest) items stop, after)
      | .char '\x7b' :: rest =>
          let (members, stop, after) := readMembers fuel (depth + 1) true rest
          (.object (depthFlaw depth rest) members stop, after)
      | input => readScalar input

/-- Read the items of an array up to its bracket; `first` holds before the first item. -/
def readItems : Nat → Nat → Bool → List Glyph → Items Draft
  | 0, _, _, _ => .stopped (.behind .endInArray [])
  | fuel + 1, depth, first, input =>
      match skipBlanks input with
      | [] => .stopped (.ahead .endInArray [])
      | .char ']' :: rest => ([], none, some rest)
      | g :: rest =>
          if first then readItem fuel depth (g :: rest)
          else if g = .char ',' then
            match skipBlanks rest with
            | [] => .stopped (.ahead .endInValue [])
            | .char ']' :: after => .stopped (.ahead .trailingComma (.char ']' :: after))
            | next => readItem fuel depth next
          else .stopped (.ahead .expectedArrayEnd (g :: rest))

/-- Read one item of an array and those after it. -/
def readItem : Nat → Nat → List Glyph → Items Draft
  | 0, _, _ => .stopped (.behind .endInArray [])
  | fuel + 1, depth, input =>
      match readValue fuel depth input with
      | (item, some after) => .cons item (readItems fuel depth false after)
      | (item, none) => ([item], none, none)

/-- Read the members of an object up to its brace; `first` holds before the first member. -/
def readMembers : Nat → Nat → Bool → List Glyph → Items (Name × Draft)
  | 0, _, _, _ => .stopped (.behind .endInObject [])
  | fuel + 1, depth, first, input =>
      match skipBlanks input with
      | [] => .stopped (.ahead .endInObject [])
      | .char '\x7d' :: rest => ([], none, some rest)
      | g :: rest =>
          if first then readMember fuel depth (g :: rest)
          else if g = .char ',' then
            match skipBlanks rest with
            | [] => .stopped (.ahead .endInValue [])
            | .char '\x7d' :: after => .stopped (.ahead .trailingComma (.char '\x7d' :: after))
            | next => readMember fuel depth next
          else .stopped (.ahead .expectedObjectEnd (g :: rest))

/-- Read one member of an object and those after it. -/
def readMember : Nat → Nat → List Glyph → Items (Name × Draft)
  | 0, _, _ => .stopped (.behind .endInObject [])
  | fuel + 1, depth, input =>
      match input with
      | .char '"' :: rest =>
          match readString {} rest with
          | .failed fault => .stopped fault
          | .done flaw text rest =>
              let name : Name := ⟨text, flaw⟩
              match skipBlanks rest with
              | [] => ([(name, .broken (.ahead .endInObject []))], none, none)
              | .char ':' :: rest =>
                  match readValue fuel depth rest with
                  | (item, some after) => .cons (name, item) (readMembers fuel depth false after)
                  | (item, none) => ([(name, item)], none, none)
              | other => ([(name, .broken (.ahead .expectedColon other))], none, none)
      | other => .stopped (.ahead .nameNotString other)

end

/-- The draft of a text. At most three calls in a row take no glyph, so three times the length of
the text and three more bound the depth of the calls. -/
def Document.ofGlyphs (input : List Glyph) : Document :=
  match readValue (3 * input.length + 3) 0 input with
  | (draft, some rest) =>
      match skipBlanks rest with
      | [] => ⟨draft, none⟩
      | rest => ⟨draft, some (.ahead .trailingCharacters rest)⟩
  | (draft, none) => ⟨draft, none⟩

/-- The value of a JSON text given as octets, or its first fault. -/
def readOctets (octets : List UInt8) : Except Fault Value :=
  (Document.ofGlyphs (glyphs octets)).value

/-- The value of a JSON text, or its first fault. -/
def readText (text : String) : Except Fault Value :=
  (Document.ofGlyphs (text.toList.map .char)).value

end RuleDesk.Json
