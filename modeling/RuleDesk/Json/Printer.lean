import RuleDesk.Json.Value

/-!
# Printing JSON values

Two layouts: compact, with no blank outside strings, and indented by two spaces a level, with one
item or member a line and nothing between the brackets of an empty array or object. In strings only
the quote, the backslash and the characters below U+0020 are escaped.
-/

set_option autoImplicit false

namespace RuleDesk.Json

/-- One hexadecimal digit, lower case. -/
def hexDigit (n : Nat) : Char :=
  Nat.digitChar (n % 16)

/-- One character inside a string literal. -/
def escaped (c : Char) : List Char :=
  if c = '"' then ['\\', '"']
  else if c = '\\' then ['\\', '\\']
  else if c = '\n' then ['\\', 'n']
  else if c = '\r' then ['\\', 'r']
  else if c = '\t' then ['\\', 't']
  else if c = '\x08' then ['\\', 'b']
  else if c = '\x0C' then ['\\', 'f']
  else if c.toNat < 0x20 then ['\\', 'u', '0', '0', hexDigit (c.toNat / 16), hexDigit c.toNat]
  else [c]

/-- A string literal. -/
def literal (s : String) : List Char :=
  '"' :: s.toList.flatMap escaped ++ ['"']

/-! ## Compact layout -/

mutual

/-- The compact text of a value. -/
def Value.compact : Value → List Char
  | .null => ['n', 'u', 'l', 'l']
  | .bool true => ['t', 'r', 'u', 'e']
  | .bool false => ['f', 'a', 'l', 's', 'e']
  | .number n => n.text
  | .string s => literal s
  | .array items => '[' :: compactItems items ++ [']']
  | .object members => '\x7b' :: compactMembers members ++ ['\x7d']

/-- The items of an array, with commas between them. -/
def compactItems : List Value → List Char
  | [] => []
  | [item] => item.compact
  | item :: rest => item.compact ++ ',' :: compactItems rest

/-- The members of an object, with commas between them. -/
def compactMembers : List (String × Value) → List Char
  | [] => []
  | [(name, value)] => literal name ++ ':' :: value.compact
  | (name, value) :: rest => literal name ++ ':' :: value.compact ++ ',' :: compactMembers rest

end

/-! ## Indented layout -/

/-- A line feed and the indentation of a level. -/
def newLine (level : Nat) : List Char :=
  '\n' :: List.replicate (2 * level) ' '

mutual

/-- The indented text of a value whose first line stands at the given level. -/
def Value.indented (level : Nat) : Value → List Char
  | .null => ['n', 'u', 'l', 'l']
  | .bool true => ['t', 'r', 'u', 'e']
  | .bool false => ['f', 'a', 'l', 's', 'e']
  | .number n => n.text
  | .string s => literal s
  | .array [] => ['[', ']']
  | .array (item :: rest) =>
      '[' :: newLine (level + 1) ++ item.indented (level + 1) ++ indentedItems (level + 1) rest ++
        newLine level ++ [']']
  | .object [] => ['\x7b', '\x7d']
  | .object ((name, value) :: rest) =>
      '\x7b' :: newLine (level + 1) ++ literal name ++ ':' :: ' ' :: value.indented (level + 1) ++
        indentedMembers (level + 1) rest ++ newLine level ++ ['\x7d']

/-- The items of an array after the first. -/
def indentedItems (level : Nat) : List Value → List Char
  | [] => []
  | item :: rest => ',' :: newLine level ++ item.indented level ++ indentedItems level rest

/-- The members of an object after the first. -/
def indentedMembers (level : Nat) : List (String × Value) → List Char
  | [] => []
  | (name, value) :: rest =>
      ',' :: newLine level ++ literal name ++ ':' :: ' ' :: value.indented level ++
        indentedMembers level rest

end

/-- The indented text of a document. -/
def Value.pretty (v : Value) : String :=
  String.ofList (v.indented 0)

end RuleDesk.Json
