import RuleDesk.Json.Reader
import RuleDesk.Keyword
import RuleDesk.Rule.Line
import RuleDesk.Rule.Schema

/-!
# Imports

Rules are read from a file of rule text or from a project. A record that cannot be read becomes an
error with its number and does not keep the others from being read; only a project that is no JSON
document of the right shape is refused as a whole.
-/

set_option autoImplicit false

namespace RuleDesk

open RuleDesk.Json
open RuleDesk.Text

/-- The two kinds of file. -/
inductive Format where
  | rules
  | json
  deriving DecidableEq, Repr

instance : Vocabulary Format where
  noun := "format"
  all := [.rules, .json]
  spelling
    | .rules => "rules"
    | .json => "json"

/-- A record that could not be read: a line of a file of rule text or an entry of a project, by its
number from one. -/
inductive RecordError where
  | line (number : Nat) (cause : LineError)
  | entry (number : Nat) (cause : Mismatch)
  deriving Repr

namespace RecordError

/-- The number of the record. -/
def number : RecordError → Nat
  | line n _ => n
  | entry n _ => n

/-- What is wrong with the record. -/
def message : RecordError → String
  | line _ cause => cause.message
  | entry _ cause => cause.message

/-- The error of a record that stands some places later. -/
def shift (places : Nat) : RecordError → RecordError
  | line n cause => line (n + places) cause
  | entry n cause => entry (n + places) cause

/-- The number of the record and what is wrong with it. -/
def text : RecordError → String
  | line n cause => s!"Line {n}: {cause.message}"
  | entry n cause => s!"Rule {n}: {cause.message}"

end RecordError

/-- What was read from a file. -/
structure Imported where
  rules : List Rule
  errors : List RecordError
  deriving Repr

namespace Imported

/-- Nothing read. -/
def empty : Imported := ⟨[], []⟩

/-- What was read before, and after. -/
def append (a b : Imported) : Imported :=
  ⟨a.rules ++ b.rules, a.errors ++ b.errors⟩

/-- A rule, or an error in its place. -/
def ofRecord {ε : Type} (error : ε → RecordError) : Except ε Rule → Imported
  | .ok r => ⟨[r], []⟩
  | .error cause => ⟨[], [error cause]⟩

end Imported

/-! ## Rule text -/

/-- Read one line. Blank lines and comments give nothing. -/
def readLine (number : Nat) (line : List Char) : Imported :=
  if isEmptyOrComment (trim line) then .empty
  else .ofRecord (.line number) (Rule.ofChars line)

/-- Read lines whose first has the given number. -/
def readLines (number : Nat) : List (List Char) → Imported
  | [] => .empty
  | line :: rest => (readLine number line).append (readLines (number + 1) rest)

/-- Read a file of rule text. Octets that are not UTF-8 are read as U+FFFD. -/
def importRules (octets : List UInt8) : Imported :=
  readLines 1 (pieces '\n' (lossyText octets))

/-! ## Projects -/

/-- Why a project is refused as a whole. -/
inductive ProjectError where
  /-- It is no JSON text; `detail` says what is wrong, and where. -/
  | notJson (detail : String)
  /-- Its member `rules` is no array. -/
  | rulesNotArray
  /-- It is neither an object nor an array. -/
  | notContainer
  deriving DecidableEq, Repr

/-- The wording of a refused project, without the detail. -/
def ProjectError.message : ProjectError → String
  | .notJson _ => "Invalid JSON project file"
  | .rulesNotArray => "Project 'rules' must be an array"
  | .notContainer => "Project file must be a JSON object or array"

/-- The wording of a refused project, with the detail. -/
def ProjectError.longMessage : ProjectError → String
  | .notJson detail => s!"{(ProjectError.notJson detail).message}: {detail}"
  | other => other.message

/-- The entries of a project: the document itself if it is an array, and else its member `rules`,
which may be absent or null. -/
def projectEntries : Value → Except ProjectError (List Value)
  | .array entries => .ok entries
  | .object members =>
      match (Value.object members).member? "rules" with
      | some (.array entries) => .ok entries
      | none | some .null => .ok []
      | some _ => .error .rulesNotArray
  | _ => .error .notContainer

/-- Read entries of which the first has the given number. -/
def readEntries (number : Nat) : List Value → Imported
  | [] => .empty
  | entry :: rest =>
      (Imported.ofRecord (.entry number) (Rule.ofJson entry)).append (readEntries (number + 1) rest)

/-- Read a project from its document. -/
def importDocument (document : Value) : Except ProjectError Imported := do
  let entries ← projectEntries document
  return readEntries 1 entries

/-- Read a project file. -/
def importProject (octets : List UInt8) : Except ProjectError Imported :=
  match readOctets octets with
  | .ok document => importDocument document
  | .error fault => .error (.notJson (fault.message (glyphs octets)))

/-! ## Either -/

/-- Read a file of a given kind. -/
def importFile (format : Format) (octets : List UInt8) : Except ProjectError Imported :=
  match format with
  | .rules => .ok (importRules octets)
  | .json => importProject octets

/-- What was read, as it is answered: the rules, their number, and the texts of the errors. -/
def Imported.toJson (i : Imported) : Value :=
  .object
    [ ("count", .nat i.rules.length),
      ("rules", .array (i.rules.map Rule.toJson)),
      ("errors", .array (i.errors.map fun e => .string e.text)) ]

end RuleDesk
