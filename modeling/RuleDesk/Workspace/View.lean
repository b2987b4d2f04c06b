import RuleDesk.Rule.Schema
import RuleDesk.Workspace.Basic

/-!
# Views of a workspace

The table that shows a workspace: a row for each rule, with its position, whether it is selected,
its text and its fields, and the counts of rules with and without a message.
-/

set_option autoImplicit false

namespace RuleDesk

open RuleDesk.Json

/-- One row of the table. -/
structure WorkspaceRow where
  index : Nat
  selected : Bool
  text : String
  rule : Rule
  deriving DecidableEq, Repr

/-- The table of a workspace. A rule counts as valid if its message is not empty. -/
structure WorkspaceView where
  count : Nat
  valid : Nat
  invalid : Nat
  selection : List Nat
  preview : Option Nat
  rows : List WorkspaceRow
  deriving DecidableEq, Repr

/-- The table of a workspace. -/
def Workspace.view (w : Workspace) : WorkspaceView :=
  let valid := (w.rules.filter (fun r => !r.message.isEmpty)).length
  { count := w.length
    valid
    invalid := w.length - valid
    selection := w.selection
    preview := w.preview
    rows := w.rules.zipIdx.map fun (r, index) =>
      ⟨index, w.selection.contains index, r.encode, r⟩ }

/-- A position that may be absent. -/
def optionalPosition : Option Nat → Value
  | some index => .nat index
  | none => .null

/-- A row as it is answered. -/
def WorkspaceRow.toJson (row : WorkspaceRow) : Value :=
  .object
    [ ("index", .nat row.index),
      ("selected", .bool row.selected),
      ("rule_text", .string row.text),
      ("rule", row.rule.toJson) ]

/-- A table as it is answered. -/
def WorkspaceView.toJson (v : WorkspaceView) : Value :=
  .object
    [ ("count", .nat v.count),
      ("valid", .nat v.valid),
      ("invalid", .nat v.invalid),
      ("selection", .array (v.selection.map .nat)),
      ("preview_index", optionalPosition v.preview),
      ("rules", .array (v.rows.map WorkspaceRow.toJson)) ]

end RuleDesk
