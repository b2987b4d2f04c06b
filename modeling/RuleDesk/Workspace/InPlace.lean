import RuleDesk.Catalog
import RuleDesk.Import
import RuleDesk.Workspace.Command

/-!
# Operations in place

A desk holds one workspace and changes it where it is. Here an operation is the sequence of the
steps that it takes on the held workspace. A step that was taken stays taken: an operation that
fails on its way leaves behind what its steps have done until then. A step that uses a position
without a check before it fails if the position is not there.
-/

set_option autoImplicit false

namespace RuleDesk

/-- Why an operation on a held workspace failed. -/
inductive OperationError where
  | refused (cause : WorkspaceError)
  | unknownTemplate (name : String)
  | unreadable (cause : ProjectError)
  /-- A position was used that is not there. No operation is meant to fail in this way. -/
  | outOfRange (index : Nat)
  deriving DecidableEq, Repr

/-- Steps on a held workspace, which may fail at any of them. -/
abbrev InPlace (α : Type) : Type :=
  EStateM OperationError Workspace α

namespace InPlace

/-! ## Single steps -/

/-- Refuse the operation. -/
def refuse {α : Type} (cause : WorkspaceError) : InPlace α :=
  throw (.refused cause)

/-- Refuse a position that is not there. -/
def checkPosition (index : Nat) : InPlace Unit := do
  let w ← get
  if w.length ≤ index then refuse (.position index w.length)

/-- The rule at a position that is taken to be there. -/
def ruleAt (index : Nat) : InPlace Rule := do
  let w ← get
  match w.rules[index]? with
  | some r => return r
  | none => throw (.outOfRange index)

/-- A copy of the rule at a position that is taken to be there. -/
def copyRule (index : Nat) (sid : UInt32) : InPlace Rule := do
  let r ← ruleAt index
  return Workspace.copyOf r sid

/-- Remove the rule at a position that is taken to be there. -/
def removeRule (index : Nat) : InPlace Unit := do
  let w ← get
  if w.length ≤ index then throw (.outOfRange index)
  set { w with rules := w.rules.eraseIdx index }

/-- Add rules at the end. -/
def addRules (rules : List Rule) : InPlace Unit :=
  modify fun w => { w with rules := w.rules ++ rules }

/-- Replace the selection. -/
def setSelection (selection : List Nat) : InPlace Unit :=
  modify fun w => { w with selection := selection }

/-- Replace the previewed position. -/
def setPreview (preview : Option Nat) : InPlace Unit :=
  modify fun w => { w with preview := preview }

/-! ## Operations -/

/-- Add a rule and give its position. -/
def append (r : Rule) (gate : Gate) : InPlace Answer := do
  if gate = .enforced ∧ r.lacksMessage then refuse (.input .messageRequired)
  addRules [r]
  let w ← get
  return .position (w.length - 1)

/-- Accept a form and add its rule. -/
def submit (form : Form) : InPlace Answer :=
  match form.accept with
  | .ok r => append r .enforced
  | .error cause => refuse cause

/-- Add rules as they are and give their number. -/
def extend (rules : List Rule) : InPlace Answer := do
  addRules rules
  return .count rules.length

/-- Check each position in turn, and then replace the selection. -/
def select (indices : List Nat) : InPlace Answer := do
  forM indices checkPosition
  setSelection (positionsOf indices)
  return .nothing

/-- Take a position out of the selection or into it. -/
def toggle (index : Nat) : InPlace Answer := do
  checkPosition index
  let w ← get
  if w.selection.contains index then
    setSelection (w.selection.filter (· != index))
    return .flag false
  else
    setSelection (insertPosition index w.selection)
    return .flag true

/-- Select nothing, and then all positions if asked for. -/
def selectAll (checked : Bool) : InPlace Answer := do
  setSelection []
  if checked then
    let w ← get
    setSelection (List.range w.length)
  return .nothing

/-- Select nothing. -/
def clearSelection : InPlace Answer := do
  setSelection []
  return .nothing

/-- Reserve as many identifiers as rules are selected, copy these rules one after the other, and
then add the copies. -/
def duplicate : InPlace Answer := do
  let w ← get
  if w.selection.isEmpty then refuse (.input .nothingSelected)
  let some first := w.nextSid? | refuse (.input .sidsExhausted)
  if UInt32.size ≤ first.toNat + (w.selection.length - 1) then refuse (.input .sidsExhausted)
  let sids := (List.range' first.toNat w.selection.length).map UInt32.ofNat
  let copies ← (w.selection.zip sids).mapM fun p => copyRule p.1 p.2
  addRules copies
  setSelection []
  return .sids (copies.map (·.sid))

/-- Remove the selected rules one after the other, the last one first, and forget all positions. -/
def deleteSelected : InPlace Answer := do
  let w ← get
  if w.selection.isEmpty then refuse (.input .nothingSelected)
  forM w.selection.reverse removeRule
  setSelection []
  setPreview none
  return .count w.selection.length

/-- The only selected rule. -/
def editTarget : InPlace Rule := do
  let w ← get
  match w.selection with
  | [index] =>
      match w.rules[index]? with
      | some r => return r
      | none => refuse (.position index w.length)
  | selection => refuse (.input (.notOneSelected selection.length))

/-- The text of a rule, whose position is remembered. -/
def showPreview (index : Nat) : InPlace Answer := do
  let w ← get
  match w.rules[index]? with
  | none => refuse (.position index w.length)
  | some r =>
      setPreview (some index)
      return .text r.encode

end InPlace

/-- The steps of a command. -/
def Command.steps : Command → InPlace Answer
  | .append rule gate => InPlace.append rule gate
  | .submit form => InPlace.submit form
  | .extend rules => InPlace.extend rules
  | .select indices => InPlace.select indices
  | .toggle index => InPlace.toggle index
  | .selectAll checked => InPlace.selectAll checked
  | .clearSelection => InPlace.clearSelection
  | .duplicate => InPlace.duplicate
  | .deleteSelected => InPlace.deleteSelected
  | .showPreview index => InPlace.showPreview index

/-- An operation on a held workspace: a command, a template or a file whose rules are added, or
the rule that is taken back into the form. -/
inductive Operation where
  | command (c : Command)
  | addTemplate (name : String)
  | addFile (format : Format) (octets : List UInt8)
  | edit
  deriving DecidableEq, Repr

/-- What an operation answers. -/
inductive Reply where
  | answer (a : Answer)
  | rule (r : Rule)
  deriving DecidableEq, Repr

/-- The steps of an operation. -/
def Operation.steps : Operation → InPlace Reply
  | .command c => .answer <$> c.steps
  | .addTemplate name =>
      match Catalog.find? name with
      | some t => .answer <$> InPlace.append t.rule .trusted
      | none => throw (.unknownTemplate name)
  | .addFile format octets =>
      match importFile format octets with
      | .ok imported => .answer <$> InPlace.extend imported.rules
      | .error cause => throw (.unreadable cause)
  | .edit => .rule <$> InPlace.editTarget

namespace Workspace

/-- The workspace that an operation leaves behind, whether it succeeds or fails. -/
def left (w : Workspace) (o : Operation) : Workspace :=
  match o.steps.run w with
  | .ok _ w' => w'
  | .error _ w' => w'

/-- The workspace that is held after some operations, one after the other. -/
def held (operations : List Operation) : Workspace :=
  operations.foldl left empty

end Workspace

end RuleDesk
