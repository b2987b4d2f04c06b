import RuleDesk.Form
import RuleDesk.Rule.Line

/-!
# The workspace

The workspace is the list of rules being worked on, in the order in which they came, together with
a selection of positions and the position that was previewed last. Positions are taken from the
state they were chosen in: the only operation that moves rules is deletion, and it forgets the
selection and the preview.

Every operation either gives a new workspace or fails with a cause; a failed operation has no new
workspace to give.
-/

set_option autoImplicit false

namespace RuleDesk

/-- The rules, the selected positions in ascending order, and the previewed position. -/
structure Workspace where
  rules : List Rule := []
  selection : List Nat := []
  preview : Option Nat := none
  deriving DecidableEq, Repr

/-- Whether a rule must have a message to be added. -/
inductive Gate where
  /-- Rules added by hand. -/
  | enforced
  /-- Templates and imports. -/
  | trusted
  deriving DecidableEq, Repr

/-- No identifier at or below this one is given to a copy. -/
def sidFloor : UInt32 := 1000000

/-- What a copy's message ends with. -/
def copySuffix : String := " (copy)"

/-! ## Positions -/

/-- Put a position at its place in an ascending list, unless it is there. -/
def insertPosition (i : Nat) : List Nat → List Nat
  | [] => [i]
  | j :: rest =>
      if i < j then i :: j :: rest
      else if i = j then j :: rest
      else j :: insertPosition i rest

/-- The positions of a list, ascending and each once. -/
def positionsOf (indices : List Nat) : List Nat :=
  indices.foldl (fun positions i => insertPosition i positions) []

namespace Workspace

/-- The workspace without rules. -/
def empty : Workspace := {}

/-- The number of rules. -/
def length (w : Workspace) : Nat :=
  w.rules.length

/-- The rule at a position. -/
def get (w : Workspace) (index : Nat) : Except WorkspaceError Rule :=
  match w.rules[index]? with
  | some r => .ok r
  | none => .error (.position index w.length)

/-! ## Adding -/

/-- Add a rule at the end and give its position. -/
def append (w : Workspace) (r : Rule) (gate : Gate) : Except WorkspaceError (Nat × Workspace) :=
  if gate = .enforced ∧ r.lacksMessage then .error (.input .messageRequired)
  else .ok (w.length, { w with rules := w.rules ++ [r] })

/-- Add rules at the end as they are. -/
def extend (w : Workspace) (rules : List Rule) : Workspace :=
  { w with rules := w.rules ++ rules }

/-! ## Selecting -/

/-- Replace the selection; the first position that the workspace does not have refuses it. -/
def select (w : Workspace) (indices : List Nat) : Except WorkspaceError Workspace :=
  match indices.find? (w.length ≤ ·) with
  | some index => .error (.position index w.length)
  | none => .ok { w with selection := positionsOf indices }

/-- Take a position into the selection or out of it, and say which. -/
def toggle (w : Workspace) (index : Nat) : Except WorkspaceError (Bool × Workspace) :=
  if w.length ≤ index then .error (.position index w.length)
  else if w.selection.contains index then
    .ok (false, { w with selection := w.selection.filter (· != index) })
  else .ok (true, { w with selection := insertPosition index w.selection })

/-- Select all positions or none. -/
def selectAll (w : Workspace) (checked : Bool) : Workspace :=
  { w with selection := if checked then List.range w.length else [] }

/-- Select nothing. -/
def clearSelection (w : Workspace) : Workspace :=
  { w with selection := [] }

/-! ## Copying and deleting -/

/-- The largest identifier in use, or the floor if that is larger. -/
def topSid (w : Workspace) : Nat :=
  w.rules.foldl (fun top r => max top r.sid.toNat) sidFloor.toNat

/-- The identifier of the next copy; none if the top one is the largest of all. -/
def nextSid? (w : Workspace) : Option UInt32 :=
  if w.topSid + 1 < UInt32.size then some (UInt32.ofNat (w.topSid + 1)) else none

/-- A rule's copy under another identifier. -/
def copyOf (r : Rule) (sid : UInt32) : Rule :=
  { r with sid := sid, message := r.message ++ copySuffix }

/-- The selected rules, in order. -/
def selected (w : Workspace) : List Rule :=
  w.selection.filterMap (w.rules[·]?)

/-- Add a copy of each selected rule, in order, with consecutive identifiers above the largest in
use, and give these identifiers. The selection is cleared. -/
def duplicate (w : Workspace) : Except WorkspaceError (List UInt32 × Workspace) :=
  let count := w.selection.length
  if count = 0 then .error (.input .nothingSelected)
  else if UInt32.size ≤ w.topSid + count then .error (.input .sidsExhausted)
  else
    let sids := (List.range' (w.topSid + 1) count).map UInt32.ofNat
    let copies := List.zipWith copyOf w.selected sids
    .ok (copies.map (·.sid), { w with rules := w.rules ++ copies, selection := [] })

/-- Remove the rules at ascending positions, the last one first, so that no removal moves a rule
that is still to be removed. -/
def removeAt (rules : List Rule) (positions : List Nat) : List Rule :=
  positions.foldr (fun i rest => rest.eraseIdx i) rules

/-- Remove the selected rules and give their number. Selection and preview are cleared. -/
def deleteSelected (w : Workspace) : Except WorkspaceError (Nat × Workspace) :=
  if w.selection.isEmpty then .error (.input .nothingSelected)
  else
    .ok (w.selection.length,
      { rules := removeAt w.rules w.selection, selection := [], preview := none })

/-! ## Looking -/

/-- The only selected rule. -/
def editTarget (w : Workspace) : Except WorkspaceError Rule :=
  match w.selection with
  | [index] => w.get index
  | selection => .error (.input (.notOneSelected selection.length))

/-- The text of a rule, whose position is remembered. -/
def showPreview (w : Workspace) (index : Nat) : Except WorkspaceError (String × Workspace) := do
  let r ← w.get index
  return (r.encode, { w with preview := some index })

/-- All rules as text, one a line. -/
def text (w : Workspace) : String :=
  encodeAll w.rules

end Workspace

end RuleDesk
