import RuleDesk.Workspace.Basic

/-!
# Commands

The operations that change a workspace, as data, with what each answers. A run performs commands
one after the other; a command that fails leaves the workspace as it was.
-/

set_option autoImplicit false

namespace RuleDesk

/-- An operation on a workspace with its arguments. -/
inductive Command where
  | append (rule : Rule) (gate : Gate)
  | submit (form : Form)
  | extend (rules : List Rule)
  | select (indices : List Nat)
  | toggle (index : Nat)
  | selectAll (checked : Bool)
  | clearSelection
  | duplicate
  | deleteSelected
  | showPreview (index : Nat)
  deriving DecidableEq, Repr

/-- What a command answers. -/
inductive Answer where
  | nothing
  | position (index : Nat)
  | count (n : Nat)
  | flag (b : Bool)
  | sids (sids : List UInt32)
  | text (s : String)
  deriving DecidableEq, Repr

/-- Perform a command. -/
def Workspace.perform (w : Workspace) : Command → Except WorkspaceError (Answer × Workspace)
  | .append rule gate => do
      let (index, w) ← w.append rule gate
      return (.position index, w)
  | .submit form => do
      let rule ← form.accept
      let (index, w) ← w.append rule .enforced
      return (.position index, w)
  | .extend rules => .ok (.count rules.length, w.extend rules)
  | .select indices => do
      let w ← w.select indices
      return (.nothing, w)
  | .toggle index => do
      let (selected, w) ← w.toggle index
      return (.flag selected, w)
  | .selectAll checked => .ok (.nothing, w.selectAll checked)
  | .clearSelection => .ok (.nothing, w.clearSelection)
  | .duplicate => do
      let (sids, w) ← w.duplicate
      return (.sids sids, w)
  | .deleteSelected => do
      let (count, w) ← w.deleteSelected
      return (.count count, w)
  | .showPreview index => do
      let (text, w) ← w.showPreview index
      return (.text text, w)

/-- The workspace after a command, the same as before if the command fails. -/
def Workspace.after (w : Workspace) (c : Command) : Workspace :=
  match w.perform c with
  | .ok (_, w') => w'
  | .error _ => w

/-- The workspace after a run of commands. -/
def Workspace.run (w : Workspace) (commands : List Command) : Workspace :=
  commands.foldl Workspace.after w

end RuleDesk
