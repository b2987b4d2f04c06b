/-!
# What can go wrong in a workspace

An operation fails because of what was asked for (a rule without message, a selection of the wrong
size) or because of a position that the workspace does not have.
-/

set_option autoImplicit false

namespace RuleDesk

/-- A request that makes no sense in the state of the workspace. -/
inductive InputError where
  /-- A rule was to be added without a message. -/
  | messageRequired
  /-- An operation on the selection found it empty. -/
  | nothingSelected
  /-- There are fewer identifiers above the largest one than rules to copy. -/
  | sidsExhausted
  /-- One rule was to be edited and another number is selected. -/
  | notOneSelected (count : Nat)
  deriving DecidableEq, Repr

/-- Why an operation failed. -/
inductive WorkspaceError where
  | input (cause : InputError)
  | position (index length : Nat)
  deriving DecidableEq, Repr

/-- The wording of a refused request. -/
def InputError.message : InputError → String
  | .messageRequired => "Message is required to add a rule"
  | .nothingSelected => "No rules selected"
  | .sidsExhausted => "No sids left above the current maximum"
  | .notOneSelected count => s!"Select exactly one rule to edit ({count} selected)"

/-- The wording of a workspace error. -/
def WorkspaceError.message : WorkspaceError → String
  | .input cause => s!"Input error: {cause.message}"
  | .position index length => s!"Index {index} out of range for collection of {length} rules"

end RuleDesk
