import RuleDesk.Rule.Vocabulary
import RuleDesk.Text.Pieces

/-!
# Sets of flow options

A flow set holds each of the six options or not. It is read from text between commas, where words
that are no option are dropped, and written in the canonical order.
-/

set_option autoImplicit false

namespace RuleDesk

open RuleDesk.Text

/-- A set of flow options. -/
structure FlowSet where
  established : Bool := false
  stateless : Bool := false
  toServer : Bool := false
  toClient : Bool := false
  fromServer : Bool := false
  fromClient : Bool := false
  deriving DecidableEq, Repr

namespace FlowSet

/-- Whether an option is in the set. -/
def contains (s : FlowSet) : FlowOption → Bool
  | .established => s.established
  | .stateless => s.stateless
  | .toServer => s.toServer
  | .toClient => s.toClient
  | .fromServer => s.fromServer
  | .fromClient => s.fromClient

/-- Put an option into the set or take it out. -/
def set (s : FlowSet) (option : FlowOption) (enabled : Bool) : FlowSet :=
  match option with
  | .established => { s with established := enabled }
  | .stateless => { s with stateless := enabled }
  | .toServer => { s with toServer := enabled }
  | .toClient => { s with toClient := enabled }
  | .fromServer => { s with fromServer := enabled }
  | .fromClient => { s with fromClient := enabled }

/-- Put an option into the set. -/
def insert (s : FlowSet) (option : FlowOption) : FlowSet :=
  s.set option true

/-- The set of the options of a list. -/
def ofList (options : List FlowOption) : FlowSet :=
  options.foldl insert {}

/-- The options of the set, in canonical order. -/
def toList (s : FlowSet) : List FlowOption :=
  (Vocabulary.all : List FlowOption).filter s.contains

/-- Whether the set has no option. -/
def isEmpty (s : FlowSet) : Bool :=
  s.toList.isEmpty

/-- The options that a text names between commas, blanks around a name apart. -/
def ofText (raw : String) : FlowSet :=
  ofList ((pieces ',' raw.toList).filterMap fun piece =>
    Vocabulary.ofWord? (String.ofList (trim piece)))

/-- The options in canonical order, with commas between them. -/
def chars (s : FlowSet) : List Char :=
  joined [','] (s.toList.map fun o => (Vocabulary.spelling o).toList)

/-- The canonical text of the set. -/
def text (s : FlowSet) : String :=
  String.ofList s.chars

/-! ## Membership -/

theorem contains_set (s : FlowSet) (o other : FlowOption) (enabled : Bool) :
    (s.set o enabled).contains other = if other = o then enabled else s.contains other := by
  cases o <;> cases other <;> rfl

theorem contains_insert (s : FlowSet) (o other : FlowOption) :
    (s.insert o).contains other = (decide (other = o) || s.contains other) := by
  cases o <;> cases other <;> rfl

theorem mem_all (o : FlowOption) : o ∈ (Vocabulary.all : List FlowOption) := by
  cases o <;> decide

theorem mem_toList (s : FlowSet) (o : FlowOption) : o ∈ s.toList ↔ s.contains o = true := by
  simp [toList, mem_all]

end FlowSet

end RuleDesk
