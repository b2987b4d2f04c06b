import RuleDesk.Workspace.Collisions

/-!
# Collisions found with ordered maps

The positions of a list can be grouped in maps whose keys ascend: one map for identifiers and one
for hash values, both filled in a single pass over the rules. The groups of the second map then come
in the order of the hash values, which says nothing about rules, and have to be put into the order of
their positions. The hash is a parameter here, so that it can be asked what depends on its values.
-/

set_option autoImplicit false

namespace RuleDesk

section Maps

variable {κ : Type} [DecidableEq κ] [LT κ] [DecidableLT κ]

/-- Add a position to the group of its key in a map whose keys ascend, or open a group at the place
of the key. -/
def addInOrder (key : κ) (position : Nat) : List (κ × List Nat) → List (κ × List Nat)
  | [] => [(key, [position])]
  | (other, positions) :: rest =>
      if key < other then (key, [position]) :: (other, positions) :: rest
      else if key = other then (other, positions ++ [position]) :: rest
      else (other, positions) :: addInOrder key position rest

end Maps

/-- Whether a group may stand before another: at the first difference it has the smaller position,
or it is the front of the other. -/
def mayPrecede : List Nat → List Nat → Bool
  | [], _ => true
  | _ :: _, [] => false
  | i :: a, j :: b => i < j || (i == j && mayPrecede a b)

/-- The positions of rules by identifier and by hash value. -/
structure CollisionMaps where
  bySid : List (UInt32 × List Nat) := []
  byHash : List (String × List Nat) := []
  deriving DecidableEq, Repr

/-- Enter a rule at its position into both maps. -/
def CollisionMaps.enter (hash : Rule → String) (maps : CollisionMaps) (entry : Rule × Nat) :
    CollisionMaps where
  bySid := addInOrder entry.1.sid entry.2 maps.bySid
  byHash := addInOrder (hash entry.1) entry.2 maps.byHash

namespace Workspace

/-- The maps of all rules of a workspace. -/
def collisionMaps (w : Workspace) (hash : Rule → String) : CollisionMaps :=
  w.rules.zipIdx.foldl (CollisionMaps.enter hash) {}

/-- The collisions in a workspace by its maps. -/
def collisionsByMaps (w : Workspace) (hash : Rule → String) : CollisionReport where
  sids := shared (w.collisionMaps hash).bySid
  signatures := ((shared (w.collisionMaps hash).byHash).map (·.2)).mergeSort mayPrecede

end Workspace

end RuleDesk
