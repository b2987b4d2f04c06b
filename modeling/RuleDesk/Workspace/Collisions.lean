import RuleDesk.Json.Value
import RuleDesk.Rule.Fingerprint
import RuleDesk.Workspace.Basic

/-!
# Collisions

Rules collide if they share an identifier or a fingerprint. The report lists, for each identifier
that several rules have, their positions, and the groups of positions whose rules share a
fingerprint. Positions ascend; identifiers ascend; groups are listed by their first position, so
that the hash values never show.
-/

set_option autoImplicit false

namespace RuleDesk

open RuleDesk.Json

/-- Add a position to the group of its key, or open a group at the end. -/
def addToGroup {κ : Type} [DecidableEq κ] (key : κ) (position : Nat) :
    List (κ × List Nat) → List (κ × List Nat)
  | [] => [(key, [position])]
  | (other, positions) :: rest =>
      if key = other then (other, positions ++ [position]) :: rest
      else (other, positions) :: addToGroup key position rest

/-- The positions of a list grouped by key, in the order in which the keys first occur. -/
def groupsBy {κ : Type} [DecidableEq κ] (keys : List κ) : List (κ × List Nat) :=
  keys.zipIdx.foldl (fun groups (key, position) => addToGroup key position groups) []

/-- The groups of more than one position. -/
def shared {κ : Type} (groups : List (κ × List Nat)) : List (κ × List Nat) :=
  groups.filter (fun (_, positions) => 1 < positions.length)

/-- Put a group at its place in a list that ascends by identifier. -/
def insertBySid (group : UInt32 × List Nat) :
    List (UInt32 × List Nat) → List (UInt32 × List Nat)
  | [] => [group]
  | other :: rest =>
      if group.1 ≤ other.1 then group :: other :: rest else other :: insertBySid group rest

/-- Identifiers and fingerprints that several rules share. -/
structure CollisionReport where
  sids : List (UInt32 × List Nat)
  signatures : List (List Nat)
  deriving DecidableEq, Repr

/-- Whether nothing is shared. -/
def CollisionReport.isEmpty (c : CollisionReport) : Bool :=
  c.sids.isEmpty && c.signatures.isEmpty

/-- The collisions in a workspace. -/
def Workspace.collisions (w : Workspace) : CollisionReport where
  sids := (shared (groupsBy (w.rules.map (·.sid)))).foldr insertBySid []
  signatures := (shared (groupsBy (w.rules.map Rule.fingerprint))).map (·.2)

/-- Positions as a value. -/
def positionsJson (positions : List Nat) : Value :=
  .array (positions.map .nat)

/-- A collision report as it is answered. -/
def CollisionReport.toJson (c : CollisionReport) : Value :=
  .object
    [ ("duplicate_sids",
        .object (c.sids.map fun (sid, positions) => (toString sid.toNat, positionsJson positions))),
      ("duplicate_signatures", .array (c.signatures.map positionsJson)) ]

end RuleDesk
