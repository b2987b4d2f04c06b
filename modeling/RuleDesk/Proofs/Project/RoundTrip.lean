import RuleDesk.Export
import RuleDesk.Import
import RuleDesk.Proofs.Json.Documents
import RuleDesk.Proofs.Rule.Records

/-!
# Projects read back

A project file is indented JSON, so it is read as the document it was written from, with the members
of each object sorted. Its entries are then read one by one, each as the rule it was written for:
every field of every rule comes back as it was, and no entry gives an error.
-/

set_option autoImplicit false

namespace RuleDesk

open RuleDesk.Json
open RuleDesk.Text

/-! ## Documents -/

/-- A project nests three levels: the document, the array of rules, and each rule. -/
theorem isPlain_projectDocument (rules : List Rule) (now : Timestamp) :
    (projectDocument rules now).IsPlain nestingLimit := by
  have hrules : ∀ item ∈ rules.map Rule.toJson, item.IsPlain 125 := by
    intro item hitem
    obtain ⟨r, -, rfl⟩ := List.mem_map.mp hitem
    exact Rule.isFaithful_schema.isPlain_object r (by decide)
  have hcount : (UInt64.ofNat rules.length).toNat < UInt64.size := UInt64.toNat_lt _
  exact ⟨by decide, trivial, trivial, hcount, ⟨by decide, arePlain_iff.mpr hrules⟩, trivial⟩

/-- The entries of a project stay in their order. -/
theorem projectEntries_sorted (rules : List Rule) (now : Timestamp) :
    projectEntries (projectDocument rules now).sorted =
      .ok (rules.map fun r => r.toJson.sorted) := by
  have hmember : (projectDocument rules now).sorted.member? "rules" =
      some (.array (rules.map fun r => r.toJson.sorted)) := by
    rw [projectDocument, Value.sorted, member?_sortMembers, sortedValues_eq_map]
    show some (Value.array (sortedItems (rules.map Rule.toJson))) = _
    rw [sortedItems_eq_map, List.map_map]
    rfl
  rw [projectDocument, Value.sorted] at hmember ⊢
  rw [projectEntries, hmember]

/-! ## Entries -/

theorem ofJson_sorted (r : Rule) : Rule.ofJson r.toJson.sorted = .ok r :=
  Rule.isFaithful_schema.read_sorted r

/-- Entries written for rules are read as these rules, whatever their numbers. -/
theorem readEntries_sorted (number : Nat) (rules : List Rule) :
    readEntries number (rules.map fun r => r.toJson.sorted) = ⟨rules, []⟩ := by
  induction rules generalizing number with
  | nil => rfl
  | cons r rest ih =>
      rw [List.map_cons, readEntries, ofJson_sorted, ih]
      rfl

/-! ## Files -/

/-- A project file is imported as the rules it was exported from: all of them, in their order, each
field as it was, and without an error. -/
theorem importProject_projectFile (rules : List Rule) (now : Timestamp) :
    importProject (toOctets (projectFile rules now).body.toList) = .ok ⟨rules, []⟩ := by
  have hdocument : readOctets (toOctets (projectFile rules now).body.toList) =
      .ok (projectDocument rules now).sorted :=
    readOctets_pretty (isPlain_projectDocument rules now)
  rw [importProject, hdocument]
  show importDocument _ = _
  rw [importDocument, projectEntries_sorted]
  exact congrArg Except.ok (readEntries_sorted 1 rules)

end RuleDesk
