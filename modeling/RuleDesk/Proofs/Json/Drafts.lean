import RuleDesk.Json.Draft
import RuleDesk.Proofs.Json.Sorting

/-!
# Flawless drafts

The draft of a value that is read without a fault or a flaw has a value: the one it came from, with
the members of its objects sorted.
-/

set_option autoImplicit false

namespace RuleDesk.Json

mutual

/-- The draft of a value that is read without a fault or a flaw. -/
def Value.draft : Value → Draft
  | .null => .null
  | .bool b => .bool b
  | .number n => .number none n
  | .string s => .string none s
  | .array items => .array none (draftItems items) none
  | .object members => .object none (draftMembers members) none

/-- The drafts of the items of an array. -/
def draftItems : List Value → List Draft
  | [] => []
  | item :: rest => item.draft :: draftItems rest

/-- The members of an object with their drafts. -/
def draftMembers : List (String × Value) → List (Name × Draft)
  | [] => []
  | (name, value) :: rest => (⟨name, none⟩, value.draft) :: draftMembers rest

end

mutual

/-- The value of a flawless draft is the value it came from, sorted. -/
theorem value_draft (v : Value) : v.draft.value = .ok v.sorted := by
  cases v with
  | null => rfl
  | bool b => rfl
  | number n => rfl
  | string s => rfl
  | array items =>
      rw [Value.draft, Draft.value, valueItems_draftItems items, Value.sorted]
      rfl
  | object members =>
      rw [Value.draft, Draft.value, valueMembers_draftMembers members, Value.sorted]
      rfl

theorem valueItems_draftItems (items : List Value) :
    valueItems (draftItems items) = .ok (sortedItems items) := by
  cases items with
  | nil => rfl
  | cons item rest =>
      rw [draftItems, valueItems, value_draft item, valueItems_draftItems rest, sortedItems]
      rfl

theorem valueMembers_draftMembers (members : List (String × Value)) :
    valueMembers (draftMembers members) = .ok (sortedValues members) := by
  cases members with
  | nil => rfl
  | cons member rest =>
      obtain ⟨name, value⟩ := member
      rw [draftMembers, valueMembers, value_draft value, valueMembers_draftMembers rest,
        sortedValues]
      rfl

end

mutual

/-- A flawless draft can be passed over. -/
theorem isWhole_draft (v : Value) : v.draft.isWhole = true := by
  cases v with
  | null => rfl
  | bool b => rfl
  | number n => rfl
  | string s => rfl
  | array items =>
      rw [Value.draft, Draft.isWhole, areWhole_draftItems items]
      rfl
  | object members =>
      rw [Value.draft, Draft.isWhole, membersAreWhole_draftMembers members]
      rfl

theorem areWhole_draftItems (items : List Value) : areWhole (draftItems items) = true := by
  cases items with
  | nil => rfl
  | cons item rest =>
      rw [draftItems, areWhole, isWhole_draft item, areWhole_draftItems rest]
      rfl

theorem membersAreWhole_draftMembers (members : List (String × Value)) :
    membersAreWhole (draftMembers members) = true := by
  cases members with
  | nil => rfl
  | cons member rest =>
      obtain ⟨name, value⟩ := member
      rw [draftMembers, membersAreWhole, isWhole_draft value, membersAreWhole_draftMembers rest]
      rfl

end

end RuleDesk.Json
