import RuleDesk.Proofs.Json.Sorting

/-!
# Plain values

A plain value is one whose text is sure to be read back: its numbers are naturals of 64 bits, and
its containers nest no deeper than a given number of levels. A plain value of no levels is a scalar.
-/

set_option autoImplicit false

namespace RuleDesk.Json

mutual

/-- Whether the numbers of a value are naturals of 64 bits and its containers nest at most `levels`
deep. -/
def Value.IsPlain (levels : Nat) : Value → Prop
  | .null => True
  | .bool _ => True
  | .number (.natural n) => n < UInt64.size
  | .number (.negative _) => False
  | .number (.real _ _ _) => False
  | .string _ => True
  | .array items => 0 < levels ∧ ArePlain (levels - 1) items
  | .object members => 0 < levels ∧ MembersArePlain (levels - 1) members

/-- Whether all items of an array are plain. -/
def ArePlain (levels : Nat) : List Value → Prop
  | [] => True
  | item :: rest => item.IsPlain levels ∧ ArePlain levels rest

/-- Whether the values of all members of an object are plain. -/
def MembersArePlain (levels : Nat) : List (String × Value) → Prop
  | [] => True
  | (_, value) :: rest => value.IsPlain levels ∧ MembersArePlain levels rest

end

theorem arePlain_iff {levels : Nat} {items : List Value} :
    ArePlain levels items ↔ ∀ item ∈ items, item.IsPlain levels := by
  induction items with
  | nil => simp [ArePlain]
  | cons item rest ih => simp [ArePlain, ih]

theorem membersArePlain_iff {levels : Nat} {members : List (String × Value)} :
    MembersArePlain levels members ↔ ∀ m ∈ members, m.2.IsPlain levels := by
  induction members with
  | nil => simp [MembersArePlain]
  | cons member rest ih => simp [MembersArePlain, ih]

/-! ## Scalars -/

section Scalars

variable {v : Value}

/-- A plain scalar is plain at any level. -/
theorem isPlain_of_zero (h : v.IsPlain 0) (levels : Nat) : v.IsPlain levels := by
  cases v with
  | null => exact h
  | bool b => exact h
  | number n => cases n <;> exact h
  | string s => exact h
  | array items => exact absurd h.1 (Nat.lt_irrefl 0)
  | object members => exact absurd h.1 (Nat.lt_irrefl 0)

/-- A plain scalar has no members to sort. -/
theorem sorted_of_zero (h : v.IsPlain 0) : v.sorted = v := by
  cases v with
  | null => rfl
  | bool b => rfl
  | number n => rfl
  | string s => rfl
  | array items => exact absurd h.1 (Nat.lt_irrefl 0)
  | object members => exact absurd h.1 (Nat.lt_irrefl 0)

end Scalars

end RuleDesk.Json
