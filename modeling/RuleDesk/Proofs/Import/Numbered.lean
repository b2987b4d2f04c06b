import RuleDesk.Import

/-!
# Numbered records

Whatever is imported is read record by record, each under its number. If the number of a record
shows in its error only, records that are read in two parts give what both parts give, the numbers
of the second part moved on by the length of the first.
-/

set_option autoImplicit false

namespace RuleDesk

namespace Imported

/-! ## Parts -/

theorem empty_append (a : Imported) : Imported.empty.append a = a := rfl

theorem append_assoc (a b c : Imported) : (a.append b).append c = a.append (b.append c) := by
  simp only [append, List.append_assoc]

/-- What was read from records that stand some places later. -/
def shift (places : Nat) (a : Imported) : Imported :=
  ⟨a.rules, a.errors.map (·.shift places)⟩

theorem shift_append (places : Nat) (a b : Imported) :
    (a.append b).shift places = (a.shift places).append (b.shift places) := by
  simp only [append, shift, List.map_append]

/-! ## Records in order -/

section Records

variable {α : Type} (read : Nat → α → Imported)

/-- Read records in order, the first under a given number. -/
def ofRecords (number : Nat) : List α → Imported
  | [] => .empty
  | record :: rest => (read number record).append (ofRecords (number + 1) rest)

theorem ofRecords_append (number : Nat) (front back : List α) :
    ofRecords read number (front ++ back) =
      (ofRecords read number front).append (ofRecords read (number + front.length) back) := by
  induction front generalizing number with
  | nil => rfl
  | cons record front ih =>
      rw [List.cons_append, ofRecords, ofRecords, ih, append_assoc, List.length_cons,
        Nat.add_assoc, Nat.add_comm 1]

variable {read}

theorem ofRecords_shift
    (hread : ∀ number places record,
      read (number + places) record = (read number record).shift places)
    (number places : Nat) (records : List α) :
    ofRecords read (number + places) records = (ofRecords read number records).shift places := by
  induction records generalizing number with
  | nil => rfl
  | cons record rest ih =>
      rw [ofRecords, ofRecords, shift_append, hread, Nat.add_right_comm, ih]

end Records

end Imported

end RuleDesk
