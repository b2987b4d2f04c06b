import RuleDesk.Proofs.Import.Numbered

/-!
# Entries read one by one

The entries of a project are converted each for itself. An entry that is a rule gives the rule, and
any other gives one error with its position; neither has to do with the entries around it. So the
rules are those of the convertible entries in their order, the errors say which entries are missing,
and a project is read as its parts are. Whether the entries are the whole document or its member
`rules` makes no difference.
-/

set_option autoImplicit false

namespace RuleDesk

open RuleDesk.Json

/-! ## One entry -/

/-- What is read from the entry of a given number. -/
def readEntry (number : Nat) (entry : Value) : Imported :=
  .ofRecord (.entry number) (Rule.ofJson entry)

/-- The number of an entry shows in its error only. -/
theorem readEntry_shift (number places : Nat) (entry : Value) :
    readEntry (number + places) entry = (readEntry number entry).shift places := by
  unfold readEntry
  cases Rule.ofJson entry <;> rfl

/-! ## Entries in order -/

theorem readEntries_eq (number : Nat) (entries : List Value) :
    readEntries number entries = .ofRecords readEntry number entries := by
  induction entries generalizing number with
  | nil => rfl
  | cons entry rest ih =>
      rw [readEntries, Imported.ofRecords, ih]
      rfl

theorem readEntries_append (number : Nat) (front back : List Value) :
    readEntries number (front ++ back) =
      (readEntries number front).append (readEntries (number + front.length) back) := by
  simp only [readEntries_eq]
  exact Imported.ofRecords_append readEntry number front back

theorem readEntries_shift (number places : Nat) (entries : List Value) :
    readEntries (number + places) entries = (readEntries number entries).shift places := by
  simp only [readEntries_eq]
  exact Imported.ofRecords_shift readEntry_shift number places entries

/-- The rules are those of the entries that can be converted, whatever the numbers are. -/
theorem rules_readEntries (number : Nat) (entries : List Value) :
    (readEntries number entries).rules =
      entries.filterMap fun entry => (Rule.ofJson entry).toOption := by
  induction entries generalizing number with
  | nil => rfl
  | cons entry rest ih =>
      rw [readEntries, Imported.append, ih, List.filterMap_cons]
      cases Rule.ofJson entry with
      | ok r => rfl
      | error cause => rfl

/-- Each entry that cannot be converted gives one error, which has its number and its cause. -/
theorem mem_errors_readEntries {number : Nat} {entries : List Value} {error : RecordError} :
    error ∈ (readEntries number entries).errors ↔ ∃ i entry cause, entries[i]? = some entry ∧
      Rule.ofJson entry = .error cause ∧ error = .entry (number + i) cause := by
  induction entries generalizing number with
  | nil => simp [readEntries, Imported.empty]
  | cons first rest ih =>
      have hfirst : error ∈ (readEntry number first).errors ↔
          ∃ cause, Rule.ofJson first = .error cause ∧ error = .entry number cause := by
        unfold readEntry
        cases Rule.ofJson first with
        | ok r => simp [Imported.ofRecord]
        | error cause => simp [Imported.ofRecord]
      show error ∈ (readEntry number first).errors ++ (readEntries (number + 1) rest).errors ↔ _
      rw [List.mem_append, hfirst, ih]
      constructor
      · rintro (⟨cause, hcause, rfl⟩ | ⟨i, entry, cause, hentry, hcause, rfl⟩)
        · exact ⟨0, first, cause, rfl, hcause, rfl⟩
        · exact ⟨i + 1, entry, cause, hentry, hcause, by rw [Nat.add_assoc, Nat.add_comm 1]⟩
      · rintro ⟨i, entry, cause, hentry, hcause, rfl⟩
        cases i with
        | zero =>
            obtain rfl := Option.some.inj hentry
            exact .inl ⟨cause, hcause, rfl⟩
        | succ i =>
            exact .inr ⟨i, entry, cause, hentry, hcause, by rw [Nat.add_assoc, Nat.add_comm 1]⟩

/-- The numbers of the errors ascend, so that no entry gives two. -/
theorem pairwise_number_readEntries (number : Nat) (entries : List Value) :
    ((readEntries number entries).errors.map RecordError.number).Pairwise (· < ·) := by
  induction entries generalizing number with
  | nil => exact List.Pairwise.nil
  | cons entry rest ih =>
      -- what follows has larger numbers than the first entry
      have hlater : ∀ n ∈ (readEntries (number + 1) rest).errors.map RecordError.number,
          number < n := by
        intro n hn
        obtain ⟨error, herror, rfl⟩ := List.mem_map.mp hn
        obtain ⟨i, later, cause, -, -, rfl⟩ := mem_errors_readEntries.mp herror
        show number < number + 1 + i
        omega
      show ((readEntry number entry).append (readEntries (number + 1) rest)).errors.map _
        |>.Pairwise _
      unfold readEntry
      cases Rule.ofJson entry with
      | ok r => exact ih (number + 1)
      | error cause => exact List.Pairwise.cons hlater (ih (number + 1))

/-- Each entry gives a rule or an error. -/
theorem length_readEntries (number : Nat) (entries : List Value) :
    (readEntries number entries).rules.length + (readEntries number entries).errors.length =
      entries.length := by
  induction entries generalizing number with
  | nil => rfl
  | cons entry rest ih =>
      have hrest := ih (number + 1)
      simp only [readEntries, Imported.append, List.length_append, List.length_cons]
      cases Rule.ofJson entry with
      | ok r => simp only [Imported.ofRecord, List.length_cons, List.length_nil]; omega
      | error cause => simp only [Imported.ofRecord, List.length_cons, List.length_nil]; omega

/-! ## Documents -/

/-- A document whose member `rules` is an array is read as that array is. -/
theorem importDocument_object {members : List (String × Value)} {entries : List Value}
    (h : (Value.object members).member? "rules" = some (.array entries)) :
    importDocument (.object members) = importDocument (.array entries) := by
  have hentries : projectEntries (.object members) = .ok entries := by
    rw [projectEntries, h]
  rw [importDocument, hentries]
  rfl

theorem importDocument_append (front back : List Value) :
    importDocument (.array (front ++ back)) =
      .ok ((readEntries 1 front).append ((readEntries 1 back).shift front.length)) := by
  show Except.ok (readEntries 1 (front ++ back)) = _
  rw [readEntries_append, readEntries_shift]

/-- An entry among others is read for itself. -/
theorem importDocument_append_cons (front : List Value) (entry : Value) (back : List Value) :
    importDocument (.array (front ++ entry :: back)) =
      .ok (((readEntries 1 front).append (readEntry (front.length + 1) entry)).append
        ((readEntries 1 back).shift (front.length + 1))) := by
  have htail : readEntries (1 + front.length) (entry :: back) =
      (readEntry (front.length + 1) entry).append
        ((readEntries 1 back).shift (front.length + 1)) := by
    rw [← readEntries_shift, readEntries, Nat.add_comm 1 front.length,
      Nat.add_comm 1 (front.length + 1)]
    rfl
  show Except.ok (readEntries 1 (front ++ entry :: back)) = _
  rw [readEntries_append, htail, Imported.append_assoc]

/-- A project is read entry by entry, as a bare array and as an object whose member `rules` is that
array. The rules are those of the convertible entries in their order. Every other entry gives
exactly one error, with its position and the cause for which it is not converted, and the errors are
in the order of the entries; so there are as many rules and errors as entries. Whatever entry stands
in a place, those before it and behind it are read as they are without it. Entries that follow give
their rules and errors behind the others, with the positions moved on. -/
theorem importDocument_reads_apart (entries : List Value) :
    ∃ read, importDocument (.array entries) = .ok read ∧
      (∀ members, (Value.object members).member? "rules" = some (.array entries) →
        importDocument (.object members) = .ok read) ∧
      read.rules = entries.filterMap (fun entry => (Rule.ofJson entry).toOption) ∧
      (∀ error, error ∈ read.errors ↔ ∃ i entry cause, entries[i]? = some entry ∧
        Rule.ofJson entry = .error cause ∧ error = .entry (i + 1) cause) ∧
      (read.errors.map RecordError.number).Pairwise (· < ·) ∧
      read.rules.length + read.errors.length = entries.length ∧
      (∀ front back, ∃ before behind, importDocument (.array front) = .ok before ∧
        importDocument (.array back) = .ok behind ∧
        ∀ entry, importDocument (.array (front ++ entry :: back)) =
          .ok ((before.append (.ofRecord (.entry (front.length + 1)) (Rule.ofJson entry))).append
            (behind.shift (front.length + 1)))) ∧
      ∀ more, ∃ behind, importDocument (.array more) = .ok behind ∧
        importDocument (.array (entries ++ more)) =
          .ok (read.append (behind.shift entries.length)) := by
  refine ⟨readEntries 1 entries, rfl, ?_, rules_readEntries 1 entries, ?_,
    pairwise_number_readEntries 1 entries, length_readEntries 1 entries, ?_, ?_⟩
  · intro members hmember
    exact importDocument_object hmember
  · intro error
    simp only [mem_errors_readEntries, Nat.add_comm 1]
  · intro front back
    exact ⟨readEntries 1 front, readEntries 1 back, rfl, rfl,
      fun entry => importDocument_append_cons front entry back⟩
  · intro more
    exact ⟨readEntries 1 more, rfl, importDocument_append entries more⟩

/-- An object with other members around its entries. A number is no rule, and neither is an array
with an unknown action; the object and the array with a known action are read all the same. -/
theorem importDocument_reads_apart_mixed :
    let entries : List Value :=
      [.object [("msg", .string "One")], .nat 42, .array [.string "log"], .array [.string "shout"]]
    importDocument (.object [("name", .null), ("rules", .array entries), ("version", .nat 2)]) =
      .ok
        { rules := [{ message := "One" }, { action := .log }]
          errors :=
            [ .entry 2 (.kind (.nat 42) "struct RuleRecord"),
              .entry 4
                (.variant "shout" ["alert", "log", "pass", "drop", "reject", "sdrop"]) ] } := by
  intro entries
  obtain ⟨read, hread, hobject, -⟩ := importDocument_reads_apart entries
  rw [hobject _ rfl, ← hread]
  rfl

end RuleDesk
