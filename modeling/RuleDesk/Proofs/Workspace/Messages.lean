import RuleDesk.Proofs.Form.Acceptance
import RuleDesk.Proofs.Workspace.Atomicity
import RuleDesk.Workspace.View

/-!
# Messages of a guarded workspace

Rules come into a workspace past the gate, which asks for a message, or on the two trusted paths,
templates and files. Without the trusted paths every rule that is there has a message that is not
blank: the gate lets no other in, a copy has the suffix in its message, and no other operation
changes a message. The table of a workspace counts a rule as valid if its message is not empty,
which asks for less; so in such a workspace it counts every rule as valid.
-/

set_option autoImplicit false

namespace RuleDesk

open RuleDesk.Text

/-! ## Operations without the trusted paths -/

/-- A command that adds rules past the gate only. -/
def Command.IsGuarded : Command → Prop
  | .append _ gate => gate = .enforced
  | .extend _ => False
  | _ => True

/-- An operation that adds rules past the gate only: no template and no file is added. -/
def Operation.IsGuarded : Operation → Prop
  | .command c => c.IsGuarded
  | .addTemplate _ => False
  | .addFile _ _ => False
  | .edit => True

theorem Rule.lacksMessage_eq_false_iff (r : Rule) :
    r.lacksMessage = false ↔ ∃ c ∈ r.message.toList, isBlank c = false := by
  rw [lacksMessage, ← Bool.not_eq_true, isAllBlank_iff]
  simp

namespace Workspace

variable {w w' : Workspace} {c : Command} {a : Answer}

/-- Every rule has a message that is not blank. -/
def IsTitled (w : Workspace) : Prop :=
  ∀ r ∈ w.rules, r.lacksMessage = false

/-! ## One command -/

/-- The suffix alone makes a message that is not blank. -/
theorem lacksMessage_copyOf (r : Rule) (sid : UInt32) : (copyOf r sid).lacksMessage = false := by
  rw [Rule.lacksMessage_eq_false_iff]
  refine ⟨'(', ?_, by decide⟩
  rw [copyOf, String.toList_append, List.mem_append]
  exact .inr (by decide)

theorem lacksMessage_of_mem_copies {r : Rule} (h : r ∈ w.copies) : r.lacksMessage = false := by
  obtain ⟨i, hi⟩ := List.mem_iff_getElem?.mp h
  rw [copies, List.getElem?_zipWith_eq_some] at hi
  obtain ⟨source, sid, -, -, rfl⟩ := hi
  exact lacksMessage_copyOf source sid

theorem removeAt_sublist (rules : List Rule) (positions : List Nat) :
    (removeAt rules positions).Sublist rules := by
  induction positions with
  | nil => exact List.Sublist.refl rules
  | cons i rest ih => exact (List.eraseIdx_sublist (removeAt rules rest) i).trans ih

theorem isTitled_empty : empty.IsTitled :=
  fun _ hr => absurd hr List.not_mem_nil

/-- Rules with messages may be added. -/
theorem IsTitled.extend (h : w.IsTitled) {rules : List Rule}
    (hrules : ∀ r ∈ rules, r.lacksMessage = false) :
    IsTitled { w with rules := w.rules ++ rules } := by
  intro r hr
  rcases List.mem_append.mp hr with hr | hr
  · exact h r hr
  · exact hrules r hr

theorem Effect.isTitled (h : w.Effect c a w') (hc : c.IsGuarded) (hw : w.IsTitled) :
    w'.IsTitled := by
  cases h with
  | append hgate =>
      have hmessage : _ ≠ true := fun hlacks => hgate ⟨hc, hlacks⟩
      exact hw.extend (List.forall_mem_singleton.mpr (Bool.eq_false_iff.mpr hmessage))
  | submit hform hmessage =>
      exact hw.extend (List.forall_mem_singleton.mpr (Bool.eq_false_iff.mpr hmessage))
  | extend => exact absurd hc id
  | select | toggleOff | toggleOn | selectAll | clearSelection | showPreview => exact hw
  | duplicate => exact hw.extend fun r => lacksMessage_of_mem_copies
  | deleteSelected => exact fun r hr => hw r ((removeAt_sublist _ _).subset hr)

theorem IsTitled.after (h : w.IsTitled) (hc : c.IsGuarded) : (w.after c).IsTitled := by
  rcases w.perform_cases c with ⟨a, -, heffect⟩ | ⟨-, hsame⟩
  · exact heffect.isTitled hc h
  · rw [hsame]
    exact h

/-! ## Operations in place -/

/-- The steps of a command leave what the command leaves, whether it succeeds or fails. -/
theorem IsSound.left_command (h : w.IsSound) (c : Command) :
    w.left (.command c) = w.after c := by
  have hrun : (Operation.command c).steps.run w = (Reply.answer <$> c.steps).run w := rfl
  rw [Workspace.left, hrun, InPlace.run_map, c.run_steps h]
  cases hperform : w.perform c with
  | ok result => exact (after_of_ok hperform).symm
  | error e => exact (after_of_error hperform).symm

theorem left_edit : w.left .edit = w := by
  have hrun : Operation.edit.steps.run w = (Reply.rule <$> InPlace.editTarget).run w := rfl
  rw [left, hrun, InPlace.run_map, InPlace.run_editTarget]
  cases w.editTarget with
  | ok r => rfl
  | error e => rfl

theorem IsTitled.left (h : w.IsTitled) (hsound : w.IsSound) {o : Operation} (ho : o.IsGuarded) :
    (w.left o).IsTitled := by
  cases o with
  | command c =>
      rw [hsound.left_command]
      exact h.after ho
  | addTemplate | addFile => exact absurd ho id
  | edit =>
      rw [left_edit]
      exact h

theorem isTitled_held {operations : List Operation} (h : ∀ o ∈ operations, o.IsGuarded) :
    (held operations).IsTitled := by
  -- by induction on the operations, from any such workspace whose positions are in range
  have hrest : ∀ w : Workspace, w.IsSound → w.IsTitled →
      (operations.foldl Workspace.left w).IsTitled := by
    induction operations with
    | nil => exact fun w _ htitled => htitled
    | cons o rest ih =>
        intro w hsound htitled
        rw [List.forall_mem_cons] at h
        exact ih h.2 (w.left o) (hsound.left o) (htitled.left hsound h.1)
  exact hrest empty isSound_empty isTitled_empty

/-! ## The table -/

/-- All rules count as valid exactly if no message is empty. -/
theorem valid_eq_count_iff (w : Workspace) :
    w.view.valid = w.view.count ↔ ∀ r ∈ w.rules, r.message ≠ "" := by
  show (w.rules.filter fun r => !r.message.isEmpty).length = w.rules.length ↔ _
  rw [List.length_filter_eq_length_iff]
  simp

theorem invalid_eq (w : Workspace) : w.view.invalid = w.view.count - w.view.valid := rfl

theorem IsTitled.valid_eq_count (h : w.IsTitled) : w.view.valid = w.view.count := by
  rw [valid_eq_count_iff]
  intro r hr hempty
  obtain ⟨c, hc, -⟩ := r.lacksMessage_eq_false_iff.mp (h r hr)
  rw [hempty] at hc
  exact absurd hc List.not_mem_nil

/-- The row at a position shows the rule there. -/
theorem getElem?_rows (w : Workspace) (i : Nat) :
    w.view.rows[i]? = w.rules[i]?.map fun r => ⟨i, w.selection.contains i, r.encode, r⟩ := by
  show (w.rules.zipIdx.map _)[i]? = _
  rw [List.getElem?_map, List.getElem?_zipIdx, Option.map_map, Nat.zero_add]
  rfl

/-- As long as rules are added past the gate only, by hand or from a form, every rule in every
workspace that is reached has a message that is not blank, whatever else is done. The table counts
all rules as valid and none as invalid. It has a row for each rule, which has the position of the
rule and says whether that is selected. -/
theorem guarded_rules_have_messages (operations : List Operation)
    (h : ∀ o ∈ operations, o.IsGuarded) (before : List Operation)
    (hbefore : before <+: operations) :
    let w := held before
    (∀ r ∈ w.rules, ∃ c ∈ r.message.toList, isBlank c = false) ∧
      w.view.count = w.rules.length ∧ w.view.valid = w.view.count ∧ w.view.invalid = 0 ∧
      w.view.rows.length = w.rules.length ∧
      ∀ i row, w.view.rows[i]? = some row → row.index = i ∧
        (row.selected = true ↔ i ∈ w.selection) ∧ w.rules[i]? = some row.rule := by
  intro w
  have htitled : w.IsTitled := isTitled_held fun o ho => h o (hbefore.subset ho)
  refine ⟨?_, rfl, htitled.valid_eq_count, ?_, ?_, ?_⟩
  · intro r hr
    exact r.lacksMessage_eq_false_iff.mp (htitled r hr)
  · rw [invalid_eq, htitled.valid_eq_count, Nat.sub_self]
  · exact (List.length_map _).trans List.length_zipIdx
  · intro i row hrow
    rw [getElem?_rows, Option.map_eq_some_iff] at hrow
    obtain ⟨r, hr, rfl⟩ := hrow
    exact ⟨rfl, List.contains_iff_mem, hr⟩

/-- A rule with a blank message is refused and a form is accepted. All rules are copied twice, and
then the first one is deleted. The last copy is shown and not selected. -/
theorem guarded_rules_have_messages_copied :
    let operations : List Operation :=
      [ .command (.append { message := "\u2003" } .enforced),
        .command (.submit { message := " Login" }), .command (.selectAll true),
        .command .duplicate, .command (.select [0, 1]), .command .duplicate,
        .command (.select [0]), .command .deleteSelected, .edit, .command (.toggle 0),
        .command (.showPreview 2) ]
    let w := held operations
    w.rules.map (·.message) = ["Login (copy)", "Login (copy)", "Login (copy) (copy)"] ∧
      w.view.valid = 3 ∧ w.view.invalid = 0 ∧ ¬ 2 ∈ w.selection := by
  intro operations w
  have hguarded : ∀ o ∈ operations, o.IsGuarded := by
    simp [operations, Operation.IsGuarded, Command.IsGuarded]
  have hmessages : w.rules.map (·.message) =
      ["Login (copy)", "Login (copy)", "Login (copy) (copy)"] := by
    decide +kernel
  have hcount : w.rules.length = 3 := by
    rw [← List.length_map (·.message), hmessages]
    rfl
  obtain ⟨-, hrules, hvalid, hinvalid, -, -⟩ :=
    guarded_rules_have_messages operations hguarded operations (List.prefix_refl operations)
  exact ⟨hmessages, hvalid.trans (hrules.trans hcount), hinvalid, by decide +kernel⟩

end Workspace

end RuleDesk
