import RuleDesk.Proofs.Outcomes
import RuleDesk.Workspace.Command

/-!
# Effects

What each command does when it succeeds: under which condition, what it answers and which
workspace it leaves. Everything that is said of runs follows from this; no proof about a run opens
an operation.
-/

set_option autoImplicit false

namespace RuleDesk.Workspace

/-- The identifiers of the copies of all selected rules. -/
def freshSids (w : Workspace) : List UInt32 :=
  (List.range' (w.topSid + 1) w.selection.length).map UInt32.ofNat

/-- The copies of all selected rules. -/
def copies (w : Workspace) : List Rule :=
  List.zipWith copyOf w.selected w.freshSids

/-- A command succeeds in the workspace `w` with an answer and leaves a workspace. -/
inductive Effect (w : Workspace) : Command → Answer → Workspace → Prop where
  | append {rule : Rule} {gate : Gate} (hgate : ¬ (gate = .enforced ∧ rule.lacksMessage)) :
      Effect w (.append rule gate) (.position w.length) { w with rules := w.rules ++ [rule] }
  | submit {form : Form} {rule : Rule} (hform : form.accept = .ok rule)
      (hmessage : ¬ rule.lacksMessage) :
      Effect w (.submit form) (.position w.length) { w with rules := w.rules ++ [rule] }
  | extend {rules : List Rule} :
      Effect w (.extend rules) (.count rules.length) { w with rules := w.rules ++ rules }
  | select {indices : List Nat} (hlt : ∀ i ∈ indices, i < w.length) :
      Effect w (.select indices) .nothing { w with selection := positionsOf indices }
  | toggleOff {i : Nat} (hlt : i < w.length) (hmem : i ∈ w.selection) :
      Effect w (.toggle i) (.flag false) { w with selection := w.selection.filter (· != i) }
  | toggleOn {i : Nat} (hlt : i < w.length) (hmem : i ∉ w.selection) :
      Effect w (.toggle i) (.flag true) { w with selection := insertPosition i w.selection }
  | selectAll {checked : Bool} :
      Effect w (.selectAll checked) .nothing
        { w with selection := if checked then List.range w.length else [] }
  | clearSelection :
      Effect w .clearSelection .nothing { w with selection := [] }
  | duplicate (hne : w.selection ≠ []) (hroom : w.topSid + w.selection.length < UInt32.size) :
      Effect w .duplicate (.sids (w.copies.map (·.sid)))
        { w with rules := w.rules ++ w.copies, selection := [] }
  | deleteSelected (hne : w.selection ≠ []) :
      Effect w .deleteSelected (.count w.selection.length)
        { rules := removeAt w.rules w.selection, selection := [], preview := none }
  | showPreview {i : Nat} {r : Rule} (hr : w.rules[i]? = some r) :
      Effect w (.showPreview i) (.text r.encode) { w with preview := some i }

variable {w w' : Workspace}

/-! ## The operations -/

theorem append_eq_ok {r : Rule} {gate : Gate} {i : Nat} (h : w.append r gate = .ok (i, w')) :
    ¬ (gate = .enforced ∧ r.lacksMessage) ∧ i = w.length ∧
      w' = { w with rules := w.rules ++ [r] } := by
  unfold append at h
  split at h
  · cases h
  · next hgate =>
      cases h
      exact ⟨hgate, rfl, rfl⟩

theorem select_eq_ok {indices : List Nat} (h : w.select indices = .ok w') :
    (∀ i ∈ indices, i < w.length) ∧ w' = { w with selection := positionsOf indices } := by
  unfold select at h
  split at h
  · cases h
  · next hnone =>
      cases h
      refine ⟨?_, rfl⟩
      intro i hi
      simpa using List.find?_eq_none.mp hnone i hi

theorem toggle_eq_ok {i : Nat} {selected : Bool} (h : w.toggle i = .ok (selected, w')) :
    w.Effect (.toggle i) (.flag selected) w' := by
  unfold toggle at h
  split at h
  · cases h
  · next hlt =>
      split at h
      · next hmem =>
          cases h
          exact .toggleOff (Nat.lt_of_not_le hlt) (List.contains_iff_mem.mp hmem)
      · next hmem =>
          cases h
          exact .toggleOn (Nat.lt_of_not_le hlt) fun hi => hmem (List.contains_iff_mem.mpr hi)

theorem duplicate_of_unselected (h : w.selection = []) :
    w.duplicate = .error (.input .nothingSelected) := by
  rw [duplicate, h]
  rfl

/-- Each selected rule is copied if there are identifiers for all copies. -/
theorem duplicate_of_room (hne : w.selection ≠ [])
    (hroom : w.topSid + w.selection.length < UInt32.size) :
    w.duplicate =
      .ok (w.copies.map (·.sid), { w with rules := w.rules ++ w.copies, selection := [] }) := by
  have hcount : w.selection.length ≠ 0 := fun h => hne (List.length_eq_zero_iff.mp h)
  simp only [duplicate, if_neg hcount, if_neg (Nat.not_le_of_lt hroom)]
  rfl

theorem duplicate_of_exhausted (hne : w.selection ≠ [])
    (hroom : UInt32.size ≤ w.topSid + w.selection.length) :
    w.duplicate = .error (.input .sidsExhausted) := by
  have hcount : w.selection.length ≠ 0 := fun h => hne (List.length_eq_zero_iff.mp h)
  simp only [duplicate, if_neg hcount, if_pos hroom]

theorem duplicate_eq_ok {sids : List UInt32} (h : w.duplicate = .ok (sids, w')) :
    w.Effect .duplicate (.sids sids) w' := by
  by_cases hne : w.selection = []
  · rw [duplicate_of_unselected hne] at h
    cases h
  · by_cases hroom : w.topSid + w.selection.length < UInt32.size
    · rw [duplicate_of_room hne hroom] at h
      cases h
      exact .duplicate hne hroom
    · rw [duplicate_of_exhausted hne (Nat.le_of_not_lt hroom)] at h
      cases h

theorem deleteSelected_eq_ok {n : Nat} (h : w.deleteSelected = .ok (n, w')) :
    w.Effect .deleteSelected (.count n) w' := by
  unfold deleteSelected at h
  split at h
  · cases h
  · next hne =>
      cases h
      exact .deleteSelected fun hnil => hne (List.isEmpty_iff.mpr hnil)

theorem get_eq_ok {i : Nat} {r : Rule} (h : w.get i = .ok r) : w.rules[i]? = some r := by
  unfold get at h
  split at h
  · next hr =>
      cases h
      exact hr
  · cases h

theorem showPreview_eq_ok {i : Nat} {text : String} (h : w.showPreview i = .ok (text, w')) :
    w.Effect (.showPreview i) (.text text) w' := by
  obtain ⟨r, hget, hpure⟩ := bind_eq_ok_iff.mp h
  cases hpure
  exact .showPreview (get_eq_ok hget)

/-! ## Commands -/

/-- A command that succeeds has its effect. -/
theorem effect_of_perform {c : Command} {a : Answer} (h : w.perform c = .ok (a, w')) :
    w.Effect c a w' := by
  cases c with
  | append rule gate =>
      obtain ⟨⟨i, w₁⟩, happend, hpure⟩ := bind_eq_ok_iff.mp h
      cases hpure
      obtain ⟨hgate, rfl, rfl⟩ := append_eq_ok happend
      exact .append hgate
  | submit form =>
      obtain ⟨rule, hform, hrest⟩ := bind_eq_ok_iff.mp h
      obtain ⟨⟨i, w₁⟩, happend, hpure⟩ := bind_eq_ok_iff.mp hrest
      cases hpure
      obtain ⟨hgate, rfl, rfl⟩ := append_eq_ok happend
      exact .submit hform fun hmessage => hgate ⟨rfl, hmessage⟩
  | extend rules =>
      cases h
      exact .extend
  | select indices =>
      obtain ⟨w₁, hselect, hpure⟩ := bind_eq_ok_iff.mp h
      cases hpure
      obtain ⟨hlt, rfl⟩ := select_eq_ok hselect
      exact .select hlt
  | toggle i =>
      obtain ⟨⟨selected, w₁⟩, htoggle, hpure⟩ := bind_eq_ok_iff.mp h
      cases hpure
      exact toggle_eq_ok htoggle
  | selectAll checked =>
      cases h
      exact .selectAll
  | clearSelection =>
      cases h
      exact .clearSelection
  | duplicate =>
      obtain ⟨⟨sids, w₁⟩, hduplicate, hpure⟩ := bind_eq_ok_iff.mp h
      cases hpure
      exact duplicate_eq_ok hduplicate
  | deleteSelected =>
      obtain ⟨⟨n, w₁⟩, hdelete, hpure⟩ := bind_eq_ok_iff.mp h
      cases hpure
      exact deleteSelected_eq_ok hdelete
  | showPreview i =>
      obtain ⟨⟨text, w₁⟩, hshow, hpure⟩ := bind_eq_ok_iff.mp h
      cases hpure
      exact showPreview_eq_ok hshow

theorem after_of_ok {c : Command} {a : Answer} (h : w.perform c = .ok (a, w')) :
    w.after c = w' := by
  simp only [after, h]

theorem after_of_error {c : Command} {e : WorkspaceError} (h : w.perform c = .error e) :
    w.after c = w := by
  simp only [after, h]

/-- A command either succeeds with its effect or leaves the workspace as it was. -/
theorem perform_cases (w : Workspace) (c : Command) :
    (∃ a, w.perform c = .ok (a, w.after c) ∧ w.Effect c a (w.after c)) ∨
      (∃ e, w.perform c = .error e) ∧ w.after c = w := by
  cases h : w.perform c with
  | ok result =>
      rw [after_of_ok h]
      exact .inl ⟨result.1, rfl, effect_of_perform h⟩
  | error e => exact .inr ⟨⟨e, rfl⟩, after_of_error h⟩

end RuleDesk.Workspace
