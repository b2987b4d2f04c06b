import RuleDesk.Proofs.Workspace.Runs
import RuleDesk.Workspace.InPlace

/-!
# Operations that fail

An operation in place changes the held workspace step by step, so that a failure on its way could
leave a workspace that is neither the old nor the new one. Here it is shown that none does: the
steps of a command do what the command does at once (`run_steps`), and a command that fails leaves
the workspace as it was.

The loops carry this. Checking positions one after the other changes nothing, and removing or
copying the rules at positions that are kept never meets a position that is not there.
-/

set_option autoImplicit false

namespace RuleDesk

/-! ## Single steps -/

namespace InPlace

variable {w : Workspace}

theorem run_map {α β : Type} (f : α → β) (x : InPlace α) :
    (f <$> x).run w =
      match x.run w with
      | .ok a w' => .ok (f a) w'
      | .error e w' => .error e w' := by
  show EStateM.map f x w = _
  rw [EStateM.map, EStateM.run]
  cases x w with
  | ok a w' => rfl
  | error e w' => rfl

theorem run_get_bind {α : Type} (f : Workspace → InPlace α) :
    (get >>= f).run w = (f w).run w :=
  rfl

theorem run_checkPosition (i : Nat) :
    (checkPosition i).run w =
      if w.length ≤ i then .error (.refused (.position i w.length)) w else .ok () w := by
  rw [checkPosition, run_get_bind]
  split
  · rfl
  · rfl

theorem run_ruleAt {i : Nat} {r : Rule} (hr : w.rules[i]? = some r) :
    (ruleAt i).run w = .ok r w := by
  rw [ruleAt, run_get_bind, hr]
  rfl

theorem run_removeRule {i : Nat} (hi : i < w.length) :
    (removeRule i).run w = .ok () { w with rules := w.rules.eraseIdx i } := by
  rw [removeRule, run_get_bind, if_neg (Nat.not_le_of_lt hi)]
  rfl

/-! ## Loops -/

/-- Checking positions changes nothing and stops at the first that is not there. -/
theorem run_forM_checkPosition (indices : List Nat) :
    (forM indices checkPosition : InPlace Unit).run w =
      match indices.find? (w.length ≤ ·) with
      | some i => .error (.refused (.position i w.length)) w
      | none => .ok () w := by
  induction indices with
  | nil => rfl
  | cons i rest ih =>
      rw [List.forM_cons, EStateM.run_bind, run_checkPosition, List.find?_cons]
      by_cases hi : w.length ≤ i
      · simp [hi]
      · simp [hi, ih]

/-- Removing the rules at kept positions, the last one first, always succeeds: each position is
there when its turn comes. -/
theorem run_forM_removeRule {positions : List Nat} (h : positions.Pairwise (· < ·))
    (hlt : ∀ i ∈ positions, i < w.length) :
    (forM positions.reverse removeRule : InPlace Unit).run w =
      .ok () { w with rules := Workspace.removeAt w.rules positions } := by
  induction positions with
  | nil => rfl
  | cons i rest ih =>
      have hrest := ih (List.pairwise_cons.mp h).2 fun j hj => hlt j (List.mem_cons_of_mem i hj)
      -- the rules behind are gone when the turn of the first position comes, and it is still there
      have hi : i < (Workspace.removeAt w.rules rest).length :=
        @lt_length_removeAt w.rules [] rest i h hlt
      rw [List.reverse_cons, List.forM_append, EStateM.run_bind, hrest, List.forM_cons,
        List.forM_nil, bind_pure]
      exact run_removeRule hi

/-- Copying the rules at kept positions changes nothing and always succeeds. -/
theorem run_mapM_copyRule {indices : List Nat} (hlt : ∀ i ∈ indices, i < w.length)
    (sids : List UInt32) :
    ((indices.zip sids).mapM fun p => copyRule p.1 p.2).run w =
      .ok (List.zipWith Workspace.copyOf (indices.filterMap (w.rules[·]?)) sids) w := by
  induction indices generalizing sids with
  | nil => rfl
  | cons i rest ih =>
      obtain ⟨r, hr⟩ : ∃ r, w.rules[i]? = some r :=
        ⟨_, List.getElem?_eq_getElem (hlt i List.mem_cons_self)⟩
      cases sids with
      | nil =>
          rw [List.zip_nil_right, List.zipWith_nil_right]
          rfl
      | cons sid sids =>
          have hrest := ih (fun j hj => hlt j (List.mem_cons_of_mem i hj)) sids
          have hcopy : (copyRule i sid).run w = .ok (Workspace.copyOf r sid) w := by
            rw [copyRule, EStateM.run_bind, run_ruleAt hr]
            rfl
          rw [List.zip_cons_cons, List.mapM_cons, EStateM.run_bind, hcopy, List.filterMap_cons, hr,
            List.zipWith_cons_cons]
          simp only [EStateM.run_bind, hrest]
          rfl

/-! ## Commands -/

/-- The outcome of a command as the outcome of its steps: a refusal leaves the workspace. -/
def settled (w : Workspace) :
    Except WorkspaceError (Answer × Workspace) → EStateM.Result OperationError Workspace Answer
  | .ok (a, w') => .ok a w'
  | .error cause => .error (.refused cause) w

theorem run_append (r : Rule) (gate : Gate) :
    (append r gate).run w = settled w (w.perform (.append r gate)) := by
  unfold append
  by_cases hgate : gate = .enforced ∧ r.lacksMessage
  · have hperform : w.perform (.append r gate) = .error (.input .messageRequired) := by
      rw [Workspace.perform, Workspace.append, if_pos hgate]
      rfl
    rw [if_pos hgate, hperform]
    rfl
  · have hperform : w.perform (.append r gate) =
        .ok (.position w.length, { w with rules := w.rules ++ [r] }) := by
      rw [Workspace.perform, Workspace.append, if_neg hgate]
      rfl
    have hposition : (w.rules ++ [r]).length - 1 = w.length := by
      rw [List.length_append, List.length_singleton, Nat.add_sub_cancel]
      rfl
    rw [if_neg hgate, hperform, settled, ← hposition]
    rfl

theorem run_submit (form : Form) :
    (submit form).run w = settled w (w.perform (.submit form)) := by
  unfold submit
  cases hform : form.accept with
  | error cause =>
      have hperform : w.perform (.submit form) = .error cause := by
        rw [Workspace.perform, hform]
        rfl
      rw [hperform]
      rfl
  | ok r =>
      have hperform : w.perform (.submit form) = w.perform (.append r .enforced) := by
        simp only [Workspace.perform, hform]
        rfl
      rw [hperform]
      exact run_append r .enforced

theorem run_select (indices : List Nat) :
    (select indices).run w = settled w (w.perform (.select indices)) := by
  rw [select, EStateM.run_bind, run_forM_checkPosition, Workspace.perform, Workspace.select]
  cases indices.find? (w.length ≤ ·) with
  | some i => rfl
  | none => rfl

theorem run_toggle (i : Nat) :
    (toggle i).run w = settled w (w.perform (.toggle i)) := by
  rw [toggle, EStateM.run_bind, run_checkPosition, Workspace.perform, Workspace.toggle]
  by_cases hi : w.length ≤ i
  · rw [if_pos hi, if_pos hi]
    rfl
  · rw [if_neg hi, if_neg hi]
    simp only [run_get_bind]
    split
    · rfl
    · rfl

theorem run_selectAll (checked : Bool) :
    (selectAll checked).run w = settled w (w.perform (.selectAll checked)) := by
  cases checked with
  | true => rfl
  | false => rfl

theorem run_duplicate (h : w.IsSound) :
    duplicate.run w = settled w (w.perform .duplicate) := by
  rw [duplicate, run_get_bind, Workspace.perform]
  by_cases hempty : w.selection.isEmpty
  · rw [if_pos hempty, Workspace.duplicate_of_unselected (List.isEmpty_iff.mp hempty)]
    rfl
  · have hne : w.selection ≠ [] := fun hnil => hempty (List.isEmpty_iff.mpr hnil)
    have hcount : 0 < w.selection.length := List.length_pos_iff.mpr hne
    rw [if_neg hempty]
    by_cases hroom : w.topSid + w.selection.length < UInt32.size
    · -- the first identifier is there, and so is the last
      have hsome : w.nextSid? = some (UInt32.ofNat (w.topSid + 1)) := if_pos (by omega)
      have hfirst : (UInt32.ofNat (w.topSid + 1)).toNat = w.topSid + 1 :=
        UInt32.toNat_ofNat_of_lt' (by omega)
      have hlast : ¬ UInt32.size ≤ w.topSid + 1 + (w.selection.length - 1) := by omega
      simp only [hsome, hfirst, hlast, if_false, EStateM.run_bind, run_mapM_copyRule h.selected,
        Workspace.duplicate_of_room hne hroom]
      rfl
    · rw [Workspace.duplicate_of_exhausted hne (Nat.le_of_not_lt hroom)]
      by_cases hnext : w.topSid + 1 < UInt32.size
      · -- the identifiers run out behind the first
        have hsome : w.nextSid? = some (UInt32.ofNat (w.topSid + 1)) := if_pos hnext
        have hfirst : (UInt32.ofNat (w.topSid + 1)).toNat = w.topSid + 1 :=
          UInt32.toNat_ofNat_of_lt' hnext
        have hlast : UInt32.size ≤ w.topSid + 1 + (w.selection.length - 1) := by omega
        simp only [hsome, hfirst, hlast, if_true]
        rfl
      · have hnone : w.nextSid? = none := if_neg hnext
        simp only [hnone]
        rfl

theorem run_deleteSelected (h : w.IsSound) :
    deleteSelected.run w = settled w (w.perform .deleteSelected) := by
  rw [deleteSelected, run_get_bind, Workspace.perform, Workspace.deleteSelected]
  by_cases hempty : w.selection.isEmpty
  · rw [if_pos hempty, if_pos hempty]
    rfl
  · rw [if_neg hempty, if_neg hempty]
    simp only [EStateM.run_bind, run_forM_removeRule h.ascending h.selected]
    rfl

theorem run_showPreview (i : Nat) :
    (showPreview i).run w = settled w (w.perform (.showPreview i)) := by
  rw [showPreview, run_get_bind, Workspace.perform, Workspace.showPreview, Workspace.get]
  cases w.rules[i]? with
  | none => rfl
  | some r => rfl

end InPlace

variable {w : Workspace}

/-- In a workspace whose positions are in range, the steps of a command do what the command does at
once. -/
theorem Command.run_steps (h : w.IsSound) (c : Command) :
    c.steps.run w = InPlace.settled w (w.perform c) := by
  cases c with
  | append r gate => exact InPlace.run_append r gate
  | submit form => exact InPlace.run_submit form
  | extend rules => rfl
  | select indices => exact InPlace.run_select indices
  | toggle i => exact InPlace.run_toggle i
  | selectAll checked => exact InPlace.run_selectAll checked
  | clearSelection => rfl
  | duplicate => exact InPlace.run_duplicate h
  | deleteSelected => exact InPlace.run_deleteSelected h
  | showPreview i => exact InPlace.run_showPreview i

/-! ## Operations -/

/-- An operation takes the steps of a command, or it fails at once, or it looks for the rule to
edit. -/
theorem Operation.steps_cases (o : Operation) :
    (∃ c : Command, o.steps = .answer <$> c.steps) ∨
      (∃ e, o.steps = throw e ∧ ∀ i, e ≠ .outOfRange i) ∨ o = .edit := by
  cases o with
  | command c => exact .inl ⟨c, rfl⟩
  | addTemplate name =>
      cases hfind : Catalog.find? name with
      | some t => exact .inl ⟨.append t.rule .trusted, by simp only [steps, hfind]; rfl⟩
      | none =>
          have hsteps : (addTemplate name).steps = throw (.unknownTemplate name) := by
            simp only [steps, hfind]
          exact .inr (.inl ⟨_, hsteps, fun i hi => by cases hi⟩)
  | addFile format octets =>
      cases himport : importFile format octets with
      | ok imported => exact .inl ⟨.extend imported.rules, by simp only [steps, himport]; rfl⟩
      | error cause =>
          have hsteps : (addFile format octets).steps = throw (.unreadable cause) := by
            simp only [steps, himport]
          exact .inr (.inl ⟨_, hsteps, fun i hi => by cases hi⟩)
  | edit => exact .inr (.inr rfl)

/-- Looking for the rule to edit changes nothing. -/
theorem InPlace.run_editTarget :
    editTarget.run w =
      match w.editTarget with
      | .ok r => .ok r w
      | .error cause => .error (.refused cause) w := by
  rw [editTarget, run_get_bind, Workspace.editTarget]
  rcases w.selection with _ | ⟨i, _ | ⟨j, rest⟩⟩
  · rfl
  · simp only [Workspace.get]
    cases w.rules[i]? with
    | some r => rfl
    | none => rfl
  · rfl

/-- An operation succeeds and leaves what a command leaves or what was there, or it fails for a
reason that its caller can be told and leaves what was there. -/
theorem Operation.run_cases (h : w.IsSound) (o : Operation) :
    (∃ reply w', o.steps.run w = .ok reply w' ∧ (w' = w ∨ ∃ c : Command, w' = w.after c)) ∨
      ∃ e, o.steps.run w = .error e w ∧ ∀ i, e ≠ .outOfRange i := by
  rcases o.steps_cases with ⟨c, hsteps⟩ | ⟨e, hsteps, hrange⟩ | rfl
  · rw [hsteps, InPlace.run_map, c.run_steps h]
    cases hperform : w.perform c with
    | ok result =>
        obtain ⟨a, w'⟩ := result
        exact .inl ⟨.answer a, w', rfl, .inr ⟨c, (Workspace.after_of_ok hperform).symm⟩⟩
    | error cause => exact .inr ⟨.refused cause, rfl, fun i hi => by cases hi⟩
  · exact .inr ⟨e, by rw [hsteps]; rfl, hrange⟩
  · rw [steps, InPlace.run_map, InPlace.run_editTarget]
    cases w.editTarget with
    | ok r => exact .inl ⟨.rule r, w, rfl, .inl rfl⟩
    | error cause => exact .inr ⟨.refused cause, rfl, fun i hi => by cases hi⟩

namespace Workspace

/-- An operation keeps the positions in range, also one that fails. -/
theorem IsSound.left (h : w.IsSound) (o : Operation) : (w.left o).IsSound := by
  unfold Workspace.left
  rcases o.run_cases h with ⟨reply, w', hrun, hleft⟩ | ⟨e, hrun, -⟩
  · rw [hrun]
    rcases hleft with rfl | ⟨c, rfl⟩
    · exact h
    · exact h.after c
  · rw [hrun]
    exact h

theorem isSound_held (operations : List Operation) : (held operations).IsSound := by
  -- by induction on the operations, from any workspace whose positions are in range
  have hrest : ∀ w : Workspace, w.IsSound → (operations.foldl Workspace.left w).IsSound := by
    induction operations with
    | nil => exact fun w h => h
    | cons o rest ih => exact fun w h => ih (w.left o) (h.left o)
  exact hrest empty isSound_empty

/-- A selection is replaced if all its positions are there, and else it is refused. -/
theorem run_select_cases (w : Workspace) (indices : List Nat) :
    ((∀ i ∈ indices, i < w.length) ∧ (Operation.command (.select indices)).steps.run w =
        .ok (.answer .nothing) { w with selection := positionsOf indices }) ∨
      ∃ i ∈ indices, w.length ≤ i ∧ (Operation.command (.select indices)).steps.run w =
        .error (.refused (.position i w.length)) w := by
  have hrun : (Operation.command (.select indices)).steps.run w =
      EStateM.run (Reply.answer <$> InPlace.select indices) w := rfl
  rw [hrun, InPlace.run_map, InPlace.select, EStateM.run_bind, InPlace.run_forM_checkPosition]
  cases hfind : indices.find? (w.length ≤ ·) with
  | some i =>
      have hle : w.length ≤ i := by simpa using List.find?_some hfind
      exact .inr ⟨i, List.mem_of_find?_eq_some hfind, hle, rfl⟩
  | none =>
      refine .inl ⟨?_, rfl⟩
      intro i hi
      simpa using List.find?_eq_none.mp hfind i hi

/-- Whatever was done before, an operation that fails leaves the held workspace as it was, and it
never fails for a position that it has not checked. A selection succeeds exactly if all its
positions are there, and then it is the set of these positions. -/
theorem operations_are_atomic (operations : List Operation) :
    (∀ (o : Operation) (e : OperationError) (w' : Workspace),
        o.steps.run (held operations) = .error e w' →
          w'.rules = (held operations).rules ∧ w'.selection = (held operations).selection ∧
            w'.preview = (held operations).preview ∧ ∀ i, e ≠ .outOfRange i) ∧
      ∀ indices : List Nat,
        ((∃ reply w', (Operation.command (.select indices)).steps.run (held operations) =
            .ok reply w') ↔ ∀ i ∈ indices, i < (held operations).length) ∧
          ∀ reply w', (Operation.command (.select indices)).steps.run (held operations) =
            .ok reply w' →
              (∀ i, i ∈ w'.selection ↔ i ∈ indices) ∧ w'.selection.Pairwise (· < ·) ∧
                w'.rules = (held operations).rules ∧ w'.preview = (held operations).preview := by
  constructor
  · intro o e w' hrun
    rcases o.run_cases (isSound_held operations) with ⟨reply, w₁, hok, -⟩ | ⟨e₁, herror, hrange⟩
    · cases hok.symm.trans hrun
    · cases herror.symm.trans hrun
      exact ⟨rfl, rfl, rfl, hrange⟩
  · intro indices
    rcases (held operations).run_select_cases indices with ⟨hlt, hok⟩ | ⟨i, hi, hle, herror⟩
    · refine ⟨⟨fun _ => hlt, fun _ => ⟨_, _, hok⟩⟩, ?_⟩
      intro reply w' hrun
      cases hok.symm.trans hrun
      exact ⟨fun i => mem_positionsOf, pairwise_positionsOf indices, rfl, rfl⟩
    · constructor
      · constructor
        · rintro ⟨reply, w', hrun⟩
          cases herror.symm.trans hrun
        · intro hlt
          exact absurd (hlt i hi) (Nat.not_lt_of_le hle)
      · intro reply w' hrun
        cases herror.symm.trans hrun

/-- One identifier is left and two rules are selected: they cannot be copied, and a position that is
not there among others that are cannot be selected. -/
theorem operations_are_atomic_last_identifier :
    let operations : List Operation :=
      [.command (.extend [{ message := "One", sid := 4294967294 }, { message := "Two" },
          { message := "Three" }]),
        .command (.select [2, 0]), .command (.showPreview 1)]
    let w := held operations
    (∃ w', (Operation.command .duplicate).steps.run w =
        .error (.refused (.input .sidsExhausted)) w' ∧
          w'.rules = w.rules ∧ w'.selection = [0, 2] ∧ w'.preview = some 1) ∧
      ∃ w', (Operation.command (.select [1, 7, 0])).steps.run w =
        .error (.refused (.position 7 3)) w' ∧
          w'.rules = w.rules ∧ w'.selection = [0, 2] ∧ w'.preview = some 1 := by
  intro operations w
  have hatomic := (operations_are_atomic operations).1
  have hcopy : (Operation.command .duplicate).steps.run w =
      .error (.refused (.input .sidsExhausted)) w := rfl
  have hselect : (Operation.command (.select [1, 7, 0])).steps.run w =
      .error (.refused (.position 7 3)) w := rfl
  have hmarks : w.selection = [0, 2] ∧ w.preview = some 1 := ⟨rfl, rfl⟩
  obtain ⟨hrules, hselection, hpreview, -⟩ := hatomic _ _ _ hcopy
  obtain ⟨hrules', hselection', hpreview', -⟩ := hatomic _ _ _ hselect
  exact ⟨⟨w, hcopy, hrules, hselection.trans hmarks.1, hpreview.trans hmarks.2⟩,
    ⟨w, hselect, hrules', hselection'.trans hmarks.1, hpreview'.trans hmarks.2⟩⟩

end Workspace

end RuleDesk
