import RuleDesk.Proofs.Text.Splitting
import RuleDesk.Proofs.Workspace.Atomicity

/-!
# What a deletion leaves

The selected rules are removed one after the other, the last one first. Each removal moves the rules
behind it, so what a later removal meets depends on those before it. Here it is shown that in the end
no rule is missed and none is removed in place of another: what is left are the rules at the
positions that were not selected, in their order (`removeAt_eq_keptFrom`).

The order of the removals carries this. The positions that are still to be removed lie before those
that were removed already, and the rules that stand there have not moved.
-/

set_option autoImplicit false

namespace RuleDesk.Workspace

open RuleDesk.Text

/-! ## Rules by position -/

/-- The rules at the positions that are not listed, in their order. The first rule stands at the
position `start`. -/
def keptFrom (start : Nat) (rules : List Rule) (positions : List Nat) : List Rule :=
  ((rules.zipIdx start).filter fun p => !positions.contains p.2).map (·.1)

/-- The rules at the positions that are not selected, in their order. -/
def unselected (w : Workspace) : List Rule :=
  keptFrom 0 w.rules w.selection

theorem keptFrom_append (start : Nat) (front back : List Rule) (positions : List Nat) :
    keptFrom start (front ++ back) positions =
      keptFrom start front positions ++ keptFrom (start + front.length) back positions := by
  unfold keptFrom
  rw [List.zipIdx_append, List.filter_append, List.map_append]

/-- Where no position is listed, all rules are kept. -/
theorem keptFrom_of_forall_not_mem {start : Nat} {rules : List Rule} {positions : List Nat}
    (h : ∀ i ∈ positions, i < start ∨ start + rules.length ≤ i) :
    keptFrom start rules positions = rules := by
  unfold keptFrom
  have hall : (rules.zipIdx start).filter (fun p => !positions.contains p.2) =
      rules.zipIdx start := by
    apply List.filter_eq_self.mpr
    intro p hp
    obtain ⟨hle, hlt, -⟩ := List.mem_zipIdx hp
    rw [Bool.not_eq_true', Bool.eq_false_iff]
    intro hmem
    rcases h p.2 (List.contains_iff_mem.mp hmem) with hbefore | hbehind
    · omega
    · omega
  rw [hall, List.zipIdx_map_fst]

/-- A position before all rules takes none of them away. -/
theorem keptFrom_cons_of_lt {i start : Nat} (h : i < start) (rules : List Rule)
    (positions : List Nat) : keptFrom start rules (i :: positions) =
      keptFrom start rules positions := by
  unfold keptFrom
  congr 1
  apply List.filter_congr
  intro p hp
  obtain ⟨hle, -, -⟩ := List.mem_zipIdx hp
  have hne : (p.2 == i) = false := beq_eq_false_iff_ne.mpr (by omega)
  rw [List.contains_cons, hne, Bool.false_or]

/-- A listed position takes its rule away, and the rules around it are kept as without it. -/
theorem keptFrom_append_cons {front : List Rule} {rest : List Nat}
    (hrest : ∀ j ∈ rest, front.length < j) (r : Rule) (back : List Rule) :
    keptFrom 0 (front ++ r :: back) rest =
        front ++ r :: keptFrom (front.length + 1) back rest ∧
      keptFrom 0 (front ++ r :: back) (front.length :: rest) =
        front ++ keptFrom (front.length + 1) back rest := by
  have hsplit : front ++ r :: back = front ++ [r] ++ back := List.append_cons front r back
  have hlength : 0 + (front ++ [r]).length = front.length + 1 := by simp
  constructor
  · have hkept : keptFrom 0 (front ++ [r]) rest = front ++ [r] := by
      apply keptFrom_of_forall_not_mem
      intro j hj
      have hbehind := hrest j hj
      omega
    rw [hsplit, keptFrom_append, hlength, hkept, List.append_assoc]
    rfl
  · have hkept : keptFrom 0 front (front.length :: rest) = front := by
      apply keptFrom_of_forall_not_mem
      intro j hj
      rcases List.mem_cons.mp hj with rfl | hj
      · exact .inr (Nat.le_of_eq (Nat.zero_add _))
      · have hbehind := hrest j hj
        omega
    have hgone : keptFrom (0 + front.length) [r] (front.length :: rest) = [] := by
      simp [keptFrom]
    rw [hsplit, keptFrom_append, keptFrom_append, hlength, hkept, hgone, List.append_nil,
      keptFrom_cons_of_lt (Nat.lt_succ_self _)]

/-! ## Removals -/

/-- Removing the rules at ascending positions, the last one first, leaves the rules at the other
positions. -/
theorem removeAt_eq_keptFrom {rules : List Rule} {positions : List Nat}
    (h : positions.Pairwise (· < ·)) (hlt : ∀ i ∈ positions, i < rules.length) :
    removeAt rules positions = keptFrom 0 rules positions := by
  -- by induction on the positions: the first of them is removed last
  induction positions with
  | nil => exact (keptFrom_of_forall_not_mem fun i hi => absurd hi List.not_mem_nil).symm
  | cons i rest ih =>
      obtain ⟨hi, hrest⟩ := List.pairwise_cons.mp h
      have hkept := ih hrest fun j hj => hlt j (List.mem_cons_of_mem i hj)
      obtain ⟨r, hr⟩ : ∃ r, rules[i]? = some r :=
        ⟨_, List.getElem?_eq_getElem (hlt i List.mem_cons_self)⟩
      obtain ⟨front, back, rfl, rfl⟩ := exists_append_of_getElem? hr
      -- all removals before were behind this position, so its rule still stands there
      obtain ⟨hbefore, hafter⟩ := keptFrom_append_cons hi r back
      calc removeAt (front ++ r :: back) (front.length :: rest)
          = (removeAt (front ++ r :: back) rest).eraseIdx front.length := rfl
        _ = (front ++ r :: keptFrom (front.length + 1) back rest).eraseIdx front.length := by
            rw [hkept, hbefore]
        _ = front ++ keptFrom (front.length + 1) back rest := by
            rw [List.eraseIdx_append_of_length_le (Nat.le_refl _), Nat.sub_self]
            rfl
        _ = keptFrom 0 (front ++ r :: back) (front.length :: rest) := hafter.symm

variable {w : Workspace}

/-- The rules that are kept and the selected positions together are as many as there were rules. -/
theorem IsSound.length_unselected (h : w.IsSound) :
    w.unselected.length + w.selection.length = w.length := by
  have hkept : (removeAt w.rules w.selection).length = w.rules.length - w.selection.length :=
    length_removeAt h.ascending h.selected
  rw [removeAt_eq_keptFrom h.ascending h.selected] at hkept
  have hle : w.selection.length ≤ w.rules.length := by
    cases hselection : w.selection with
    | nil => exact Nat.zero_le _
    | cons i rest =>
        have hroom := add_length_lt_of_pairwise (hselection ▸ h.ascending) (hselection ▸ h.selected)
        rw [List.length_cons]
        exact Nat.lt_of_le_of_lt (Nat.le_add_left _ i) hroom
  unfold unselected Workspace.length
  omega

/-- Whatever was done before, a deletion with a selection that is not empty succeeds. It answers how
many positions are selected and leaves exactly the rules at the other positions, each once and in
their order, with nothing selected and no preview. Taking the rules away one after the other in the
held workspace comes to the same and never meets a position that is not there. -/
theorem deleteSelected_keeps_unselected (operations : List Operation)
    (hne : (held operations).selection ≠ []) :
    let w := held operations
    let w' : Workspace := { rules := w.unselected, selection := [], preview := none }
    w.deleteSelected = .ok (w.selection.length, w') ∧
      InPlace.deleteSelected.run w = .ok (.count w.selection.length) w' ∧
      w.selection.Nodup ∧ w'.length + w.selection.length = w.length := by
  intro w w'
  have hsound : w.IsSound := isSound_held operations
  have hselected : ¬ w.selection.isEmpty := fun h => hne (List.isEmpty_iff.mp h)
  have hdelete : w.deleteSelected = .ok (w.selection.length, w') := by
    rw [deleteSelected, if_neg hselected,
      removeAt_eq_keptFrom hsound.ascending hsound.selected]
    rfl
  refine ⟨hdelete, ?_, ?_, hsound.length_unselected⟩
  · rw [InPlace.run_deleteSelected hsound, perform, hdelete]
    rfl
  · exact hsound.ascending.imp Nat.ne_of_lt

/-- Of five rules the first and the last two are selected, in another order and one of them twice;
the previewed rule is kept, and its preview is not. -/
theorem deleteSelected_keeps_unselected_scattered :
    let w := held
      [.command (.extend [{ message := "Ping" }, { message := "Scan" }, { message := "Login" },
        { message := "Probe" }, { message := "Shell" }]),
        .command (.showPreview 2), .command (.select [4, 0, 3, 4])]
    let w' : Workspace :=
      { rules := [{ message := "Scan" }, { message := "Login" }], selection := [], preview := none }
    w.deleteSelected = .ok (3, w') ∧ InPlace.deleteSelected.run w = .ok (.count 3) w' := by
  intro w w'
  have hne : w.selection ≠ [] := List.cons_ne_nil 0 [3, 4]
  obtain ⟨hdelete, hsteps, -, -⟩ := deleteSelected_keeps_unselected
    [.command (.extend [{ message := "Ping" }, { message := "Scan" }, { message := "Login" },
      { message := "Probe" }, { message := "Shell" }]),
      .command (.showPreview 2), .command (.select [4, 0, 3, 4])] hne
  exact ⟨hdelete, hsteps⟩

end RuleDesk.Workspace
