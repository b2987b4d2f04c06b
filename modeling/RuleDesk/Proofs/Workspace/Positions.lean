import Mathlib.Tactic.Common
import RuleDesk.Workspace.Basic

/-!
# Positions

A selection is kept ascending and without repetitions, whatever the order in which its positions
were given. So the rules at its positions can be removed one after the other, the last one first:
each position still is one of the list when its turn comes.
-/

set_option autoImplicit false

namespace RuleDesk

open Workspace

/-! ## Selections -/

theorem mem_insertPosition {i j : Nat} {positions : List Nat} :
    j ∈ insertPosition i positions ↔ j = i ∨ j ∈ positions := by
  induction positions with
  | nil => simp [insertPosition]
  | cons k rest ih =>
      unfold insertPosition
      split
      · simp
      · split
        · next hik =>
            subst hik
            simp
        · rw [List.mem_cons, ih, List.mem_cons]
          exact or_left_comm

theorem pairwise_insertPosition (i : Nat) {positions : List Nat}
    (h : positions.Pairwise (· < ·)) : (insertPosition i positions).Pairwise (· < ·) := by
  induction positions with
  | nil => simp [insertPosition]
  | cons k rest ih =>
      obtain ⟨hk, hrest⟩ := List.pairwise_cons.mp h
      unfold insertPosition
      split
      · next hik =>
          refine List.pairwise_cons.mpr ⟨?_, h⟩
          intro j hj
          rcases List.mem_cons.mp hj with rfl | hj
          · exact hik
          · exact Nat.lt_trans hik (hk j hj)
      · split
        · exact h
        · refine List.pairwise_cons.mpr ⟨?_, ih hrest⟩
          intro j hj
          rcases mem_insertPosition.mp hj with rfl | hj
          · omega
          · exact hk j hj

theorem mem_positionsOf {i : Nat} {indices : List Nat} :
    i ∈ positionsOf indices ↔ i ∈ indices := by
  have hstart : ∀ start : List Nat,
      i ∈ indices.foldl (fun positions j => insertPosition j positions) start ↔
        i ∈ start ∨ i ∈ indices := by
    induction indices with
    | nil => simp
    | cons j rest ih =>
        intro start
        rw [List.foldl_cons, ih, mem_insertPosition, List.mem_cons, or_assoc, or_left_comm]
  rw [positionsOf, hstart]
  simp

theorem pairwise_positionsOf (indices : List Nat) : (positionsOf indices).Pairwise (· < ·) := by
  have hstart : ∀ start : List Nat, start.Pairwise (· < ·) →
      (indices.foldl (fun positions j => insertPosition j positions) start).Pairwise (· < ·) := by
    induction indices with
    | nil => exact fun start h => h
    | cons j rest ih => exact fun start h => ih _ (pairwise_insertPosition j h)
  exact hstart [] List.Pairwise.nil

/-! ## Removals -/

/-- Ascending positions leave room for each other. -/
theorem add_length_lt_of_pairwise {i n : Nat} {positions : List Nat}
    (h : (i :: positions).Pairwise (· < ·)) (hlt : ∀ j ∈ i :: positions, j < n) :
    i + positions.length < n := by
  induction positions generalizing i with
  | nil => exact hlt i List.mem_cons_self
  | cons j rest ih =>
      obtain ⟨hi, hrest⟩ := List.pairwise_cons.mp h
      have hij := hi j List.mem_cons_self
      have hj := ih hrest fun k hk => hlt k (List.mem_cons_of_mem i hk)
      rw [List.length_cons]
      omega

/-- Each position takes one rule away. -/
theorem length_removeAt {rules : List Rule} {positions : List Nat}
    (h : positions.Pairwise (· < ·)) (hlt : ∀ i ∈ positions, i < rules.length) :
    (removeAt rules positions).length = rules.length - positions.length := by
  induction positions with
  | nil => rfl
  | cons i rest ih =>
      have hrest := ih (List.pairwise_cons.mp h).2 fun j hj => hlt j (List.mem_cons_of_mem i hj)
      have hroom := add_length_lt_of_pairwise h hlt
      show ((removeAt rules rest).eraseIdx i).length = _
      rw [List.length_eraseIdx_of_lt (by omega), hrest, List.length_cons]
      omega

/-- No removal is out of range: the positions behind one are removed before it and leave it. -/
theorem lt_length_removeAt {rules : List Rule} {front back : List Nat} {i : Nat}
    (h : (front ++ i :: back).Pairwise (· < ·))
    (hlt : ∀ j ∈ front ++ i :: back, j < rules.length) : i < (removeAt rules back).length := by
  have htail : (i :: back).Pairwise (· < ·) := (List.pairwise_append.mp h).2.1
  have hlt' : ∀ j ∈ i :: back, j < rules.length :=
    fun j hj => hlt j (List.mem_append_right front hj)
  have hroom := add_length_lt_of_pairwise htail hlt'
  rw [length_removeAt (List.pairwise_cons.mp htail).2
    fun j hj => hlt' j (List.mem_cons_of_mem i hj)]
  omega

end RuleDesk
