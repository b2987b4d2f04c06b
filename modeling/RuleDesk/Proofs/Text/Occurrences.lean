import Mathlib.Algebra.Ring.Nat
import Mathlib.Tactic.Common
import RuleDesk.Text.Pieces

/-!
# Occurrences of a pattern

How often a pattern stands in a text. Occurrences cannot straddle a character that the pattern does
not hold, so they add up over the pieces of a text that is cut at such a character; in general the
occurrences in two texts are among those in their concatenation.
-/

set_option autoImplicit false

namespace RuleDesk.Text

/-- How often a pattern stands in a text, overlaps counted. -/
def occurrences (pattern : List Char) : List Char → Nat
  | [] => 0
  | c :: rest => (if pattern.isPrefixOf (c :: rest) then 1 else 0) + occurrences pattern rest

variable {pattern : List Char}

theorem isPrefixOf_append_cons {x : Char} (hx : x ∉ pattern) (s t : List Char) :
    pattern.isPrefixOf (s ++ x :: t) = pattern.isPrefixOf s := by
  induction pattern generalizing s with
  | nil => simp
  | cons a pattern ih =>
      cases s with
      | nil =>
          have hax : (a == x) = false :=
            beq_eq_false_iff_ne.mpr fun h => hx (h ▸ List.mem_cons_self)
          simp [List.isPrefixOf, hax]
      | cons b s =>
          have hrest := ih (fun h => hx (List.mem_cons_of_mem _ h)) s
          simp only [List.cons_append, List.isPrefixOf, hrest]

/-- A character that the pattern does not hold separates its occurrences. -/
theorem occurrences_append_cons (hne : pattern ≠ []) {x : Char} (hx : x ∉ pattern)
    (s t : List Char) :
    occurrences pattern (s ++ x :: t) = occurrences pattern s + occurrences pattern t := by
  induction s with
  | nil =>
      have hfalse : pattern.isPrefixOf (x :: t) = false := by
        have h := isPrefixOf_append_cons hx [] t
        rw [List.nil_append] at h
        rw [h]
        cases pattern with
        | nil => exact absurd rfl hne
        | cons a pattern => rfl
      simp [occurrences, hfalse]
  | cons c s ih =>
      have hprefix := isPrefixOf_append_cons hx (c :: s) t
      rw [List.cons_append] at hprefix
      rw [List.cons_append, occurrences, occurrences, hprefix, ih, Nat.add_assoc]

theorem occurrences_joined (hne : pattern ≠ []) {sep : Char} (hsep : sep ∉ pattern)
    (ps : List (List Char)) :
    occurrences pattern (joined [sep] ps) = (ps.map (occurrences pattern)).sum := by
  induction ps with
  | nil => rfl
  | cons piece ps ih =>
      cases ps with
      | nil => simp [joined]
      | cons next rest =>
          show occurrences pattern (piece ++ [sep] ++ joined [sep] (next :: rest)) = _
          rw [List.append_assoc, List.singleton_append, occurrences_append_cons hne hsep, ih]
          rfl

theorem add_occurrences_le_append (pattern s t : List Char) :
    occurrences pattern s + occurrences pattern t ≤ occurrences pattern (s ++ t) := by
  induction s with
  | nil => simp [occurrences]
  | cons c s ih =>
      rw [List.cons_append, occurrences, occurrences]
      have hprefix : (if pattern.isPrefixOf (c :: s) then 1 else 0) ≤
          (if pattern.isPrefixOf (c :: (s ++ t)) then 1 else 0 : Nat) := by
        -- a pattern that begins the shorter text begins the longer one
        split
        · next h =>
            have hst : pattern.isPrefixOf (c :: (s ++ t)) = true :=
              List.isPrefixOf_iff_prefix.mpr
                ((List.isPrefixOf_iff_prefix.mp h).trans (List.prefix_append (c :: s) t))
            simp [hst]
        · exact Nat.zero_le _
      omega

theorem occurrences_le_of_isInfix {s t : List Char} (h : s <:+: t) :
    occurrences pattern s ≤ occurrences pattern t := by
  obtain ⟨front, back, rfl⟩ := h
  have hfront := add_occurrences_le_append pattern front s
  have hback := add_occurrences_le_append pattern (front ++ s) back
  omega

theorem one_le_occurrences_self (hne : pattern ≠ []) : 1 ≤ occurrences pattern pattern := by
  cases pattern with
  | nil => exact absurd rfl hne
  | cons a rest =>
      have h : (a :: rest).isPrefixOf (a :: rest) = true :=
        List.isPrefixOf_iff_prefix.mpr List.prefix_rfl
      rw [occurrences, if_pos h]
      omega

theorem occurrences_eq_zero {x : Char} (hx : x ∈ pattern) {s : List Char} (hs : x ∉ s) :
    occurrences pattern s = 0 := by
  induction s with
  | nil => rfl
  | cons c s ih =>
      have hfalse : pattern.isPrefixOf (c :: s) ≠ true := fun h =>
        hs ((List.isPrefixOf_iff_prefix.mp h).subset hx)
      rw [occurrences, if_neg hfalse, ih fun h => hs (List.mem_cons_of_mem _ h)]

end RuleDesk.Text
