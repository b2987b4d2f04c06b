import Mathlib.Data.List.TakeWhile
import Mathlib.Tactic.Common
import RuleDesk.Text.Blank

/-!
# Laws of stripping

Stripping removes the items of one class from both ends of a text and nothing else. A text that
neither begins nor ends with an item of the class is its own stripping, and what stripping removed
can be put back around it without changing the result.
-/

set_option autoImplicit false

namespace RuleDesk.Text

variable {α : Type} {p : α → Bool}

/-- Whether a text neither begins nor ends with an item that satisfies `p`. -/
def hasClearEnds (p : α → Bool) (s : List α) : Bool :=
  s.head?.all (fun c => !p c) && s.getLast?.all (fun c => !p c)

theorem hasClearEnds_iff (s : List α) :
    hasClearEnds p s = true ↔
      (∀ c, s.head? = some c → p c = false) ∧ (∀ c, s.getLast? = some c → p c = false) := by
  unfold hasClearEnds
  cases s.head? <;> cases s.getLast? <;> simp

theorem hasClearEnds_of_forall {s : List α} (h : ∀ c ∈ s, p c = false) :
    hasClearEnds p s = true := by
  refine (hasClearEnds_iff s).mpr ⟨?_, ?_⟩
  · exact fun c hc => h c (List.mem_of_mem_head? hc)
  · exact fun c hc => h c (List.mem_of_mem_getLast? hc)

/-! ## The right end -/

theorem stripRight_append_of_all (s : List α) {t : List α} (h : ∀ c ∈ t, p c = true) :
    stripRight p (s ++ t) = stripRight p s := by
  unfold stripRight
  rw [List.reverse_append, List.dropWhile_append_of_pos (by simpa using h)]

theorem stripRight_eq_self_iff (s : List α) :
    stripRight p s = s ↔ ∀ c, s.getLast? = some c → p c = false := by
  unfold stripRight
  rw [List.getLast?_eq_head?_reverse]
  constructor
  · intro h c hc
    -- what is dropped from the reversed text is dropped from this end
    have hrev : s.reverse.dropWhile p = s.reverse := by
      simpa using congrArg List.reverse h
    have hhead := List.head?_dropWhile_not p s.reverse
    rw [hrev, hc] at hhead
    simpa using hhead
  · intro h
    cases hs : s.reverse with
    | nil =>
        have hnil : s = [] := List.reverse_eq_nil_iff.mp hs
        simp [hnil]
    | cons c rest =>
        have hc : p c = false := h c (by rw [hs]; rfl)
        rw [List.dropWhile_cons_of_neg (by simp [hc]), ← hs, List.reverse_reverse]

/-- Stripping the right end stops at an item that is not of the class. -/
theorem stripRight_append_cons {c : α} (hc : p c = false) (s t : List α) :
    stripRight p (s ++ c :: t) = s ++ c :: stripRight p t := by
  unfold stripRight
  rw [List.reverse_append, List.reverse_cons, List.append_assoc, List.dropWhile_append]
  split
  · next ht =>
      rw [List.isEmpty_iff] at ht
      rw [ht, List.singleton_append, List.dropWhile_cons_of_neg (by simp [hc])]
      simp
  · simp

/-- What stripping the right end removes satisfies `p`. -/
theorem exists_append_stripRight (p : α → Bool) (s : List α) :
    ∃ post, s = stripRight p s ++ post ∧ ∀ c ∈ post, p c = true := by
  refine ⟨(s.reverse.takeWhile p).reverse, ?_, ?_⟩
  · unfold stripRight
    rw [← List.reverse_append, List.takeWhile_append_dropWhile, List.reverse_reverse]
  · intro c hc
    exact List.all_eq_true.mp List.all_takeWhile c (List.mem_reverse.mp hc)

theorem stripRight_sublist (p : α → Bool) (s : List α) : (stripRight p s).Sublist s := by
  obtain ⟨post, hs, -⟩ := exists_append_stripRight p s
  conv_rhs => rw [hs]
  exact List.sublist_append_left _ post

/-! ## Both ends -/

/-- What stripping removes satisfies `p`, and the rest stands as it was. -/
theorem exists_append_strip (p : α → Bool) (s : List α) :
    ∃ pre post, s = pre ++ strip p s ++ post ∧
      (∀ c ∈ pre, p c = true) ∧ ∀ c ∈ post, p c = true := by
  obtain ⟨post, hpost, hall⟩ := exists_append_stripRight p (s.dropWhile p)
  refine ⟨s.takeWhile p, post, ?_, ?_, hall⟩
  · rw [List.append_assoc]
    show s = s.takeWhile p ++ (stripRight p (s.dropWhile p) ++ post)
    rw [← hpost, List.takeWhile_append_dropWhile]
  · exact List.all_eq_true.mp List.all_takeWhile

theorem strip_eq_self_iff (s : List α) : strip p s = s ↔ hasClearEnds p s = true := by
  rw [hasClearEnds_iff]
  constructor
  · intro h
    obtain ⟨post, hpost, -⟩ := exists_append_stripRight p (s.dropWhile p)
    -- dropping the left end cannot have shortened the text, or the result would be shorter
    have hdrop : s.dropWhile p = s := by
      have hle : s.length ≤ (s.dropWhile p).length := by
        conv_lhs => rw [← h]
        rw [hpost, List.length_append]
        exact Nat.le_add_right _ _
      exact (List.dropWhile_suffix p).eq_of_length_le hle
    constructor
    · intro c hc
      have hhead := List.head?_dropWhile_not p s
      rw [hdrop, hc] at hhead
      simpa using hhead
    · apply (stripRight_eq_self_iff s).mp
      unfold strip at h
      rwa [hdrop] at h
  · rintro ⟨hhead, hlast⟩
    have hdrop : s.dropWhile p = s := by
      cases s with
      | nil => rfl
      | cons c rest => exact List.dropWhile_cons_of_neg (by simp [hhead c rfl])
    unfold strip
    rw [hdrop]
    exact (stripRight_eq_self_iff s).mpr hlast

theorem strip_append_of_all {a b : List α} (s : List α) (ha : ∀ c ∈ a, p c = true)
    (hb : ∀ c ∈ b, p c = true) : strip p (a ++ s ++ b) = strip p s := by
  unfold strip
  rw [List.append_assoc, List.dropWhile_append_of_pos ha, List.dropWhile_append]
  split
  · -- nothing is left of `s`, so what is left of `b` goes the same way
    next hs =>
      rw [List.isEmpty_iff] at hs
      rw [hs, List.dropWhile_eq_nil_iff.mpr hb]
  · exact stripRight_append_of_all _ hb

theorem strip_stripRight (p : α → Bool) (s : List α) : strip p (stripRight p s) = strip p s := by
  obtain ⟨post, hs, hpost⟩ := exists_append_stripRight p s
  have h := strip_append_of_all (a := []) (stripRight p s) (by simp) hpost
  rw [List.nil_append, ← hs] at h
  exact h.symm

/-- Stripping keeps every item that is not of the class. -/
theorem count_strip [BEq α] [LawfulBEq α] {x : α} (hx : p x = false) (s : List α) :
    (strip p s).count x = s.count x := by
  obtain ⟨pre, post, hs, hpre, hpost⟩ := exists_append_strip p s
  have hzero : ∀ t : List α, (∀ c ∈ t, p c = true) → t.count x = 0 := by
    intro t ht
    apply List.count_eq_zero.mpr
    intro hmem
    rw [ht x hmem] at hx
    exact Bool.noConfusion hx
  conv_rhs => rw [hs]
  rw [List.count_append, List.count_append, hzero pre hpre, hzero post hpost]
  omega

theorem isInfix_strip (p : α → Bool) (s : List α) : strip p s <:+: s := by
  obtain ⟨pre, post, hs, -, -⟩ := exists_append_strip p s
  exact ⟨pre, post, hs.symm⟩

theorem strip_sublist (p : α → Bool) (s : List α) : (strip p s).Sublist s :=
  (isInfix_strip p s).sublist

/-- What stripping does not shorten it does not change. -/
theorem strip_eq_self_of_length_le {s : List α} (h : s.length ≤ (strip p s).length) :
    strip p s = s :=
  (strip_sublist p s).eq_of_length_le h

theorem hasClearEnds_strip (p : α → Bool) (s : List α) : hasClearEnds p (strip p s) = true := by
  obtain ⟨post, hpost, -⟩ := exists_append_stripRight p (s.dropWhile p)
  refine (hasClearEnds_iff _).mpr ⟨?_, ?_⟩
  · intro c hc
    -- what is left begins where dropping the left end stopped
    have hhead : (s.dropWhile p).head? = some c := by
      rw [hpost, List.head?_append, show (stripRight p (s.dropWhile p)).head? = some c from hc]
      rfl
    have hnot := List.head?_dropWhile_not p s
    rw [hhead] at hnot
    simpa using hnot
  · intro c hc
    have hnot := List.head?_dropWhile_not p (s.dropWhile p).reverse
    rw [strip, stripRight, List.getLast?_reverse] at hc
    rw [hc] at hnot
    simpa using hnot

theorem strip_strip (p : α → Bool) (s : List α) : strip p (strip p s) = strip p s :=
  (strip_eq_self_iff _).mpr (hasClearEnds_strip p s)

/-- Nothing is left of a text exactly if all of it is of the class. -/
theorem strip_eq_nil_iff (s : List α) : strip p s = [] ↔ ∀ c ∈ s, p c = true := by
  constructor
  · intro h
    obtain ⟨pre, post, hs, hpre, hpost⟩ := exists_append_strip p s
    rw [h, List.append_nil] at hs
    intro c hc
    rw [hs] at hc
    rcases List.mem_append.mp hc with hc | hc
    · exact hpre c hc
    · exact hpost c hc
  · intro h
    rw [strip, List.dropWhile_eq_nil_iff.mpr h]
    rfl

/-- What is left of a text when the items of a class are taken from its ends: nothing else is taken,
and none of them is at an end any more. -/
structure IsStripOf (p : α → Bool) (s t : List α) : Prop where
  around : ∃ pre post, s = pre ++ t ++ post ∧ (∀ c ∈ pre, p c = true) ∧ ∀ c ∈ post, p c = true
  clear : hasClearEnds p t = true

/-- Stripping leaves what is left, and nothing else can be. -/
theorem isStripOf_iff {s t : List α} : IsStripOf p s t ↔ t = strip p s := by
  constructor
  · rintro ⟨⟨pre, post, rfl, hpre, hpost⟩, hclear⟩
    rw [strip_append_of_all t hpre hpost, (strip_eq_self_iff t).mpr hclear]
  · rintro rfl
    exact ⟨exists_append_strip p s, hasClearEnds_strip p s⟩

theorem hasClearEnds_or (p q : α → Bool) (s : List α) :
    hasClearEnds (fun c => p c || q c) s = (hasClearEnds p s && hasClearEnds q s) := by
  unfold hasClearEnds
  cases s.head? with
  | none => cases s.getLast? <;> simp
  | some a =>
      cases s.getLast? with
      | none => simp
      | some b => cases hpa : p a <;> cases hqa : q a <;> cases hpb : p b <;> simp [hpa, hqa, hpb]

end RuleDesk.Text
