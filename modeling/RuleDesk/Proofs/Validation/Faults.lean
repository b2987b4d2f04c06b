import Mathlib.Tactic.Common
import RuleDesk.Validation.Report

/-!
# Faults of a report

A report lists the faults that its checks find, one check after the other. A rule is valid if no
check finds one, and a fault that is listed is one of a known check.
-/

set_option autoImplicit false

namespace RuleDesk.Validation

theorem onlyIf_eq_nil_iff {α : Type} {condition : Bool} {finding : α} :
    onlyIf condition finding = [] ↔ condition = false := by
  cases condition with
  | false => exact iff_of_true rfl rfl
  | true => exact iff_of_false (List.cons_ne_nil _ _) (by decide)

theorem mem_onlyIf {α : Type} {condition : Bool} {finding a : α} :
    a ∈ onlyIf condition finding ↔ condition = true ∧ a = finding := by
  cases condition with
  | false => simp [onlyIf]
  | true => simp [onlyIf]

/-- A message is missing, or it holds what a message must not hold. -/
theorem eq_of_mem_messageFaults {r : Rule} {fault : Fault} (h : fault ∈ messageFaults r) :
    fault = .noMessage ∨ fault = .messageCharacters := by
  simp only [messageFaults] at h
  split at h
  · exact .inl (List.mem_singleton.mp h)
  · split at h
    · exact absurd h List.not_mem_nil
    · exact .inr (mem_onlyIf.mp h).2

/-! ## Checks -/

/-- The checks of a report. -/
inductive Check where
  | network
  | message
  | identity
  | content
  | flow
  | pattern
  | threshold
  deriving DecidableEq, Repr

namespace Check

/-- The checks in the order in which a report lists what they find. -/
def all : List Check :=
  [.network, .message, .identity, .content, .flow, .pattern, .threshold]

theorem mem_all (k : Check) : k ∈ all := by
  cases k <;> decide

/-- The faults that a check finds. -/
def faults (r : Rule) : Check → List Fault
  | .network => networkFaults r
  | .message => messageFaults r
  | .identity => identityFaults r
  | .content => contentFaults r
  | .flow => flowFaults r
  | .pattern => patternFaults r
  | .threshold => thresholdFaults r

end Check

/-- The check that finds faults of this kind. -/
def Fault.check : Fault → Check
  | .address _ _ | .port _ _ => .network
  | .noMessage | .messageCharacters => .message
  | .noSid | .noRevision => .identity
  | .oddHex _ | .nonHex _ | .depthWithoutContent | .offsetWithoutContent => .content
  | .flowWord _ => .flow
  | .patternFormat => .pattern
  | .thresholdTrack | .thresholdCount | .thresholdSeconds => .threshold

theorem check_of_mem_onlyIf {condition : Bool} {finding fault : Fault}
    (h : fault ∈ onlyIf condition finding) : fault.check = finding.check :=
  congrArg Fault.check (mem_onlyIf.mp h).2

theorem check_of_mem_blockFaults {block : List Char} {fault : Fault}
    (h : fault ∈ blockFaults block) : fault.check = .content := by
  rcases List.mem_append.mp h with h | h
  · exact check_of_mem_onlyIf h
  · exact check_of_mem_onlyIf h

/-- A check finds faults of its own kinds only. -/
theorem Check.check_of_mem {r : Rule} {k : Check} {fault : Fault} (h : fault ∈ k.faults r) :
    fault.check = k := by
  cases k with
  | network =>
      simp only [faults, networkFaults, List.mem_append] at h
      rcases h with ((h | h) | h) | h <;> exact check_of_mem_onlyIf h
  | message =>
      rcases eq_of_mem_messageFaults h with rfl | rfl <;> rfl
  | identity =>
      rcases List.mem_append.mp h with h | h <;> exact check_of_mem_onlyIf h
  | content =>
      simp only [faults, contentFaults, List.mem_append, List.mem_flatMap] at h
      rcases h with (⟨block, -, h⟩ | h) | h
      · exact check_of_mem_blockFaults h
      · exact check_of_mem_onlyIf h
      · exact check_of_mem_onlyIf h
  | flow =>
      obtain ⟨word, -, rfl⟩ := List.mem_map.mp h
      rfl
  | pattern => exact check_of_mem_onlyIf h
  | threshold =>
      simp only [faults, thresholdFaults] at h
      split at h
      · exact absurd h List.not_mem_nil
      · simp only [List.mem_append] at h
        rcases h with (h | h) | h <;> exact check_of_mem_onlyIf h

theorem faults_eq_flatMap (r : Rule) :
    (report r).faults = Check.all.flatMap fun k => k.faults r := by
  simp only [report, Check.all, Check.faults, List.flatMap_cons, List.flatMap_nil,
    List.append_nil, List.append_assoc]

/-- A fault is listed exactly if the check of its kind finds it. -/
theorem mem_faults_iff (r : Rule) (fault : Fault) :
    fault ∈ (report r).faults ↔ fault ∈ fault.check.faults r := by
  rw [faults_eq_flatMap, List.mem_flatMap]
  constructor
  · rintro ⟨k, -, h⟩
    rw [k.check_of_mem h]
    exact h
  · intro h
    exact ⟨fault.check, fault.check.mem_all, h⟩

/-- Keeping the faults of some checks is the same as making these checks only. -/
theorem filter_faults (r : Rule) (p : Check → Bool) :
    (report r).faults.filter (fun fault => p fault.check) =
      (Check.all.filter p).flatMap fun k => k.faults r := by
  rw [faults_eq_flatMap]
  -- what one check finds is of one kind, so it is kept or dropped as a whole
  induction Check.all with
  | nil => rfl
  | cons k ks ih =>
      rw [List.flatMap_cons, List.filter_append, ih]
      cases hk : p k with
      | true =>
          have hkeep : (k.faults r).filter (fun fault => p fault.check) = k.faults r := by
            apply List.filter_eq_self.mpr
            intro fault hfault
            rw [k.check_of_mem hfault, hk]
          rw [hkeep, List.filter_cons_of_pos hk, List.flatMap_cons]
      | false =>
          have hdrop : (k.faults r).filter (fun fault => p fault.check) = [] := by
            apply List.filter_eq_nil_iff.mpr
            intro fault hfault
            rw [k.check_of_mem hfault, hk]
            exact Bool.false_ne_true
          rw [hdrop, List.filter_cons_of_neg (by simp [hk]), List.nil_append]

/-! ## Valid rules -/

/-- A rule is valid if no check finds a fault. -/
theorem isValid_iff (r : Rule) :
    (report r).isValid = true ↔ ∀ k : Check, k.faults r = [] := by
  rw [Report.isValid, List.isEmpty_iff, faults_eq_flatMap, List.flatMap_eq_nil_iff]
  constructor
  · intro h k
    exact h k k.mem_all
  · intro h k _
    exact h k

end RuleDesk.Validation
