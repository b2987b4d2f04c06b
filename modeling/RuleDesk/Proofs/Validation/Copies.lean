import RuleDesk.Proofs.Validation.Faults
import RuleDesk.Proofs.Workspace.Allocation

/-!
# Copies of valid rules

A copy differs from its rule in the identifier and in the words that end its message. The identifier
of a copy is never zero, so only the check of the message can tell the two apart. That check does not
look at the characters of a short message, and the message of a copy is not short any more. So a
copy has a fault that its rule does not have exactly if the message of the rule is short and holds a
character that messages must not hold.
-/

set_option autoImplicit false

namespace RuleDesk.Validation

/-! ## The check of the message -/

/-- A message passes if it is there and is either short or holds no quote and no semicolon. -/
theorem messageFaults_eq_nil_iff (r : Rule) :
    messageFaults r = [] ↔ r.message.toList ≠ [] ∧
      (r.message.toList.length < shortMessageLength ∨
        '"' ∉ r.message.toList ∧ ';' ∉ r.message.toList) := by
  unfold messageFaults
  by_cases hempty : r.message.toList = []
  · simp [hempty]
  · by_cases hshort : r.message.toList.length < shortMessageLength
    · simp [hempty, hshort]
    · simp [hempty, hshort, onlyIf_eq_nil_iff]

/-- The message of a copy is never short, so its characters are always looked at. -/
theorem messageFaults_copyOf_eq_nil_iff (r : Rule) (sid : UInt32) :
    messageFaults (Workspace.copyOf r sid) = [] ↔
      '"' ∉ r.message.toList ∧ ';' ∉ r.message.toList := by
  have hmessage : (Workspace.copyOf r sid).message.toList = r.message.toList ++ " (copy)".toList :=
    String.toList_append
  have hlength : ¬ (r.message.toList ++ " (copy)".toList).length < shortMessageLength := by
    have hsuffix : " (copy)".toList.length = 7 := by decide
    have hshort : shortMessageLength = 5 := rfl
    rw [List.length_append]
    omega
  have hsuffix : '"' ∉ " (copy)".toList ∧ ';' ∉ " (copy)".toList := by decide
  rw [messageFaults_eq_nil_iff, hmessage, List.mem_append, List.mem_append,
    or_iff_left hsuffix.1, or_iff_left hsuffix.2, or_iff_right hlength]
  apply and_iff_right
  intro hempty
  exact absurd (List.append_eq_nil_iff.mp hempty).2 (by decide)

/-! ## Copies -/

/-- Under an identifier that is not zero, the copy of a valid rule is valid unless the message of
the rule is short and holds a quote or a semicolon. -/
theorem isValid_copyOf_iff {r : Rule} {sid : UInt32} (hsid : sid ≠ 0)
    (hvalid : (report r).isValid = true) :
    (report (Workspace.copyOf r sid)).isValid = true ↔
      ¬ (r.message.toList.length < shortMessageLength ∧
        ('"' ∈ r.message.toList ∨ ';' ∈ r.message.toList)) := by
  have hnone := (isValid_iff r).mp hvalid
  rw [isValid_iff]
  constructor
  · rintro h ⟨-, hmem⟩
    have hclean := (messageFaults_copyOf_eq_nil_iff r sid).mp (h .message)
    exact not_or.mpr hclean hmem
  · intro hexcept k
    cases k with
    | message =>
        apply (messageFaults_copyOf_eq_nil_iff r sid).mpr
        rcases ((messageFaults_eq_nil_iff r).mp (hnone .message)).2 with hshort | hclean
        · exact not_or.mp fun hmem => hexcept ⟨hshort, hmem⟩
        · exact hclean
    | identity =>
        have hrevision := (List.append_eq_nil_iff.mp (hnone .identity)).2
        have hnew : onlyIf (sid == 0) Fault.noSid = [] :=
          onlyIf_eq_nil_iff.mpr (beq_eq_false_iff_ne.mpr hsid)
        exact List.append_eq_nil_iff.mpr ⟨hnew, hrevision⟩
    -- the other checks see in the copy what they have seen in the rule
    | network => exact hnone .network
    | content => exact hnone .content
    | flow => exact hnone .flow
    | pattern => exact hnone .pattern
    | threshold => exact hnone .threshold

open Workspace in
/-- After any run from the empty workspace, copying the selected rules puts the copy of each one
behind the rules that were there. If the rule is valid then so is its copy, unless the message of
the rule is short and holds a quote or a semicolon. -/
theorem duplicate_isValid_iff (commands : List Command) {sids : List UInt32} {w' : Workspace}
    (hok : (empty.run commands).duplicate = .ok (sids, w')) {k i : Nat} {r : Rule}
    (hk : (empty.run commands).selection[k]? = some i)
    (hr : (empty.run commands).rules[i]? = some r) (hvalid : (report r).isValid = true) :
    ∃ copy, w'.rules[(empty.run commands).length + k]? = some copy ∧
      copy.message = r.message ++ " (copy)" ∧
      ((report copy).isValid = true ↔
        ¬ (r.message.toList.length < 5 ∧ ('"' ∈ r.message.toList ∨ ';' ∈ r.message.toList))) := by
  have hsound : (empty.run commands).IsSound := isSound_empty.run commands
  cases duplicate_eq_ok hok with
  | duplicate hne hroom =>
      obtain ⟨r', sid, hr', hnumber, hcopy⟩ := hsound.getElem?_copies hroom hk
      obtain rfl : r = r' := Option.some.inj (hr.symm.trans hr')
      -- the identifiers of copies follow another one
      have hsid : sid ≠ 0 := by
        rintro rfl
        rw [UInt32.toNat_zero] at hnumber
        omega
      refine ⟨copyOf r sid, ?_, rfl, isValid_copyOf_iff hsid hvalid⟩
      rw [Workspace.length, List.getElem?_append_right (Nat.le_add_right _ _),
        Nat.add_sub_cancel_left]
      exact hcopy

open Workspace in
/-- The copy of a valid rule with a short message, behind two rules. -/
theorem duplicate_isValid_ping :
    let w' : Workspace :=
      { rules := [{ message := "Login" }, { message := "Ping" },
          { message := "Ping (copy)", sid := 1000002 }] }
    (report { message := "Ping" }).isValid = true ∧
      (empty.run [.extend [{ message := "Login" }, { message := "Ping" }], .select [1]]).duplicate =
        .ok ([1000002], w') ∧
      ∃ copy, w'.rules[2]? = some copy ∧ (report copy).isValid = true := by
  intro w'
  have hvalid : (report { message := "Ping" }).isValid = true := by decide +kernel
  have hok : (empty.run
      [.extend [{ message := "Login" }, { message := "Ping" }], .select [1]]).duplicate =
        .ok ([1000002], w') := rfl
  have hk : (empty.run
      [.extend [{ message := "Login" }, { message := "Ping" }], .select [1]]).selection[0]? =
        some 1 := rfl
  obtain ⟨copy, hcopy, -, hiff⟩ := duplicate_isValid_iff
    [.extend [{ message := "Login" }, { message := "Ping" }], .select [1]] hok hk rfl hvalid
  exact ⟨hvalid, hok, copy, hcopy, hiff.mpr (by decide)⟩

open Workspace in
/-- The semicolon in a short message makes the copy of a valid rule invalid. -/
theorem copy_of_short_message_refused :
    let w' : Workspace :=
      { rules := [{ message := "a;b" }, { message := "a;b (copy)", sid := 1000002 }] }
    (report { message := "a;b" }).isValid = true ∧
      (empty.run [.extend [{ message := "a;b" }], .select [0]]).duplicate = .ok ([1000002], w') ∧
      (report { message := "a;b (copy)", sid := 1000002 }).faults = [.messageCharacters] :=
  ⟨by decide +kernel, rfl, by decide +kernel⟩

end RuleDesk.Validation
