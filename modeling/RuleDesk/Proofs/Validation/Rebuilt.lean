import RuleDesk.Proofs.Form.Exchange
import RuleDesk.Proofs.Validation.Faults

/-!
# Rules rebuilt from the form

The check of the flow knows more words than the form has switches for, and it looks at the text as
it was given. A rule that has been through the form has a canonical flow, all of whose words are
known, and its other fields are as they were. So the form takes the faults of the flow away and adds
none (`faults_rebuilt`).
-/

set_option autoImplicit false

namespace RuleDesk.Validation

open RuleDesk.Text

/-! ## Canonical flows -/

theorem spelling_mem_knownFlowWords (o : FlowOption) :
    Vocabulary.spelling o ∈ knownFlowWords := by
  cases o <;> decide

/-- The words of a canonical flow are the spellings of its options. -/
theorem flowWords_of_text {r : Rule} {s : FlowSet} (h : r.flow = s.text) :
    flowWords r = s.toList.map Vocabulary.spelling := by
  have hempty : r.flow.isEmpty = s.toList.isEmpty := by
    rw [h, s.isEmpty_text, FlowSet.isEmpty]
  unfold flowWords
  cases hs : s.toList with
  | nil =>
      -- the empty text is not cut at all: its one piece would be an unknown word
      rw [hs] at hempty
      exact if_pos hempty
  | cons o options =>
      rw [hs] at hempty
      have hne : s.toList ≠ [] := by
        rw [hs]
        exact List.cons_ne_nil o options
      have hword : ∀ p : FlowOption, String.ofList (trim (spelled p)) = Vocabulary.spelling p := by
        intro p
        rw [trim_of_isPlain (isPlain_spelled p), spelled, String.ofList_toList]
      rw [if_neg (Bool.eq_false_iff.mp hempty), h, FlowSet.text, String.toList_ofList,
        s.pieces_chars hne, List.map_map, ← hs]
      exact List.map_congr_left fun p _ => hword p

/-- A canonical flow has no faults. -/
theorem flowFaults_of_text {r : Rule} {s : FlowSet} (h : r.flow = s.text) : flowFaults r = [] := by
  have hknown : (flowWords r).filter (fun word => !knownFlowWords.contains word) = [] := by
    rw [flowWords_of_text h]
    apply List.filter_eq_nil_iff.mpr
    intro word hword
    obtain ⟨o, -, rfl⟩ := List.mem_map.mp hword
    simp [spelling_mem_knownFlowWords o]
  rw [flowFaults, hknown]
  rfl

/-! ## Through the form and back -/

/-- Only the check of the flow sees that a rule has been through the form, and it finds nothing. -/
theorem Check.faults_rebuilt (r : Rule) (k : Check) :
    k.faults (Form.ofRule r).toRule = if k = .flow then [] else k.faults r := by
  rw [Form.toRule_ofRule]
  cases k with
  | flow => exact flowFaults_of_text (r := { r with flow := r.flowSet.text }) rfl
  | network | message | identity | content | pattern | threshold => rfl

theorem filter_check_flow (r : Rule) :
    (report r).faults.filter (fun fault => fault.check == .flow) = flowFaults r := by
  rw [filter_faults r (· == .flow)]
  exact List.append_nil (flowFaults r)

/-- The faults of a rule that has been through the form are those that the rule had, in their order,
without those of its flow. -/
theorem faults_rebuilt (r : Rule) :
    (report (Form.ofRule r).toRule).faults =
      (report r).faults.filter fun fault => fault.check != .flow := by
  rw [filter_faults r (· != .flow), faults_eq_flatMap]
  simp only [Check.faults_rebuilt]
  rfl

theorem isValid_rebuilt_iff (r : Rule) :
    (report (Form.ofRule r).toRule).isValid = true ↔
      ∀ fault ∈ (report r).faults, fault.check = .flow := by
  rw [Report.isValid, List.isEmpty_iff, faults_rebuilt, List.filter_eq_nil_iff]
  simp only [bne_iff_ne, ne_eq, not_not]

/-- Taking a rule into the form and back drops the faults of its flow and keeps all others as they
are. So a valid rule stays valid, and one that becomes valid had no faults but those of its flow. -/
theorem rebuilt_faults (r : Rule) :
    (report (Form.ofRule r).toRule).faults =
        (report r).faults.filter (fun fault => fault.check != .flow) ∧
      (report r).faults.filter (fun fault => fault.check == .flow) = flowFaults r ∧
      ((report r).isValid = true → (report (Form.ofRule r).toRule).isValid = true) ∧
      ((report (Form.ofRule r).toRule).isValid = true →
        ∀ fault ∈ (report r).faults, fault ∈ flowFaults r) := by
  refine ⟨faults_rebuilt r, filter_check_flow r, ?_, ?_⟩
  · intro hvalid
    rw [Report.isValid, List.isEmpty_iff] at hvalid
    rw [isValid_rebuilt_iff, hvalid]
    intro fault hfault
    exact absurd hfault List.not_mem_nil
  · intro hvalid fault hfault
    have hflow := (isValid_rebuilt_iff r).mp hvalid fault hfault
    rw [mem_faults_iff, hflow] at hfault
    exact hfault

/-- A blank flow word and an unknown one are dropped, and so is a known word that has no switch. The
first rule still has its wrong port. The second is valid as it is, although its flow is dropped. -/
theorem rebuilt_faults_odd_words :
    let r : Rule :=
      { targetPort := "http", message := "Odd flow words", flow := "to_server, ,odd,no_stream" }
    let s : Rule := { message := "Flow without switch", flow := "no_stream" }
    (report r).faults = [.port .target "http", .flowWord "", .flowWord "odd"] ∧
      (report (Form.ofRule r).toRule).faults = [.port .target "http"] ∧
      (report s).isValid = true ∧ (report (Form.ofRule s).toRule).isValid = true := by
  intro r s
  have hfaults : (report r).faults = [.port .target "http", .flowWord "", .flowWord "odd"] := by
    decide +kernel
  have hvalid : (report s).isValid = true := by decide +kernel
  refine ⟨hfaults, ?_, hvalid, (rebuilt_faults s).2.2.1 hvalid⟩
  rw [(rebuilt_faults r).1, hfaults]
  decide

end RuleDesk.Validation
