import RuleDesk.Form
import RuleDesk.Proofs.Rule.Fingerprints
import RuleDesk.Rule.Line

/-!
# Rules and forms exchanged

A rule that is taken into the form and back is the same rule, but for the text of its flow, which
is then in canonical order without unknown words; a form that is made a rule and taken back is the
same form. The text of a flow matters only through the set that it names, and so a rule that has
been through the form is written as the same line and has the same fingerprint.
-/

set_option autoImplicit false

namespace RuleDesk

/-! ## Flow texts that name the same set -/

namespace Rule

variable {r : Rule} {flow : String}

/-- The clauses of a rule depend on the set that its flow names, not on the text of the flow. -/
theorem clauses_replaceFlow (h : FlowSet.ofText flow = r.flowSet) :
    clauses { r with flow := flow } = r.clauses := by
  have hset : flowSet { r with flow := flow } = r.flowSet := h
  unfold clauses
  rw [hset]
  rfl

theorem encode_replaceFlow (h : FlowSet.ofText flow = r.flowSet) :
    encode { r with flow := flow } = r.encode := by
  unfold encode chars
  rw [clauses_replaceFlow h]
  rfl

theorem detection_replaceFlow (h : FlowSet.ofText flow = r.flowSet) :
    detection { r with flow := flow } = r.detection := by
  have hset : flowSet { r with flow := flow } = r.flowSet := h
  unfold detection
  rw [hset]
  rfl

theorem fingerprint_replaceFlow (h : FlowSet.ofText flow = r.flowSet) :
    fingerprint { r with flow := flow } = r.fingerprint :=
  fingerprint_eq_of_detection (detection_replaceFlow h)

end Rule

/-! ## Flow switches -/

namespace Form

theorem flowSet_withFlow (f : Form) (s : FlowSet) : (f.withFlow s).flowSet = s := by
  cases s with
  | mk established stateless toServer toClient fromServer fromClient => rfl

theorem withFlow_flowSet (f : Form) : f.withFlow f.flowSet = f := by
  cases f with
  | mk => rfl

/-- Setting the switches of a form changes the flow of its rule and nothing else. -/
theorem toRule_withFlow (f : Form) (s : FlowSet) :
    (f.withFlow s).toRule = { f.toRule with flow := s.text } := by
  have hflow := f.flowSet_withFlow s
  unfold toRule
  rw [hflow]
  rfl

/-- The rule of a form names the set of the form's switches. -/
theorem flowSet_toRule (f : Form) : f.toRule.flowSet = f.flowSet :=
  FlowSet.ofText_text f.flowSet

/-! ## There and back -/

theorem toRule_ofRule (r : Rule) : (ofRule r).toRule = { r with flow := r.flowSet.text } := by
  unfold ofRule
  exact toRule_withFlow _ r.flowSet

theorem ofRule_toRule (f : Form) : ofRule f.toRule = f := by
  unfold ofRule
  rw [flowSet_toRule]
  -- the fields are those of the form, and its switches are set as they were
  exact f.withFlow_flowSet

/-- Rules and forms stand for each other: a rule comes back from the form with nothing changed but
the text of its flow, which becomes canonical, and a form comes back from its rule as it was. So a
rule that has been through the form is written as the same line and looks at the same traffic. -/
theorem exchange (r : Rule) (f : Form) :
    (ofRule r).toRule = { r with flow := r.flowSet.text } ∧
      ofRule f.toRule = f ∧
      (ofRule r).toRule.encode = r.encode ∧
      (ofRule r).toRule.fingerprint = r.fingerprint := by
  have hset : FlowSet.ofText r.flowSet.text = r.flowSet := FlowSet.ofText_text r.flowSet
  rw [toRule_ofRule]
  exact ⟨rfl, ofRule_toRule f, Rule.encode_replaceFlow hset, Rule.fingerprint_replaceFlow hset⟩

/-- A blank in the flow, an unknown word and another order: only the text of the flow is changed,
and a track that is unset is not taken for the one of a cleared form. -/
example :
    let r : Rule := { flow := "to_client, odd,established", thresholdType := some .both }
    (ofRule r).toRule = { r with flow := "established,to_client" } ∧
      (ofRule r).thresholdTrack = none := by
  decide

end Form

end RuleDesk
