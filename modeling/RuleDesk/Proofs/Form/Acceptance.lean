import RuleDesk.Proofs.Form.Exchange
import RuleDesk.Proofs.Text.Stripping
import RuleDesk.Workspace.Command

/-!
# Forms that are accepted

A form is accepted exactly if something is left of its message, and the rule it gives is the rule of
the form with eight of its texts tidied. Tidying is a projection: it leaves what is tidy as it is,
and it leaves the flow alone, which a form writes in canonical order. So an accepted rule passes the
gate of every workspace, and one that is opened in the form and submitted as it is comes out the
same.
-/

set_option autoImplicit false

namespace RuleDesk

open RuleDesk.Text

/-! ## Trimmed texts -/

theorem isAllBlank_iff (s : List Char) : isAllBlank s = true ↔ ∀ c ∈ s, isBlank c = true := by
  rw [isAllBlank, List.isEmpty_iff]
  exact strip_eq_nil_iff s

theorem trim_trim (s : List Char) : trim (trim s) = trim s :=
  strip_strip isBlank s

theorem isAllBlank_trim (s : List Char) : isAllBlank (trim s) = isAllBlank s := by
  rw [isAllBlank, trim_trim, isAllBlank]

/-- A text without the blank characters at the ends of another. -/
def IsTrimOf (s t : String) : Prop :=
  IsStripOf isBlank s.toList t.toList

/-- An address or port without the blank characters at the ends of another, or `any` if nothing but
these stands there. -/
inductive IsTrimOrAny (s : String) : String → Prop where
  | any (hblank : ∀ c ∈ s.toList, isBlank c = true) : IsTrimOrAny s "any"
  | trimmed {t : String} (hleft : ∃ c ∈ s.toList, isBlank c = false) (htrim : IsTrimOf s t) :
      IsTrimOrAny s t

/-! ## The gate -/

theorem Workspace.append_enforced_eq_error_iff (w : Workspace) (r : Rule) (e : WorkspaceError) :
    w.append r .enforced = .error e ↔ r.lacksMessage = true ∧ e = .input .messageRequired := by
  rw [Workspace.append]
  cases hmessage : r.lacksMessage with
  | true => simp [eq_comm]
  | false => simp

namespace Form

/-! ## Tidying -/

theorem toList_tidy (s : String) : (tidy s).toList = trim s.toList :=
  String.toList_ofList

theorem isTrimOf_tidy (s : String) : IsTrimOf s (tidy s) :=
  isStripOf_iff.mpr (toList_tidy s)

theorem tidy_tidy (s : String) : tidy (tidy s) = tidy s := by
  rw [tidy, toList_tidy, trim_trim, tidy]

theorem isTrimOrAny_orAny (s : String) : IsTrimOrAny s (orAny s) := by
  rw [orAny]
  split
  · next hblank => exact .any ((isAllBlank_iff _).mp hblank)
  · next hleft =>
      refine .trimmed ?_ (isTrimOf_tidy s)
      rw [isAllBlank_iff] at hleft
      simpa using hleft

theorem orAny_orAny (s : String) : orAny (orAny s) = orAny s := by
  cases hblank : isAllBlank s.toList with
  | true =>
      have hany : orAny s = "any" := if_pos hblank
      rw [hany]
      decide
  | false =>
      have htidy : orAny s = tidy s := if_neg (Bool.eq_false_iff.mp hblank)
      have hleft : isAllBlank (tidy s).toList = false := by
        rw [toList_tidy, isAllBlank_trim, hblank]
      rw [htidy, orAny, if_neg (Bool.eq_false_iff.mp hleft), tidy_tidy]

/-! ## Tidy rules -/

/-- A rule with tidied texts, in which no address or port is blank. -/
def tidyRule (r : Rule) : Rule :=
  { r with
    sourceAddress := orAny r.sourceAddress
    sourcePort := orAny r.sourcePort
    targetAddress := orAny r.targetAddress
    targetPort := orAny r.targetPort
    message := tidy r.message
    classtype := tidy r.classtype
    reference := tidy r.reference
    metadata := tidy r.metadata }

theorem tidyRule_tidyRule (r : Rule) : tidyRule (tidyRule r) = tidyRule r := by
  simp only [tidyRule, orAny_orAny, tidy_tidy]

theorem lacksMessage_tidyRule (r : Rule) : (tidyRule r).lacksMessage = r.lacksMessage := by
  show isAllBlank (tidy r.message).toList = isAllBlank r.message.toList
  rw [toList_tidy, isAllBlank_trim]

theorem accept_eq (f : Form) :
    f.accept =
      if f.toRule.lacksMessage then .error (.input .messageRequired)
      else .ok (tidyRule f.toRule) := rfl

/-- A rule whose flow is in canonical order stays as it is in the form. -/
theorem toRule_ofRule_of_flow {r : Rule} (h : r.flow = r.flowSet.text) : (ofRule r).toRule = r := by
  rw [toRule_ofRule, ← h]

/-- The flow of a form's rule is in canonical order, and tidying leaves it so. -/
theorem toRule_ofRule_tidyRule (f : Form) :
    (ofRule (tidyRule f.toRule)).toRule = tidyRule f.toRule := by
  apply toRule_ofRule_of_flow
  -- the flow is none of the eight texts
  show f.flowSet.text = f.toRule.flowSet.text
  rw [flowSet_toRule]

/-! ## Acceptance -/

variable {f : Form} {r : Rule}

theorem accept_eq_error_iff (f : Form) (e : WorkspaceError) :
    f.accept = .error e ↔ f.toRule.lacksMessage = true ∧ e = .input .messageRequired := by
  rw [accept_eq]
  split
  · next h => simp [h, eq_comm]
  · next h => simp [h]

theorem accept_eq_ok_iff :
    f.accept = .ok r ↔ f.toRule.lacksMessage = false ∧ r = tidyRule f.toRule := by
  rw [accept_eq]
  split
  · next h => simp [h]
  · next h => simp [h, eq_comm]

/-- The gate asks for no more than the form did. -/
theorem append_enforced_of_accept (h : f.accept = .ok r) (w : Workspace) :
    w.append r .enforced = .ok (w.length, { w with rules := w.rules ++ [r] }) := by
  obtain ⟨hmessage, rfl⟩ := accept_eq_ok_iff.mp h
  have hpass : ¬ (Gate.enforced = .enforced ∧ (tidyRule f.toRule).lacksMessage = true) := by
    rw [lacksMessage_tidyRule, hmessage]
    simp
  rw [Workspace.append, if_neg hpass]

/-- An accepted rule that is opened in the form is accepted as it is. -/
theorem accept_ofRule (h : f.accept = .ok r) : (ofRule r).accept = .ok r := by
  obtain ⟨hmessage, rfl⟩ := accept_eq_ok_iff.mp h
  apply accept_eq_ok_iff.mpr
  rw [toRule_ofRule_tidyRule, lacksMessage_tidyRule, tidyRule_tidyRule]
  exact ⟨hmessage, rfl⟩

theorem perform_submit (h : f.accept = .ok r) (w : Workspace) :
    w.perform (.submit f) = .ok (.position w.length, { w with rules := w.rules ++ [r] }) := by
  rw [Workspace.perform, h]
  show (w.append r .enforced >>= _) = _
  rw [append_enforced_of_accept h]
  rfl

/-- A rule with the eight texts of another that are tidied. -/
def withTextsOf (r s : Rule) : Rule :=
  { r with
    sourceAddress := s.sourceAddress
    sourcePort := s.sourcePort
    targetAddress := s.targetAddress
    targetPort := s.targetPort
    message := s.message
    classtype := s.classtype
    reference := s.reference
    metadata := s.metadata }

/-- What an accepted rule has from its form: eight texts without the blank characters at their ends,
and all else as it is. -/
structure IsAcceptedAs (f : Form) (r : Rule) : Prop where
  sourceAddress : IsTrimOrAny f.sourceAddress r.sourceAddress
  sourcePort : IsTrimOrAny f.sourcePort r.sourcePort
  targetAddress : IsTrimOrAny f.targetAddress r.targetAddress
  targetPort : IsTrimOrAny f.targetPort r.targetPort
  message : IsTrimOf f.message r.message
  classtype : IsTrimOf f.classtype r.classtype
  reference : IsTrimOf f.reference r.reference
  metadata : IsTrimOf f.metadata r.metadata
  content : r.content = f.content
  pcre : r.pcre = f.pcre
  others : r = withTextsOf f.toRule r

theorem isAcceptedAs_tidyRule (f : Form) : f.IsAcceptedAs (tidyRule f.toRule) where
  sourceAddress := isTrimOrAny_orAny f.sourceAddress
  sourcePort := isTrimOrAny_orAny f.sourcePort
  targetAddress := isTrimOrAny_orAny f.targetAddress
  targetPort := isTrimOrAny_orAny f.targetPort
  message := isTrimOf_tidy f.message
  classtype := isTrimOf_tidy f.classtype
  reference := isTrimOf_tidy f.reference
  metadata := isTrimOf_tidy f.metadata
  content := rfl
  pcre := rfl
  others := rfl

/-- A form is refused exactly if its message is blank, which is when every workspace would refuse its
rule, for the same cause. An accepted rule is the rule of the form with eight texts tidied, and it is
added to any workspace. Opened again it is accepted unchanged: after a form was submitted, its rule
can be selected and opened, and submitting the opened form adds the same rule once more. -/
theorem accept_projects (f : Form) :
    ((∃ e, f.accept = .error e) ↔ ∀ c ∈ f.message.toList, isBlank c = true) ∧
      (∀ (e : WorkspaceError) (w : Workspace),
        f.accept = .error e ↔ w.append f.toRule .enforced = .error e) ∧
      ∀ r, f.accept = .ok r →
        f.IsAcceptedAs r ∧
        (∀ w : Workspace,
          w.append r .enforced = .ok (w.length, { w with rules := w.rules ++ [r] })) ∧
        (ofRule r).accept = .ok r ∧
        ∀ w : Workspace,
          let added : Workspace := { w with rules := w.rules ++ [r] }
          let opened : Workspace := { added with selection := [w.length] }
          w.perform (.submit f) = .ok (.position w.length, added) ∧
            added.perform (.select [w.length]) = .ok (.nothing, opened) ∧
            opened.editTarget = .ok r ∧
            opened.perform (.submit (ofRule r)) =
              .ok (.position (w.length + 1), { opened with rules := w.rules ++ [r, r] }) := by
  refine ⟨?_, ?_, ?_⟩
  · rw [← isAllBlank_iff]
    show (∃ e, f.accept = .error e) ↔ f.toRule.lacksMessage = true
    simp only [accept_eq_error_iff, exists_and_left, exists_eq, and_true]
  · intro e w
    rw [accept_eq_error_iff, Workspace.append_enforced_eq_error_iff]
  · intro r h
    obtain ⟨-, hr⟩ := accept_eq_ok_iff.mp h
    refine ⟨hr ▸ f.isAcceptedAs_tidyRule, append_enforced_of_accept h, accept_ofRule h, ?_⟩
    intro w added opened
    -- the position that submitting answers is the last one, where the rule stands
    have hlength : added.length = w.length + 1 := List.length_append
    have hlast : opened.rules[w.length]? = some r := List.getElem?_concat_length
    refine ⟨perform_submit h w, ?_, ?_, ?_⟩
    · rw [Workspace.perform, Workspace.select,
        List.find?_cons_of_neg (by simp [hlength])]
      rfl
    · show opened.get w.length = .ok r
      rw [Workspace.get, hlast]
    · rw [perform_submit (accept_ofRule h)]
      have hrules : opened.rules ++ [r] = w.rules ++ [r, r] := List.append_assoc w.rules [r] [r]
      have hcount : opened.length = w.length + 1 := hlength
      rw [hrules, hcount]

/-- Blank characters that are no spaces around the message, a blank port, and switches in another
order than the flow is written in. -/
theorem accept_projects_padded :
    let f : Form :=
      { message := "\u3000Login \n"
        targetPort := "\u00a0"
        sourceAddress := " 10.0.0.1"
        content := " USER "
        toServer := true
        established := true }
    let r : Rule :=
      { message := "Login"
        targetPort := "any"
        sourceAddress := "10.0.0.1"
        content := " USER "
        flow := "established,to_server"
        thresholdTrack := some .bySource }
    f.accept = .ok r ∧ (ofRule r).accept = .ok r ∧
      Workspace.empty.append r .enforced = .ok (0, { rules := [r] }) := by
  intro f r
  have haccept : f.accept = .ok r := by decide
  obtain ⟨-, -, hprojects⟩ := accept_projects f
  obtain ⟨-, hadded, hreopened, -⟩ := hprojects r haccept
  exact ⟨haccept, hreopened, hadded Workspace.empty⟩

end Form

end RuleDesk
