import RuleDesk.Proofs.Rule.Frames
import RuleDesk.Proofs.Rule.FreeTexts
import RuleDesk.Proofs.Rule.OptionLists

/-!
# Rules read back from their text

A rule comes back from its line in canonical form if its header words are words, no text of its
options holds a newline, and every one of its clauses survives. Values are written without escapes,
so there is a plain condition on the fields that is enough for this: `Rule.IsTextSafe` bounds what
may stand in each text and at its ends.
-/

set_option autoImplicit false

namespace RuleDesk

open RuleDesk.Text

/-! ## One line -/

/-- Whether no newline stands in a text that a rule writes as it is. -/
def Rule.IsOneLine (r : Rule) : Prop :=
  ∀ f : FreeText, '\n' ∉ (f.get r).toList

/-- Every text of a rule. -/
def Rule.strings (r : Rule) : List String :=
  [r.sourceAddress, r.sourcePort, r.targetAddress, r.targetPort, r.message, r.classtype,
    r.reference, r.content, r.pcre, r.flow, r.metadata]

theorem Rule.isOneLine_of_strings {r : Rule} (h : ∀ s ∈ r.strings, '\n' ∉ s.toList) :
    r.IsOneLine := by
  intro f
  apply h (f.get r)
  cases f <;> simp [strings, FreeText.get]

theorem newline_not_mem_of_isPlain {s : List Char} (h : ∀ c ∈ s, isPlain c = true) : '\n' ∉ s :=
  not_mem_of_isPlain h (by decide)

theorem Clause.newline_not_mem_text (o : TextOption) {v : String} (h : '\n' ∉ v.toList) :
    '\n' ∉ (Clause.text o v).chars := by
  have hkey := newline_not_mem_of_isPlain (isPlain_spelled o)
  cases ho : o.isQuoted with
  | true =>
      rw [chars_quoted ho]
      simp [hkey, h]
  | false =>
      rw [chars_bare ho]
      simp [hkey, h]

/-- A rule of one line writes only clauses of one line: all that is not a text is plain. -/
theorem Rule.IsOneLine.newline_not_mem_chars {r : Rule} (h : r.IsOneLine) {c : Clause}
    (hc : c ∈ r.clauses) : '\n' ∉ c.chars := by
  rcases cases_of_mem_clauses hc with ⟨o, ho, -, rfl⟩ | rfl | ⟨o, v, rfl⟩ | ⟨-, rfl⟩ | rfl | rfl
  · -- a text option other than the flow is one of the free texts
    obtain ⟨f, hf⟩ := FreeText.exists_ofOption? ho
    apply Clause.newline_not_mem_text o
    rw [← FreeText.get_of_ofOption? hf]
    exact h f
  · apply Clause.newline_not_mem_text .flow
    rw [FlowSet.text, String.toList_ofList]
    exact FlowSet.not_mem_chars (by decide) (by decide)
  · have hkey := newline_not_mem_of_isPlain (isPlain_spelled o)
    have hvalue := newline_not_mem_of_isPlain (isPlain_numeral v.toNat)
    show '\n' ∉ spelled o ++ ':' :: numeral v.toNat
    simp [hkey, hvalue]
  · have hkey : '\n' ∉ "content".toList := by decide
    have hmark : '\n' ∉ negationMark r.negated := by
      cases r.negated <;> decide
    have hcontent : '\n' ∉ r.content.toList := h .content
    rw [Clause.chars_content]
    simp [hmark, hcontent]
  · decide
  · have hkey : '\n' ∉ "threshold".toList := by decide
    intro hmem
    rcases List.mem_append.mp hmem with hmem | hmem
    · exact hkey hmem
    · rcases List.mem_cons.mp hmem with hcolon | hmem
      · exact absurd hcolon (by decide)
      · exact not_mem_threshold (by decide) (by decide) (by decide) hmem

theorem Rule.IsOneLine.newline_not_mem_body {r : Rule} (h : r.IsOneLine) :
    '\n' ∉ OptionList.chars r.clauses := by
  intro hmem
  rcases List.mem_append.mp hmem with hmem | hmem
  · rcases mem_joined hmem with hsep | ⟨piece, hpiece, hc⟩
    · exact absurd hsep (by decide)
    · obtain ⟨c, hmemc, rfl⟩ := List.mem_map.mp hpiece
      exact h.newline_not_mem_chars hmemc hc
  · exact absurd hmem (by decide)

/-! ## Enough for a round trip -/

theorem Rule.clauses_ne_nil (r : Rule) : r.clauses ≠ [] := by
  simp [clauses]

theorem Rule.frame_isSound {r : Rule} (hwords : ∀ w ∈ r.header, IsWord w) (hline : r.IsOneLine) :
    r.frame.IsSound where
  isWord_of_mem_header := hwords
  body_ne_nil := by simp [frame, OptionList.chars]
  body_oneLine := hline.newline_not_mem_body

/-- A rule whose clauses survive comes back from its text in canonical form. -/
theorem Rule.parse_encode_of_survives {r : Rule} (hwords : ∀ w ∈ r.header, IsWord w)
    (hline : r.IsOneLine) (h : ∀ c ∈ r.clauses, c.survives = true) :
    Rule.parse r.encode = .ok r.canonical := by
  have hwritten : ∀ c ∈ r.clauses, c.IsWritten := fun c hc => isWritten_of_mem_clauses hc
  rw [parse_encode_of_isSound (frame_isSound hwords hline),
    OptionList.clauses_chars hwritten h, applyAll_reread_clauses]

/-! ## Text-safe rules -/

/-- A text that may stand between double quotes: no double quote and no newline in it, no backslash
before its end and no single quote at either end. -/
structure IsQuotable (s : List Char) : Prop where
  no_quote : '"' ∉ s
  no_newline : '\n' ∉ s
  last_ne_backslash : s.getLast? ≠ some '\\'
  head_ne_single : s.head? ≠ some '\''
  last_ne_single : s.getLast? ≠ some '\''

/-- A text that may stand without quotes: no double quote, semicolon or newline in it, nothing
blank and no single quote at either end. -/
structure IsBare (s : List Char) : Prop where
  no_quote : '"' ∉ s
  no_semicolon : ';' ∉ s
  no_newline : '\n' ∉ s
  clear_ends : hasClearEnds isBlank s = true
  head_ne_single : s.head? ≠ some '\''
  last_ne_single : s.getLast? ≠ some '\''

/-- A rule each of whose texts may stand where it is written. A content begins with an exclamation
mark only if it is negated. Nothing is asked of the flow, the numbers and the threshold. -/
structure Rule.IsTextSafe (r : Rule) : Prop where
  sourceAddress : IsWord r.sourceAddress.toList
  sourcePort : IsWord r.sourcePort.toList
  targetAddress : IsWord r.targetAddress.toList
  targetPort : IsWord r.targetPort.toList
  message : IsQuotable r.message.toList
  content : IsQuotable r.content.toList
  pcre : IsQuotable r.pcre.toList
  content_head : r.negated = false → r.content.toList.head? ≠ some '!'
  classtype : IsBare r.classtype.toList
  reference : IsBare r.reference.toList
  metadata : IsBare r.metadata.toList

theorem hasClearEnds_isQuoteMark {s : List Char} (hquote : '"' ∉ s) (hhead : s.head? ≠ some '\'')
    (hlast : s.getLast? ≠ some '\'') : hasClearEnds isQuoteMark s = true := by
  refine (hasClearEnds_iff s).mpr ⟨?_, ?_⟩
  · intro c hc
    refine (isQuoteMark_eq_false_iff c).mpr ⟨?_, ?_⟩
    · rintro rfl
      exact hquote (List.mem_of_mem_head? hc)
    · rintro rfl
      exact hhead hc
  · intro c hc
    refine (isQuoteMark_eq_false_iff c).mpr ⟨?_, ?_⟩
    · rintro rfl
      exact hquote (List.mem_of_mem_getLast? hc)
    · rintro rfl
      exact hlast hc

theorem IsQuotable.survives {o : TextOption} (ho : o.isQuoted = true) {v : String}
    (h : IsQuotable v.toList) : (Clause.text o v).survives = true := by
  simp only [Clause.survives, ho, if_true, Bool.and_eq_true]
  refine ⟨(OptionList.isClosed_quoted_iff h.no_quote).mpr h.last_ne_backslash, ?_⟩
  exact hasClearEnds_isQuoteMark h.no_quote h.head_ne_single h.last_ne_single

theorem IsBare.survives {o : TextOption} (ho : o.isQuoted = false) {v : String}
    (h : IsBare v.toList) : (Clause.text o v).survives = true := by
  simp only [Clause.survives, ho, Bool.false_eq_true, if_false, Bool.and_eq_true]
  refine ⟨OptionList.isClosed_of_not_mem h.no_semicolon h.no_quote, ?_⟩
  rw [hasClearEnds_or, Bool.and_eq_true]
  exact ⟨h.clear_ends, hasClearEnds_isQuoteMark h.no_quote h.head_ne_single h.last_ne_single⟩

theorem IsQuotable.survives_content {negated : Bool} {v : String} (h : IsQuotable v.toList)
    (hhead : negated = false → v.toList.head? ≠ some '!') :
    (Clause.content negated v).survives = true := by
  rw [Clause.survives_content_iff]
  refine ⟨(OptionList.isClosed_quoted_iff h.no_quote).mpr h.last_ne_backslash, ?_, ?_⟩
  · intro c hc
    refine ⟨?_, fun hnegated => ⟨?_, ?_⟩⟩
    · rintro rfl
      exact h.no_quote (List.mem_of_mem_head? hc)
    · rintro rfl
      exact h.head_ne_single hc
    · rintro rfl
      exact hhead hnegated hc
  · intro c hc
    constructor
    · rintro rfl
      exact h.no_quote (List.mem_of_mem_getLast? hc)
    · rintro rfl
      exact h.last_ne_single hc

/-- The canonical text of a flow set survives, since nothing in it is blank or a quote. -/
theorem FlowSet.survives (s : FlowSet) : (Clause.text .flow s.text).survives = true := by
  have hinert : ∀ c ∈ s.chars, OptionList.isInert c = true := by
    intro c hc
    rcases isPlain_of_mem_chars hc with hplain | rfl
    · exact isInert_of_isPlain hplain
    · decide
  have hclear : ∀ c ∈ s.chars, (isBlank c || isQuoteMark c) = false := by
    intro c hc
    rcases isPlain_of_mem_chars hc with hplain | rfl
    · rw [isBlank_of_isPlain hplain, isQuoteMark_of_isPlain hplain]
      rfl
    · decide
  show (OptionList.isClosed false none s.text.toList &&
    hasClearEnds (fun c => isBlank c || isQuoteMark c) s.text.toList) = true
  rw [text, String.toList_ofList, OptionList.isClosed_of_inert hinert none, Bool.true_and]
  exact hasClearEnds_of_forall hclear

namespace Rule.IsTextSafe

variable {r : Rule}

theorem isOneLine (h : r.IsTextSafe) : r.IsOneLine := by
  intro f
  cases f with
  | message => exact h.message.no_newline
  | classtype => exact h.classtype.no_newline
  | reference => exact h.reference.no_newline
  | metadata => exact h.metadata.no_newline
  | pcre => exact h.pcre.no_newline
  | content => exact h.content.no_newline

theorem isWord_of_mem_header (h : r.IsTextSafe) : ∀ w ∈ r.header, IsWord w := by
  simp only [Rule.header, List.forall_mem_cons]
  exact ⟨isWord_spelled r.action, isWord_spelled r.protocol, h.sourceAddress, h.sourcePort,
    isWord_spelled r.direction, h.targetAddress, h.targetPort,
    fun w hw => absurd hw List.not_mem_nil⟩

theorem survives (h : r.IsTextSafe) {c : Clause} (hc : c ∈ r.clauses) : c.survives = true := by
  rcases cases_of_mem_clauses hc with ⟨o, ho, -, rfl⟩ | rfl | ⟨o, v, rfl⟩ | ⟨-, rfl⟩ | rfl | rfl
  · cases o with
    | message => exact h.message.survives rfl
    | classtype => exact h.classtype.survives rfl
    | reference => exact h.reference.survives rfl
    | metadata => exact h.metadata.survives rfl
    | pcre => exact h.pcre.survives rfl
    | flow => exact absurd rfl ho
  · exact r.flowSet.survives
  · rfl
  · exact h.content.survives_content h.content_head
  · rfl
  · rfl

end Rule.IsTextSafe

/-- A text-safe rule comes back from its text in canonical form, whatever its other fields. -/
theorem Rule.parse_encode_of_isTextSafe {r : Rule} (h : r.IsTextSafe) :
    Rule.parse r.encode = .ok r.canonical :=
  parse_encode_of_survives h.isWord_of_mem_header h.isOneLine fun _ hc => h.survives hc

/-- A rule with an unknown flow word, a semicolon in its message and a threshold without a track. -/
theorem Rule.parse_encode_failed_login :
    Rule.parse (Rule.encode
        { targetPort := "[21,2121]"
          message := "Failed login; again"
          content := "530 "
          nocase := true
          flow := "established , to_server,unknown"
          thresholdType := some .both
          thresholdCount := 5
          thresholdSeconds := 60
          metadata := "policy balanced" }) =
      .ok
        { targetPort := "[21,2121]"
          message := "Failed login; again"
          content := "530 "
          nocase := true
          flow := "established,to_server"
          thresholdType := some .both
          thresholdCount := 5
          thresholdSeconds := 60
          metadata := "policy balanced" } :=
  (Rule.parse_encode_of_isTextSafe
    { sourceAddress := by decide
      sourcePort := by decide
      targetAddress := by decide
      targetPort := by decide
      message := ⟨by decide, by decide, by decide, by decide, by decide⟩
      content := ⟨by decide, by decide, by decide, by decide, by decide⟩
      pcre := ⟨by decide, by decide, by decide, by decide, by decide⟩
      content_head := by decide
      classtype := ⟨by decide, by decide, by decide, by decide, by decide, by decide⟩
      reference := ⟨by decide, by decide, by decide, by decide, by decide, by decide⟩
      metadata := ⟨by decide, by decide, by decide, by decide, by decide, by decide⟩ }).trans
    (by decide)

end RuleDesk
