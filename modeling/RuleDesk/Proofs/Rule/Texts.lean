import RuleDesk.Proofs.Rule.KeyOccurrences
import RuleDesk.Proofs.Rule.RoundTrip

/-!
# Where the texts of a rule come from

Reading makes up no text. Each clause sets one text of a rule at most, and it carries that text; the
text of a clause stands in the option that the clause is read from. So a text of a rule that was
read stands in a header word or in the option list of its line, or it is empty, and no newline is in
it.
-/

set_option autoImplicit false

namespace RuleDesk

open RuleDesk.Text

theorem not_mem_of_isWord {w : List Char} (h : IsWord w) {c : Char} (hc : isBlank c = true) :
    c ∉ w := by
  intro hmem
  rw [h.2 c hmem] at hc
  cases hc

/-! ## Clauses and texts -/

/-- The text that a clause carries. -/
def Clause.text? : Clause → Option String
  | .text _ v | .content _ v => some v
  | .number _ _ | .nocase | .threshold _ => none

namespace Rule

/-- A text option sets one of the texts. -/
theorem exists_strings_set (o : TextOption) (v : String) (s : Rule) :
    ∃ i, (o.set v s).strings = s.strings.set i v := by
  cases o with
  | message => exact ⟨4, rfl⟩
  | classtype => exact ⟨5, rfl⟩
  | reference => exact ⟨6, rfl⟩
  | metadata => exact ⟨10, rfl⟩
  | pcre => exact ⟨8, rfl⟩
  | flow => exact ⟨9, rfl⟩

theorem strings_foldl_threshold (parts : List ThresholdPart) (s : Rule) :
    (parts.foldl ThresholdPart.apply s).strings = s.strings := by
  induction parts generalizing s with
  | nil => rfl
  | cons p parts ih =>
      rw [List.foldl_cons, ih]
      cases p <;> rfl

/-- A text of a rule after a clause was there before, or the clause carries it. -/
theorem mem_strings_apply {s : Rule} {c : Clause} {v : String} (h : v ∈ (c.apply s).strings) :
    v ∈ s.strings ∨ c.text? = some v := by
  have hset : ∀ (w : String) (i : Nat), v ∈ s.strings.set i w → v ∈ s.strings ∨ some w = some v :=
    fun w i hmem => (List.mem_or_eq_of_mem_set hmem).imp_right fun hv => congrArg some hv.symm
  cases c with
  | text o w =>
      obtain ⟨i, hi⟩ := exists_strings_set o w s
      exact hset w i (hi ▸ h)
  | number o n =>
      left
      cases o <;> exact h
  | content negated w => exact hset w 7 h
  | nocase => exact .inl h
  | threshold parts =>
      left
      rw [← strings_foldl_threshold parts s]
      exact h

/-- A text of a rule after a run of clauses was there before, or one of the clauses carries it. -/
theorem mem_strings_applyAll {s : Rule} {cs : List Clause} {v : String}
    (h : v ∈ (s.applyAll cs).strings) :
    v ∈ s.strings ∨ ∃ c ∈ cs, c.text? = some v := by
  induction cs generalizing s with
  | nil => exact .inl h
  | cons c cs ih =>
      -- the rest of the run starts from the rule that the first clause leaves
      rcases ih h with hstep | ⟨d, hd, hv⟩
      · exact (mem_strings_apply hstep).imp_right fun hv => ⟨c, List.mem_cons_self, hv⟩
      · exact .inr ⟨d, List.mem_cons_of_mem c hd, hv⟩

/-- The texts of a rule without options are the words of its header that need not be keywords, and
the empty text. -/
theorem mem_strings_headerOnly {s : Rule} {v : String} (h : v ∈ s.headerOnly.strings) :
    v.toList ∈ s.header ∨ v = "" := by
  simp only [strings, headerOnly, List.mem_cons, List.not_mem_nil, or_false] at h
  simp only [header, List.mem_cons]
  obtain rfl | rfl | rfl | rfl | hempty := h
  · simp
  · simp
  · simp
  · simp
  · exact .inr (by simpa using hempty)

end Rule

/-! ## Options and texts -/

namespace Clause

variable {c : Clause} {v : String}

theorem isInfix_of_ofKey? {key value : List Char} (h : ofKey? key value = some c)
    (hv : c.text? = some v) : v.toList <:+: value := by
  have hself : (String.ofList value).toList <:+: value := by simp
  unfold ofKey? at h
  split at h
  · obtain rfl := Option.some.inj h
    obtain rfl := Option.some.inj hv
    exact hself
  · split at h
    · obtain ⟨n, -, rfl⟩ := Option.map_eq_some_iff.mp h
      cases hv
    · split at h
      · split at h
        · next rest =>
            obtain rfl := Option.some.inj h
            obtain rfl := Option.some.inj hv
            rw [String.toList_ofList]
            exact (isInfix_strip _ rest).trans (List.suffix_cons '!' rest).isInfix
        · obtain rfl := Option.some.inj h
          obtain rfl := Option.some.inj hv
          exact hself
      · split at h
        · obtain rfl := Option.some.inj h
          cases hv
        · split at h
          · obtain rfl := Option.some.inj h
            cases hv
          · cases h

/-- The text of a clause stands in the option that the clause is read from. -/
theorem isInfix_of_read? {option : List Char} (h : read? option = some c) (hv : c.text? = some v) :
    v.toList <:+: option := by
  have htrim : trim option <:+: option := isInfix_strip isBlank option
  simp only [read?] at h
  split at h
  · next key value hcut =>
      have hvalue : v.toList <:+: value :=
        ((isInfix_of_ofKey? h hv).trans (isInfix_unquote _)).trans (isInfix_strip isBlank value)
      rw [eq_append_of_cutAt? hcut] at htrim
      exact hvalue.trans (((List.suffix_cons ':' value).trans
        (List.suffix_append key _)).isInfix.trans htrim)
  · rw [List.infix_nil.mp (isInfix_of_ofKey? h hv)]
    exact List.nil_infix

end Clause

/-! ## Lines and texts -/

/-- No text of a rule that was read has a newline. -/
theorem Rule.newline_not_mem_strings_of_parse {line : String} {r : Rule}
    (h : Rule.parse line = .ok r) : ∀ s ∈ r.strings, '\n' ∉ s.toList := by
  obtain ⟨f, hsound, hrule⟩ := exists_frame_of_parse h
  obtain ⟨s, hs, hheader, rfl⟩ := exists_of_rule_eq_ok hrule
  intro v hv hmem
  rcases mem_strings_applyAll hv with hv | ⟨c, hc, hv⟩
  · -- before the options there are header words, in which nothing is blank, and empty texts
    rw [← hs] at hv
    rcases mem_strings_headerOnly hv with hword | rfl
    · rw [hheader] at hword
      exact not_mem_of_isWord (hsound.isWord_of_mem_header _ hword) (by decide) hmem
    · exact absurd hmem (by decide)
  · -- the text of an option is part of the body, which has no newline
    rw [OptionList.clauses_eq] at hc
    obtain ⟨option, hoption, hread⟩ := List.mem_filterMap.mp hc
    have hin := Clause.isInfix_of_read? hread hv
    exact hsound.body_oneLine (OptionList.mem_of_mem_cut hoption (hin.subset hmem))

end RuleDesk
