import RuleDesk.Proofs.Rule.ClauseReading

/-!
# Clauses that survive

Values are written without escapes, so whether a clause comes back from its text depends on its
value alone: its quotes must close before the clause ends, and no end of it may look like something
that reading removes. `Clause.survives` says this of the value. A clause that survives is a piece
of its own that is read as it was written, and no other clause with a value is.
-/

set_option autoImplicit false

namespace RuleDesk

open RuleDesk.Text

/-- Whether the value of a clause comes back from its text: its quotes close, and its ends hold
nothing that reading removes or takes for a negation. -/
def Clause.survives : Clause → Bool
  | .text o v =>
      if o.isQuoted then
        OptionList.isClosed false none ('"' :: v.toList ++ ['"']) &&
          hasClearEnds isQuoteMark v.toList
      else
        OptionList.isClosed false none v.toList &&
          hasClearEnds (fun c => isBlank c || isQuoteMark c) v.toList
  | .content negated v =>
      OptionList.isClosed false none ('"' :: v.toList ++ ['"']) &&
        v.toList.head?.all (fun c => !(c == '"' || (!negated && (c == '\'' || c == '!')))) &&
        v.toList.getLast?.all (fun c => !isQuoteMark c)
  | .number _ _ | .nocase | .threshold _ => true

/-! ## Contents -/

/-- The ends that a content may not have, for it to survive. -/
theorem Clause.survives_content_iff (negated : Bool) (v : String) :
    (Clause.content negated v).survives = true ↔
      OptionList.isClosed false none ('"' :: v.toList ++ ['"']) = true ∧
        (∀ c, v.toList.head? = some c → c ≠ '"' ∧ (negated = false → c ≠ '\'' ∧ c ≠ '!')) ∧
        (∀ c, v.toList.getLast? = some c → c ≠ '"' ∧ c ≠ '\'') := by
  simp only [survives, Bool.and_eq_true, and_assoc, Option.all_eq_true_iff_get]
  cases v.toList.head? <;> cases v.toList.getLast? <;> cases negated <;> simp [isQuoteMark]

/-- Stripping that gives a text back has removed nothing on its way. -/
theorem eq_of_strip_stripRight {v : List Char}
    (h : strip (· == '"') (stripRight (· == '\'') (stripRight (· == '"') v)) = v) :
    strip (· == '"') v = v ∧ stripRight (· == '\'') v = v := by
  -- each of the three steps can only shorten, so none of them does
  have houter := (strip_sublist (· == '"') (stripRight (· == '\'')
    (stripRight (· == '"') v))).length_le
  have hmiddle := stripRight_sublist (· == '\'') (stripRight (· == '"') v)
  have hinner := stripRight_sublist (· == '"') v
  rw [h] at houter
  have hinner_eq : stripRight (· == '"') v = v :=
    hinner.eq_of_length_le (houter.trans hmiddle.length_le)
  rw [hinner_eq] at h houter hmiddle
  have hmiddle_eq : stripRight (· == '\'') v = v := hmiddle.eq_of_length_le houter
  rw [hmiddle_eq] at h
  exact ⟨h, hmiddle_eq⟩

/-- A text that is read as negated has lost its mark, so it does not come back whole. -/
theorem head?_unquote_of_ofContent {b : Bool} {v : String}
    (h : Clause.ofContent (unquote v.toList) = .content b v) :
    (unquote v.toList).head? ≠ some '!' := by
  intro hmark
  cases hu : unquote v.toList with
  | nil =>
      rw [hu] at hmark
      exact absurd hmark (by decide)
  | cons c rest =>
      rw [hu, List.head?_cons, Option.some.injEq] at hmark
      subst hmark
      rw [hu] at h
      simp only [Clause.ofContent, Clause.content.injEq] at h
      have hv := congrArg (fun w : String => w.toList.length) h.2
      have hstrip := (strip_sublist (· == '"') rest).length_le
      have hle := length_unquote_le v.toList
      simp only [String.toList_ofList] at hv
      rw [hu, List.length_cons] at hle
      omega

/-- A content that comes back whole has only ends that survive. -/
theorem Clause.survives_of_ofContent {negated b : Bool} {v : String}
    (hclosed : OptionList.isClosed false none ('"' :: v.toList ++ ['"']) = true)
    (h : Clause.ofContent (unquote (negationMark negated ++ v.toList)) = .content b v) :
    (Clause.content negated v).survives = true := by
  rw [survives_content_iff]
  refine ⟨hclosed, ?_⟩
  cases negated with
  | true =>
      -- the mark protects the left end from single quotes; double quotes behind it go later
      have hcontent : Clause.ofContent (unquote ('!' :: v.toList)) = .content b v := h
      rw [unquote_negated] at hcontent
      simp only [ofContent, Clause.content.injEq] at hcontent
      have hv := congrArg String.toList hcontent.2
      rw [String.toList_ofList] at hv
      obtain ⟨hdouble, hsingle⟩ := eq_of_strip_stripRight hv
      have hends := (hasClearEnds_iff v.toList).mp ((strip_eq_self_iff v.toList).mp hdouble)
      constructor
      · intro c hc
        exact ⟨beq_eq_false_iff_ne.mp (hends.1 c hc), fun hfalse => absurd hfalse (by decide)⟩
      · intro c hc
        have hlast := (stripRight_eq_self_iff v.toList).mp hsingle c hc
        exact ⟨beq_eq_false_iff_ne.mp (hends.2 c hc), beq_eq_false_iff_ne.mp hlast⟩
  | false =>
      have hcontent : Clause.ofContent (unquote v.toList) = .content b v := h
      have hhead := head?_unquote_of_ofContent hcontent
      rw [ofContent_of_head hhead] at hcontent
      simp only [Clause.content.injEq] at hcontent
      have hv := congrArg String.toList hcontent.2
      rw [String.toList_ofList] at hv
      have hends := (hasClearEnds_iff v.toList).mp ((unquote_eq_self_iff v.toList).mp hv)
      rw [hv] at hhead
      constructor
      · intro c hc
        have hquote := (isQuoteMark_eq_false_iff c).mp (hends.1 c hc)
        exact ⟨hquote.1, fun _ => ⟨hquote.2, fun hmark => hhead (by rw [hc, hmark])⟩⟩
      · intro c hc
        exact (isQuoteMark_eq_false_iff c).mp (hends.2 c hc)

theorem Clause.ofContent_of_survives {negated : Bool} {v : String}
    (h : (Clause.content negated v).survives = true) :
    Clause.ofContent (unquote (negationMark negated ++ v.toList)) = .content negated v := by
  obtain ⟨-, hhead, hlast⟩ := (survives_content_iff negated v).mp h
  cases negated with
  | true =>
      have hdouble : stripRight (· == '"') v.toList = v.toList :=
        (stripRight_eq_self_iff _).mpr fun c hc => beq_eq_false_iff_ne.mpr (hlast c hc).1
      have hsingle : stripRight (· == '\'') v.toList = v.toList :=
        (stripRight_eq_self_iff _).mpr fun c hc => beq_eq_false_iff_ne.mpr (hlast c hc).2
      have hends : strip (· == '"') v.toList = v.toList := by
        refine (strip_eq_self_iff _).mpr ((hasClearEnds_iff _).mpr ⟨?_, ?_⟩)
        · exact fun c hc => beq_eq_false_iff_ne.mpr (hhead c hc).1
        · exact fun c hc => beq_eq_false_iff_ne.mpr (hlast c hc).1
      show Clause.ofContent (unquote ('!' :: v.toList)) = _
      rw [unquote_negated, hdouble, hsingle]
      simp only [ofContent, hends, String.ofList_toList]
  | false =>
      have hunquote : unquote v.toList = v.toList := by
        refine (unquote_eq_self_iff _).mpr ((hasClearEnds_iff _).mpr ⟨?_, ?_⟩)
        · intro c hc
          exact (isQuoteMark_eq_false_iff c).mpr ⟨(hhead c hc).1, ((hhead c hc).2 rfl).1⟩
        · intro c hc
          exact (isQuoteMark_eq_false_iff c).mpr (hlast c hc)
      show Clause.ofContent (unquote v.toList) = _
      rw [hunquote, ofContent_of_head fun hmark => ((hhead '!' hmark).2 rfl).2 rfl,
        String.ofList_toList]

/-! ## Pieces and readings -/

/-- A clause that survives is a piece of its own. -/
theorem Clause.isClosed_of_survives {c : Clause} (h : c.survives = true) :
    OptionList.isClosed false none c.chars = true := by
  cases c with
  | text o v =>
      cases ho : o.isQuoted with
      | true =>
          simp only [survives, ho, if_true, Bool.and_eq_true] at h
          rw [chars_quoted ho, isClosed_keyed (isPlain_spelled o)]
          exact h.1
      | false =>
          simp only [survives, ho, Bool.false_eq_true, if_false, Bool.and_eq_true] at h
          rw [chars_bare ho, isClosed_keyed (isPlain_spelled o)]
          exact h.1
  | number o v =>
      apply (isClosed_keyed (isPlain_spelled o) _).trans
      exact OptionList.isClosed_of_inert (fun c hc => isInert_of_isPlain (isPlain_numeral _ c hc)) _
  | content negated v =>
      simp only [survives, Bool.and_eq_true] at h
      rw [chars_content, isClosed_keyed isPlain_content]
      cases negated with
      | false => exact h.1.1
      | true => exact (isClosed_negated (v.toList ++ ['"'])).trans h.1.1
  | nocase => decide
  | threshold parts =>
      apply (isClosed_keyed isPlain_threshold _).trans
      exact OptionList.isClosed_of_inert (fun c hc => isInert_of_mem_threshold hc) _

/-- A clause that survives is read as it was written, but for the parts without a value. -/
theorem Clause.read?_of_survives {c : Clause} (hc : c.IsWritten) (h : c.survives = true) :
    Clause.read? c.chars = some c.reread := by
  cases c with
  | text o v =>
      cases ho : o.isQuoted with
      | true =>
          simp only [survives, ho, if_true, Bool.and_eq_true] at h
          rw [read?_quoted ho, (unquote_eq_self_iff _).mpr h.2, String.ofList_toList]
          rfl
      | false =>
          simp only [survives, ho, Bool.false_eq_true, if_false, Bool.and_eq_true] at h
          rw [read?_bare ho, (unquote_trim_eq_self_iff _).mpr h.2, String.ofList_toList]
          rfl
  | number o v =>
      have hplain := isPlain_numeral v.toNat
      show Clause.read? (spelled o ++ ':' :: numeral v.toNat) = _
      rw [read?_keyed (isWord_spelled o).1 (isPlain_spelled o), trim_of_isPlain hplain,
        unquote_of_isPlain hplain, ofKey?_number, readWord?_numeral]
      rfl
  | content negated v =>
      rw [read?_content, ofContent_of_survives h]
      rfl
  | nocase => rfl
  | threshold parts =>
      obtain ⟨kind, track, count, seconds, rfl⟩ := hc
      exact read?_threshold kind track count seconds

/-- A clause with a value survives if it is a piece of its own from which the value is read. -/
theorem Clause.survives_of_read? {c d : Clause}
    (hclosed : OptionList.isClosed false none c.chars = true)
    (hread : Clause.read? c.chars = some d)
    (htext : ∀ o v, c = .text o v → d = .text o v)
    (hcontent : ∀ negated v, c = .content negated v → ∃ b, d = .content b v) :
    c.survives = true := by
  cases c with
  | text o v =>
      have hd := htext o v rfl
      subst hd
      cases ho : o.isQuoted with
      | true =>
          rw [chars_quoted ho, isClosed_keyed (isPlain_spelled o)] at hclosed
          rw [read?_quoted ho] at hread
          simp only [Option.some.injEq, Clause.text.injEq, true_and] at hread
          have hv := congrArg String.toList hread
          rw [String.toList_ofList] at hv
          simp only [survives, ho, if_true, Bool.and_eq_true]
          exact ⟨hclosed, (unquote_eq_self_iff _).mp hv⟩
      | false =>
          rw [chars_bare ho, isClosed_keyed (isPlain_spelled o)] at hclosed
          rw [read?_bare ho] at hread
          simp only [Option.some.injEq, Clause.text.injEq, true_and] at hread
          have hv := congrArg String.toList hread
          rw [String.toList_ofList] at hv
          simp only [survives, ho, Bool.false_eq_true, if_false, Bool.and_eq_true]
          exact ⟨hclosed, (unquote_trim_eq_self_iff _).mp hv⟩
  | content negated v =>
      obtain ⟨b, hd⟩ := hcontent negated v rfl
      rw [read?_content, hd, Option.some.injEq] at hread
      rw [chars_content, isClosed_keyed isPlain_content] at hclosed
      refine survives_of_ofContent ?_ hread
      cases negated with
      | false => exact hclosed
      | true => exact (isClosed_negated (v.toList ++ ['"'])).symm.trans hclosed
  | number o v => rfl
  | nocase => rfl
  | threshold parts => rfl

end RuleDesk
