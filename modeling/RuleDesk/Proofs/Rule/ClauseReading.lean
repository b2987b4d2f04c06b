import RuleDesk.Proofs.Rule.Canonical
import RuleDesk.Proofs.Rule.ThresholdReading

/-!
# Reading clauses

A clause is read by its key: behind a plain key and a colon the value is trimmed, and quotes at its
ends are removed. So the text of a clause is read as a clause with the same key, whose value is the
old one without what its ends have lost.
-/

set_option autoImplicit false

namespace RuleDesk

open RuleDesk.Text

/-! ## Unquoting -/

/-- A double or a single quote. -/
def isQuoteMark (c : Char) : Bool :=
  c == '"' || c == '\''

theorem isQuoteMark_eq_false_iff (c : Char) :
    isQuoteMark c = false ↔ c ≠ '"' ∧ c ≠ '\'' := by
  simp [isQuoteMark]

theorem isQuoteMark_of_isPlain {c : Char} (h : isPlain c = true) : isQuoteMark c = false :=
  (isQuoteMark_eq_false_iff c).mpr ⟨ne_of_isPlain h (by decide), ne_of_isPlain h (by decide)⟩

theorem unquote_eq_self_iff (s : List Char) :
    unquote s = s ↔ hasClearEnds isQuoteMark s = true := by
  have hends : hasClearEnds isQuoteMark s =
      (hasClearEnds (· == '"') s && hasClearEnds (· == '\'') s) := hasClearEnds_or _ _ s
  rw [hends, Bool.and_eq_true, ← strip_eq_self_iff, ← strip_eq_self_iff]
  unfold unquote
  constructor
  · intro h
    -- the second stripping cannot restore what the first has removed
    have hdouble : strip (· == '"') s = s := by
      apply strip_eq_self_of_length_le
      have hle := (strip_sublist (· == '\'') (strip (· == '"') s)).length_le
      rwa [h] at hle
    rw [hdouble] at h
    exact ⟨hdouble, h⟩
  · rintro ⟨hdouble, hsingle⟩
    rw [hdouble, hsingle]

/-- The quotes around a value do not matter to its unquoting. -/
theorem unquote_quoted (s : List Char) : unquote ('"' :: s ++ ['"']) = unquote s := by
  have h : strip (· == '"') ('"' :: s ++ ['"']) = strip (· == '"') s :=
    strip_append_of_all (a := ['"']) (b := ['"']) s (by simp) (by simp)
  rw [unquote, unquote, h]

theorem length_unquote_le (s : List Char) : (unquote s).length ≤ s.length :=
  ((strip_sublist _ _).trans (strip_sublist _ s)).length_le

theorem trim_quoted (s : List Char) : trim ('"' :: s ++ ['"']) = '"' :: s ++ ['"'] := by
  refine (strip_eq_self_iff _).mpr ((hasClearEnds_iff _).mpr ⟨?_, ?_⟩)
  · intro c hc
    simp only [List.cons_append, List.head?_cons, Option.some.injEq] at hc
    subst hc
    decide
  · intro c hc
    rw [List.getLast?_concat, Option.some.injEq] at hc
    subst hc
    decide

/-- A bare value is read as it stands if nothing at its ends is blank or a quote. -/
theorem unquote_trim_eq_self_iff (s : List Char) :
    unquote (trim s) = s ↔ hasClearEnds (fun c => isBlank c || isQuoteMark c) s = true := by
  rw [hasClearEnds_or, Bool.and_eq_true, ← strip_eq_self_iff, ← unquote_eq_self_iff]
  show unquote (trim s) = s ↔ trim s = s ∧ unquote s = s
  constructor
  · intro h
    have htrim : trim s = s := by
      apply strip_eq_self_of_length_le
      have hle := length_unquote_le (trim s)
      rwa [h] at hle
    rw [htrim] at h
    exact ⟨htrim, h⟩
  · rintro ⟨htrim, hunquote⟩
    rw [htrim, hunquote]

theorem unquote_of_isPlain {s : List Char} (h : ∀ c ∈ s, isPlain c = true) : unquote s = s := by
  have hquote : ∀ q, isPlain q = false → strip (· == q) s = s := fun q hq =>
    strip_of_isPlain (fun c hc => beq_eq_false_iff_ne.mpr (ne_of_isPlain hc hq)) h
  rw [unquote, hquote '"' (by decide), hquote '\'' (by decide)]

theorem unquote_negated (v : List Char) :
    unquote ('!' :: v) = '!' :: stripRight (· == '\'') (stripRight (· == '"') v) := by
  have hdouble : strip (· == '"') ('!' :: v) = '!' :: stripRight (· == '"') v :=
    stripRight_append_cons (by decide) [] v
  rw [unquote, hdouble]
  exact stripRight_append_cons (by decide) [] _

/-! ## Reading by the key -/

/-- Blank characters before an option do not matter. -/
theorem Clause.read?_cons_of_isBlank {c : Char} (hc : isBlank c = true) (s : List Char) :
    Clause.read? (c :: s) = Clause.read? s := by
  have h : trim (c :: s) = trim s := by
    have hstrip := strip_append_of_all (a := [c]) (b := []) s (by simpa using hc) (by simp)
    rwa [List.append_nil] at hstrip
  rw [Clause.read?, Clause.read?, h]

section Keyed

variable {k : List Char}

theorem trim_keyed (hne : k ≠ []) (hkey : ∀ c ∈ k, isPlain c = true) (value : List Char) :
    trim (k ++ ':' :: value) = k ++ ':' :: stripRight isBlank value := by
  have hdrop : (k ++ ':' :: value).dropWhile isBlank = k ++ ':' :: value := by
    cases k with
    | nil => exact absurd rfl hne
    | cons c rest =>
        have hc := isBlank_of_isPlain (hkey c List.mem_cons_self)
        exact List.dropWhile_cons_of_neg (by simp [hc])
  rw [trim, strip, hdrop, stripRight_append_cons (by decide)]

/-- Behind a plain key the value is trimmed and unquoted. -/
theorem Clause.read?_keyed (hne : k ≠ []) (hkey : ∀ c ∈ k, isPlain c = true)
    (value : List Char) :
    Clause.read? (k ++ ':' :: value) = Clause.ofKey? k (unquote (trim value)) := by
  have hcut : cutAt? ':' (trim (k ++ ':' :: value)) = some (k, stripRight isBlank value) := by
    rw [trim_keyed hne hkey]
    exact cutAt?_append (not_mem_of_isPlain hkey (by decide)) _
  have hvalue : trim (stripRight isBlank value) = trim value := strip_stripRight isBlank value
  simp only [Clause.read?, hcut, trim_of_isPlain hkey, hvalue]

end Keyed

theorem Clause.ofKey?_text (o : TextOption) (value : List Char) :
    Clause.ofKey? (spelled o) value = some (.text o (String.ofList value)) := by
  simp only [Clause.ofKey?, ofWord?_spelled]

theorem Clause.ofKey?_number (o : NumberOption) (value : List Char) :
    Clause.ofKey? (spelled o) value = (readWord? value).map (.number o) := by
  -- text options are looked up first, and no number option is spelled like one
  have htext : (Vocabulary.ofWord? (String.ofList (spelled o)) : Option TextOption) = none := by
    cases o <;> rfl
  simp only [Clause.ofKey?, htext, ofWord?_spelled]

theorem isPlain_content : ∀ c ∈ "content".toList, isPlain c = true :=
  List.all_eq_true.mp (by decide)

theorem isPlain_threshold : ∀ c ∈ "threshold".toList, isPlain c = true :=
  List.all_eq_true.mp (by decide)

/-- The clause of a content option with a given bare value. -/
def Clause.ofContent : List Char → Clause
  | '!' :: rest => .content true (String.ofList (strip (· == '"') rest))
  | value => .content false (String.ofList value)

theorem Clause.ofKey?_content (value : List Char) :
    Clause.ofKey? "content".toList value = some (Clause.ofContent value) := by
  have htext : (Vocabulary.ofWord? (String.ofList "content".toList) : Option TextOption) = none :=
    rfl
  have hnumber :
      (Vocabulary.ofWord? (String.ofList "content".toList) : Option NumberOption) = none := rfl
  simp only [Clause.ofKey?, htext, hnumber, if_true]
  cases value with
  | nil => rfl
  | cons c rest =>
      by_cases hc : c = '!'
      · subst hc
        rfl
      · simp [Clause.ofContent, hc]

theorem Clause.ofContent_of_head {v : List Char} (h : v.head? ≠ some '!') :
    Clause.ofContent v = .content false (String.ofList v) := by
  cases v with
  | nil => rfl
  | cons c rest =>
      have hc : c ≠ '!' := fun hc => h (by rw [hc]; rfl)
      simp [ofContent, hc]

theorem Clause.ofKey?_threshold (value : List Char) :
    Clause.ofKey? "threshold".toList value =
      some (.threshold ((pieces ',' value).filterMap ThresholdPart.read?)) := rfl

/-! ## Clauses as a rule writes them -/

/-- Whether a clause has a shape that rules write: the parts of a threshold stand in their order. -/
def Clause.IsWritten : Clause → Prop
  | .threshold parts =>
      ∃ kind track count seconds,
        parts = [.type kind, .track track, .count count, .seconds seconds]
  | _ => True

/-- Every clause of a rule has a shape that rules write. -/
theorem Rule.isWritten_of_mem_clauses {r : Rule} {c : Clause} (hc : c ∈ r.clauses) :
    c.IsWritten := by
  obtain ⟨o, -, -, rfl⟩ | rfl | ⟨o, v, rfl⟩ | ⟨-, rfl⟩ | rfl | rfl := cases_of_mem_clauses hc
  · trivial
  · trivial
  · trivial
  · trivial
  · trivial
  · exact ⟨_, _, _, _, rfl⟩

/-! ## Texts -/

theorem Clause.chars_quoted {o : TextOption} (ho : o.isQuoted = true) (v : String) :
    (Clause.text o v).chars = spelled o ++ ':' :: ('"' :: v.toList ++ ['"']) := by
  apply (if_pos ho).trans
  rw [List.append_assoc]
  rfl

theorem Clause.chars_bare {o : TextOption} (ho : o.isQuoted = false) (v : String) :
    (Clause.text o v).chars = spelled o ++ ':' :: v.toList :=
  if_neg (Bool.eq_false_iff.mp ho)

/-- What stands before a negated content. -/
def negationMark (negated : Bool) : List Char :=
  if negated then ['!'] else []

theorem Clause.chars_content (negated : Bool) (v : String) :
    (Clause.content negated v).chars =
      "content".toList ++ ':' :: ('"' :: (negationMark negated ++ v.toList) ++ ['"']) := by
  show ("content".toList ++ ':' :: '"' :: negationMark negated) ++ v.toList ++ ['"'] = _
  simp only [List.append_assoc, List.cons_append]

/-! ## Cuts -/

theorem isClosed_keyed {k : List Char} (hkey : ∀ c ∈ k, isPlain c = true) (s : List Char) :
    OptionList.isClosed false none (k ++ ':' :: s) = OptionList.isClosed false none s :=
  OptionList.isClosed_inert_append (fun c hc => isInert_of_isPlain (hkey c hc)) none s

/-- The mark of a negation does not matter to the quotes around a content. -/
theorem isClosed_negated (s : List Char) :
    OptionList.isClosed false none ('"' :: '!' :: s) =
      OptionList.isClosed false none ('"' :: s) := by
  show OptionList.isClosed true (some '"') ('!' :: s) = OptionList.isClosed true (some '"') s
  rw [OptionList.isClosed_cons_of_isInert (by decide),
    OptionList.isClosed_of_ne (show some '!' ≠ some '\\' by decide),
    OptionList.isClosed_of_ne (show some '"' ≠ some '\\' by decide)]

/-! ## Readings -/

theorem Clause.read?_quoted {o : TextOption} (ho : o.isQuoted = true) (v : String) :
    Clause.read? (Clause.text o v).chars = some (.text o (String.ofList (unquote v.toList))) := by
  rw [chars_quoted ho, read?_keyed (isWord_spelled o).1 (isPlain_spelled o), trim_quoted,
    unquote_quoted, ofKey?_text]

theorem Clause.read?_bare {o : TextOption} (ho : o.isQuoted = false) (v : String) :
    Clause.read? (Clause.text o v).chars =
      some (.text o (String.ofList (unquote (trim v.toList)))) := by
  rw [chars_bare ho, read?_keyed (isWord_spelled o).1 (isPlain_spelled o), ofKey?_text]

theorem Clause.read?_content (negated : Bool) (v : String) :
    Clause.read? (Clause.content negated v).chars =
      some (Clause.ofContent (unquote (negationMark negated ++ v.toList))) := by
  rw [chars_content, read?_keyed (k := "content".toList) (by decide) isPlain_content, trim_quoted,
    unquote_quoted, ofKey?_content]

theorem getLast?_append_numeral (s : List Char) (n : Nat) :
    (s ++ numeral n).getLast? = (numeral n).getLast? := by
  rw [List.getLast?_append]
  cases h : (numeral n).getLast? with
  | none => exact absurd (List.getLast?_eq_none_iff.mp h) (numeral_ne_nil n)
  | some c => rfl

/-- A threshold ends with the digits of its span, and so no end of it is removed. -/
theorem unquote_trim_threshold {s : List Char} {n : Nat}
    (h : ∃ front, s = 't' :: front ++ numeral n) : unquote (trim s) = s := by
  obtain ⟨front, hs⟩ := h
  refine (unquote_trim_eq_self_iff s).mpr ((hasClearEnds_iff s).mpr ⟨?_, ?_⟩)
  · intro c hc
    rw [hs, List.cons_append, List.head?_cons, Option.some.injEq] at hc
    subst hc
    decide
  · intro c hc
    rw [hs, getLast?_append_numeral] at hc
    have hplain := isPlain_numeral _ c (List.mem_of_mem_getLast? hc)
    rw [isBlank_of_isPlain hplain, isQuoteMark_of_isPlain hplain]
    rfl

theorem Clause.read?_threshold (kind : Option ThresholdType) (track : Option ThresholdTrack)
    (count seconds : UInt32) :
    Clause.read? (Clause.threshold
        [.type kind, .track track, .count count, .seconds seconds]).chars =
      some (Clause.threshold
        [.type kind, .track track, .count count, .seconds seconds]).reread := by
  have hends : ∃ front, joined [',', ' '] (List.map ThresholdPart.chars
      [.type kind, .track track, .count count, .seconds seconds]) =
        't' :: front ++ numeral seconds.toNat := by
    refine ⟨"ype ".toList ++ (kind.map spelled).getD [] ++ [',', ' '] ++
      ((ThresholdPart.track track).chars ++ [',', ' '] ++
        ((ThresholdPart.count count).chars ++ [',', ' '] ++ "seconds ".toList)), ?_⟩
    show 't' :: ("ype ".toList ++ (kind.map spelled).getD []) ++ [',', ' '] ++
      ((ThresholdPart.track track).chars ++ [',', ' '] ++
        ((ThresholdPart.count count).chars ++ [',', ' '] ++
          ("seconds ".toList ++ numeral seconds.toNat))) = _
    simp only [List.append_assoc, List.cons_append]
  have hread := Clause.read?_keyed (k := "threshold".toList) (by decide) isPlain_threshold
    (joined [',', ' '] (List.map ThresholdPart.chars
      [.type kind, .track track, .count count, .seconds seconds]))
  rw [unquote_trim_threshold hends, ofKey?_threshold, filterMap_read?_pieces] at hread
  exact hread

end RuleDesk
