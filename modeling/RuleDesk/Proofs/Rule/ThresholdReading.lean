import RuleDesk.Proofs.Rule.Canonical
import RuleDesk.Proofs.Rule.Keywords
import RuleDesk.Proofs.Rule.OptionCuts

/-!
# Thresholds read back

The parts of a threshold stand between commas, each a key and a value. Their texts hold no comma
and nothing that cuts an option list, so the parts that have a value are read back in order, and
the others are dropped.
-/

set_option autoImplicit false

namespace RuleDesk

open RuleDesk.Text

/-! ## One part -/

theorem words_cons_of_isBlank {c : Char} (hc : isBlank c = true) (s : List Char) :
    words (c :: s) = words s :=
  words_append_cons hc [] s

theorem ThresholdPart.read?_cons_of_isBlank {c : Char} (hc : isBlank c = true) (s : List Char) :
    ThresholdPart.read? (c :: s) = ThresholdPart.read? s := by
  rw [ThresholdPart.read?, ThresholdPart.read?, words_cons_of_isBlank hc]

theorem words_keyed {k : List Char} (hk : IsWord k) (value : List Char) :
    words (k ++ ' ' :: value) = k :: words value := by
  rw [words_append_cons (by decide), words_of_isWord hk]
  rfl

/-- A part without a value is not read back. -/
theorem ThresholdPart.read?_chars (p : ThresholdPart) :
    ThresholdPart.read? p.chars = if p.isSet then some p else none := by
  cases p with
  | type value =>
      have hkey := words_keyed (k := "type".toList) (by decide) ((value.map spelled).getD [])
      show ThresholdPart.read? ("type".toList ++ ' ' :: (value.map spelled).getD []) = _
      rw [ThresholdPart.read?, hkey]
      cases value with
      | none => rfl
      | some t =>
          simp only [Option.map_some, Option.getD_some, words_of_isWord (isWord_spelled t),
            if_true, ofWord?_spelled]
          rfl
  | track value =>
      have hkey := words_keyed (k := "track".toList) (by decide) ((value.map spelled).getD [])
      show ThresholdPart.read? ("track".toList ++ ' ' :: (value.map spelled).getD []) = _
      rw [ThresholdPart.read?, hkey]
      cases value with
      | none => rfl
      | some t =>
          simp only [Option.map_some, Option.getD_some, words_of_isWord (isWord_spelled t),
            ofWord?_spelled]
          rfl
  | count value =>
      have hkey := words_keyed (k := "count".toList) (by decide) (numeral value.toNat)
      show ThresholdPart.read? ("count".toList ++ ' ' :: numeral value.toNat) = _
      rw [ThresholdPart.read?, hkey, words_of_isWord (isWord_numeral _)]
      simp only [readWord?_numeral]
      rfl
  | seconds value =>
      have hkey := words_keyed (k := "seconds".toList) (by decide) (numeral value.toNat)
      show ThresholdPart.read? ("seconds".toList ++ ' ' :: numeral value.toNat) = _
      rw [ThresholdPart.read?, hkey, words_of_isWord (isWord_numeral _)]
      simp only [readWord?_numeral]
      rfl

/-- A character of a threshold part: plain or a space. -/
theorem ThresholdPart.isPlain_of_mem_chars {p : ThresholdPart} {c : Char} (hc : c ∈ p.chars) :
    isPlain c = true ∨ c = ' ' := by
  have hvalue : ∀ (key value : List Char), key.all (fun d => isPlain d || d == ' ') = true →
      (∀ d ∈ value, isPlain d = true) → c ∈ key ++ value → isPlain c = true ∨ c = ' ' := by
    intro key value hkey hvalue hmem
    obtain hmem | hmem := List.mem_append.mp hmem
    · simpa using List.all_eq_true.mp hkey c hmem
    · exact Or.inl (hvalue c hmem)
  cases p with
  | type value =>
      refine hvalue "type ".toList _ (by decide) ?_ hc
      cases value with
      | none => exact fun d hd => absurd hd List.not_mem_nil
      | some t => exact isPlain_spelled t
  | track value =>
      refine hvalue "track ".toList _ (by decide) ?_ hc
      cases value with
      | none => exact fun d hd => absurd hd List.not_mem_nil
      | some t => exact isPlain_spelled t
  | count value => exact hvalue "count ".toList _ (by decide) (isPlain_numeral _) hc
  | seconds value => exact hvalue "seconds ".toList _ (by decide) (isPlain_numeral _) hc

/-! ## The list of parts -/

theorem pieces_joined_comma (p : ThresholdPart) (ps : List ThresholdPart) :
    pieces ',' (joined [',', ' '] ((p :: ps).map ThresholdPart.chars)) =
      p.chars :: ps.map fun q => ' ' :: q.chars := by
  have hcomma : ∀ q : ThresholdPart, ',' ∉ q.chars := by
    intro q hmem
    obtain h | h := ThresholdPart.isPlain_of_mem_chars hmem
    · exact absurd h (by decide)
    · exact absurd h (by decide)
  have hspace : ∀ q : ThresholdPart, ',' ∉ ' ' :: q.chars := by
    intro q hmem
    cases hmem with
    | tail _ h => exact hcomma q h
  -- the induction moves the space behind each comma into the piece that follows
  have hgeneral : ∀ first : List Char, ',' ∉ first →
      pieces ',' (joined [',', ' '] (first :: ps.map ThresholdPart.chars)) =
        first :: ps.map fun q => ' ' :: q.chars := by
    induction ps with
    | nil => exact fun first hfirst => pieces_of_not_mem hfirst
    | cons q ps ih =>
        intro first hfirst
        have hih := ih (' ' :: q.chars) (hspace q)
        have hcons : ' ' :: joined [',', ' '] (q.chars :: ps.map ThresholdPart.chars) =
            joined [',', ' '] ((' ' :: q.chars) :: ps.map ThresholdPart.chars) := by
          cases ps <;> rfl
        rw [List.map_cons, joined_cons_cons, List.append_assoc]
        show pieces ',' (first ++ ',' :: ' ' :: joined [',', ' '] _) = _
        rw [pieces_append_cons, pieces_of_not_mem hfirst, hcons, hih]
        rfl
  exact hgeneral p.chars (hcomma p)

theorem filterMap_read?_pieces (p : ThresholdPart) (ps : List ThresholdPart) :
    (pieces ',' (joined [',', ' '] ((p :: ps).map ThresholdPart.chars))).filterMap
      ThresholdPart.read? = (p :: ps).filter ThresholdPart.isSet := by
  have hrest : (ps.map fun q => ' ' :: q.chars).filterMap ThresholdPart.read? =
      ps.filter ThresholdPart.isSet := by
    induction ps with
    | nil => rfl
    | cons q ps ih =>
        rw [List.map_cons, List.filterMap_cons, List.filter_cons, ih,
          ThresholdPart.read?_cons_of_isBlank (by decide), ThresholdPart.read?_chars]
        cases q.isSet <;> rfl
  rw [pieces_joined_comma, List.filterMap_cons, hrest, ThresholdPart.read?_chars, List.filter_cons]
  cases p.isSet <;> rfl

/-! ## Inert text -/

theorem isInert_of_isPlain {c : Char} (h : isPlain c = true) : OptionList.isInert c = true :=
  (OptionList.isInert_iff c).mpr ⟨ne_of_isPlain h (by decide), ne_of_isPlain h (by decide)⟩

/-- A character of a list of threshold parts: plain, a space or a comma. -/
theorem isPlain_of_mem_threshold {parts : List ThresholdPart} {c : Char}
    (hc : c ∈ joined [',', ' '] (parts.map ThresholdPart.chars)) :
    isPlain c = true ∨ c = ' ' ∨ c = ',' := by
  rcases mem_joined hc with hsep | ⟨piece, hpiece, hc⟩
  · simp only [List.mem_cons, List.not_mem_nil, or_false] at hsep
    rcases hsep with rfl | rfl
    · exact Or.inr (Or.inr rfl)
    · exact Or.inr (Or.inl rfl)
  · obtain ⟨p, -, rfl⟩ := List.mem_map.mp hpiece
    rcases ThresholdPart.isPlain_of_mem_chars hc with h | h
    · exact Or.inl h
    · exact Or.inr (Or.inl h)

theorem not_mem_threshold {parts : List ThresholdPart} {c : Char} (hplain : isPlain c = false)
    (hspace : c ≠ ' ') (hcomma : c ≠ ',') :
    c ∉ joined [',', ' '] (parts.map ThresholdPart.chars) := by
  intro hmem
  rcases isPlain_of_mem_threshold hmem with h | h | h
  · exact Bool.noConfusion (h.symm.trans hplain)
  · exact hspace h
  · exact hcomma h

theorem isInert_of_mem_threshold {parts : List ThresholdPart} {c : Char}
    (hc : c ∈ joined [',', ' '] (parts.map ThresholdPart.chars)) :
    OptionList.isInert c = true := by
  rcases isPlain_of_mem_threshold hc with h | rfl | rfl
  · exact isInert_of_isPlain h
  · decide
  · decide

end RuleDesk
