import RuleDesk.Export
import RuleDesk.Proofs.Import.Lines
import RuleDesk.Proofs.Rule.RoundTrip
import RuleDesk.Proofs.Text.Utf8

/-!
# Files of rule text read back line by line

A file of rule text is a banner of comments, an empty line and one line for each rule. No line
holds a line feed, so cutting the file gives these lines back; the banner is passed over, and each
rule's line is read for itself, whether it is read as a rule or not.
-/

set_option autoImplicit false

namespace RuleDesk

open RuleDesk.Text

/-! ## The line of a rule -/

namespace Rule

/-- A rule whose texts hold no line feed is written on one line. -/
theorem newline_not_mem_chars {r : Rule} (h : ∀ s ∈ r.strings, '\n' ∉ s.toList) :
    '\n' ∉ r.chars := by
  have hbody := (isOneLine_of_strings h).newline_not_mem_body
  have hheader : ∀ w ∈ r.header, '\n' ∉ w := by
    simp only [header, List.forall_mem_cons]
    refine ⟨newline_not_mem_of_isPlain (isPlain_spelled r.action),
      newline_not_mem_of_isPlain (isPlain_spelled r.protocol), ?_, ?_,
      newline_not_mem_of_isPlain (isPlain_spelled r.direction), ?_, ?_,
      fun w hw => absurd hw List.not_mem_nil⟩
    all_goals
      apply h
      simp [strings]
  intro hmem
  rw [chars, List.mem_append, List.mem_append] at hmem
  rcases hmem with (hmem | hmem) | hmem
  · rcases mem_joined hmem with hspace | ⟨w, hw, hin⟩
    · exact absurd hspace (by decide)
    · exact hheader w hw hin
  · simp only [List.mem_cons] at hmem
    rcases hmem with hspace | hparenthesis | hmem
    · exact absurd hspace (by decide)
    · exact absurd hparenthesis (by decide)
    · exact hbody hmem
  · exact absurd hmem (by decide)

end Rule

/-- The line of a rule is neither blank nor a comment, so it is read for itself. -/
theorem readLine_chars (number : Nat) (r : Rule) :
    readLine number r.chars = .ofRecord (.line number) (Rule.parse r.encode) := by
  have htrim : trim r.chars = r.chars := r.frame.trim_chars (isWord_spelled r.action)
  rw [readLine, htrim, r.isEmptyOrComment_chars, Rule.parse, Rule.encode, String.toList_ofList]
  rfl

/-! ## The banner -/

theorem newline_not_mem_padded (width n : Nat) : '\n' ∉ Timestamp.padded width n := by
  have hnumeral := newline_not_mem_of_isPlain (isPlain_numeral n)
  rw [Timestamp.padded, List.mem_append, List.mem_replicate]
  rintro (⟨-, hzero⟩ | hmem)
  · exact absurd hzero (by decide)
  · exact hnumeral hmem

/-- A date is written in digits, signs and colons. -/
theorem newline_not_mem_spaced (t : Timestamp) : '\n' ∉ t.spaced := by
  have hyear : '\n' ∉ t.yearChars := by
    rw [Timestamp.yearChars]
    split
    · exact newline_not_mem_padded 4 _
    · split <;> simp [newline_not_mem_padded]
  have hdate : '\n' ∉ t.dateChars := by
    simp [Timestamp.dateChars, joined, hyear, newline_not_mem_padded]
  have htime : '\n' ∉ t.timeChars := by
    simp [Timestamp.timeChars, joined, newline_not_mem_padded]
  simp [Timestamp.spaced, hdate, htime]

theorem newline_not_mem_banner (count : Nat) (now : Timestamp) :
    ∀ line ∈ banner count now, '\n' ∉ line := by
  have hcount := newline_not_mem_of_isPlain (isPlain_numeral count)
  have hnow := newline_not_mem_spaced now
  simp only [banner, List.forall_mem_cons]
  refine ⟨by decide, by decide, ?_, ?_, by decide, by decide,
    fun w hw => absurd hw List.not_mem_nil⟩
  · rw [List.mem_append]
    rintro (hmem | hmem)
    · exact absurd hmem (by decide)
    · exact hnow hmem
  · rw [List.mem_append]
    rintro (hmem | hmem)
    · exact absurd hmem (by decide)
    · exact hcount hmem

/-- A line that begins with a number sign is passed over. -/
theorem readLine_of_head? {line : List Char} (h : line.head? = some '#') (number : Nat) :
    readLine number line = .empty := by
  obtain ⟨tail, rfl⟩ := List.head?_eq_some_iff.mp h
  have htrim : trim ('#' :: tail) = '#' :: stripRight isBlank tail := by
    rw [trim, strip, List.dropWhile_cons_of_neg (by decide)]
    exact stripRight_append_cons (by decide) [] tail
  rw [readLine, htrim]
  rfl

theorem readLines_eq_empty {lines : List (List Char)}
    (h : ∀ line ∈ lines, ∀ number, readLine number line = .empty) (number : Nat) :
    readLines number lines = .empty := by
  induction lines generalizing number with
  | nil => rfl
  | cons line rest ih =>
      rw [readLines, h line List.mem_cons_self, Imported.empty_append]
      exact ih (fun l hl => h l (List.mem_cons_of_mem line hl)) _

/-- Nothing is read from the banner. -/
theorem readLines_banner (number count : Nat) (now : Timestamp) :
    readLines number (banner count now) = .empty := by
  apply readLines_eq_empty
  simp only [banner, List.forall_mem_cons]
  refine ⟨readLine_of_head? rfl, readLine_of_head? (by decide), readLine_of_head? ?_,
    readLine_of_head? ?_, readLine_of_head? rfl, fun n => rfl,
    fun w hw => absurd hw List.not_mem_nil⟩
  · have hhead : "# Date: ".toList.head? = some '#' := by decide
    rw [List.head?_append, hhead]
    rfl
  · have hhead : "# Total Rules: ".toList.head? = some '#' := by decide
    rw [List.head?_append, hhead]
    rfl

/-! ## Files -/

/-- The error of a line that is not read as a rule. -/
def lineError? (number : Nat) : Except LineError Rule → Option RecordError
  | .ok _ => none
  | .error cause => some (.line number cause)

/-- The lines of rules are read one by one, each with its number. -/
theorem readLines_chars (number : Nat) (rules : List Rule) :
    readLines number (rules.map Rule.chars) =
      { rules := rules.filterMap fun r => (Rule.parse r.encode).toOption
        errors := (rules.zipIdx number).filterMap fun (r, n) =>
          lineError? n (Rule.parse r.encode) } := by
  induction rules generalizing number with
  | nil => rfl
  | cons r rest ih =>
      rw [List.map_cons, readLines, readLine_chars, ih]
      simp only [List.zipIdx_cons, List.filterMap_cons]
      cases Rule.parse r.encode with
      | ok read => rfl
      | error cause => rfl

/-- The lines of a file are its banner, one line for each rule, and the empty text behind the last
line feed. -/
theorem pieces_rulesFileChars {rules : List Rule} (now : Timestamp)
    (hline : ∀ r ∈ rules, ∀ s ∈ r.strings, '\n' ∉ s.toList) :
    pieces '\n' (rulesFileChars rules now) =
      banner rules.length now ++ (rules.map Rule.chars ++ [[]]) := by
  have hlines : ∀ line ∈ banner rules.length now ++ rules.map Rule.chars, '\n' ∉ line := by
    intro line hmem
    rcases List.mem_append.mp hmem with hbanner | hrule
    · exact newline_not_mem_banner _ _ line hbanner
    · obtain ⟨r, hr, rfl⟩ := List.mem_map.mp hrule
      exact Rule.newline_not_mem_chars (hline r hr)
  rw [rulesFileChars, pieces_append_cons, pieces_joined (by simp [banner]) hlines,
    List.append_assoc]
  rfl

/-- A file of rule text is read line by line: the rule that stands at place `i` is line `7 + i`, and
nothing else is read. The rules are those whose own texts are read back, in their order, and each of
the others gives one error, with the number of its line. -/
theorem importFile_rulesFile (rules : List Rule) (now : Timestamp) (hne : rules ≠ [])
    (hline : ∀ r ∈ rules, ∀ s ∈ r.strings, '\n' ∉ s.toList) :
    ∃ file, rulesFile? rules now = some file ∧
      importFile .rules (toOctets file.body.toList) = .ok
        { rules := rules.filterMap fun r => (Rule.parse r.encode).toOption
          errors := (rules.zipIdx 7).filterMap fun (r, number) =>
            lineError? number (Rule.parse r.encode) } := by
  have hfile : rules.isEmpty = false := List.isEmpty_eq_false_iff.mpr hne
  refine ⟨_, by rw [rulesFile?, hfile]; rfl, ?_⟩
  rw [importFile, importRules, String.toList_ofList, lossyText_toOctets,
    pieces_rulesFileChars now hline, readLines_append, readLines_banner, readLines_append,
    Imported.empty_append]
  show Except.ok ((readLines 7 _).append .empty) = _
  rw [readLines_chars]
  simp only [Imported.append, Imported.empty, List.append_nil]

/-- Two rules, of which one has no source address and is not read back. The other has a carriage
return and a number sign in its message, which begin no line. -/
theorem importFile_rulesFile_without_address :
    ∃ file,
      rulesFile? [{ sourceAddress := "" }, { message := "one\r# two", sid := 7 }]
        ⟨2024, 5, 1, 12, 30, 0, 0⟩ = some file ∧
      importFile .rules (toOctets file.body.toList) = .ok
        { rules := [{ message := "one\r# two", sid := 7 }]
          errors := [.line 7 .noFrame] } := by
  have hfirst : Rule.parse (Rule.encode { sourceAddress := "" }) = .error .noFrame := by
    decide +kernel
  have hsecond : Rule.parse (Rule.encode { message := "one\r# two", sid := 7 }) =
      .ok { message := "one\r# two", sid := 7 } := by
    decide +kernel
  obtain ⟨file, hfile, hread⟩ := importFile_rulesFile
    [{ sourceAddress := "" }, { message := "one\r# two", sid := 7 }]
    ⟨2024, 5, 1, 12, 30, 0, 0⟩ (by decide) (by decide +kernel)
  refine ⟨file, hfile, hread.trans ?_⟩
  simp only [List.filterMap_cons, List.filterMap_nil, List.zipIdx_cons, List.zipIdx_nil, hfirst,
    hsecond]
  rfl

end RuleDesk
