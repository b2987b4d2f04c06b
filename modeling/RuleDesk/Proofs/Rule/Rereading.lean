import RuleDesk.Proofs.Import.RulesFile
import RuleDesk.Proofs.Rule.SameLine
import RuleDesk.Proofs.Rule.Texts
import RuleDesk.Proofs.Rule.Verdicts

/-!
# Lines that stay readable

Whatever is read from a line can be written and read again, although values are written without
escapes and an option may be lost on the way. The texts of a rule that was read have no newline, and
so it is written on one line. Of the frames that this line fits, the one with the longest last word
is the frame that the rule was written in, whatever parentheses stand in that word or behind it. So
the header comes back, and what stands in the options decides only which options do.
-/

set_option autoImplicit false

namespace RuleDesk.Rule

open RuleDesk.Text

/-- A rule with words for its header and without newline in its texts is read again with the same
header. -/
theorem exists_parse_encode {r : Rule} (h : r.frame.IsSound) :
    ∃ r', Rule.parse r.encode = .ok r' ∧ r'.headerOnly = r.headerOnly := by
  refine ⟨_, parse_encode_of_isSound h, headerOnly_eq_of_header_eq ?_⟩
  rw [header_applyAll]
  rfl

/-- A rule that was read from any line has words for its addresses and ports and no newline in its
texts. It is written on one line that is neither blank nor a comment. The line has the frame that it
was written in, and no other with a last word as long; so it is read as a rule, and that rule has the
same header, whatever stands in its last word and in the options. -/
theorem parse_encode_keeps_header {line : String} {r : Rule} (h : Rule.parse line = .ok r) :
    (∀ s ∈ [r.sourceAddress, r.sourcePort, r.targetAddress, r.targetPort], IsWord s.toList) ∧
      (∀ s ∈ r.strings, '\n' ∉ s.toList) ∧
      '\n' ∉ r.encode.toList ∧
      ¬ IsVoid (trim r.encode.toList) ∧
      r.frame.FitsLongest (trim r.encode.toList) ∧
      ∃ r', Rule.parse r.encode = .ok r' ∧ r'.headerOnly = r.headerOnly := by
  have hwords := isWord_header_of_parse h
  have hstrings := newline_not_mem_strings_of_parse h
  have hsound : r.frame.IsSound := frame_isSound hwords (isOneLine_of_strings hstrings)
  have htrim : trim r.chars = r.chars := r.frame.trim_chars (isWord_spelled r.action)
  rw [encode, String.toList_ofList, htrim]
  refine ⟨?_, hstrings, newline_not_mem_chars hstrings, ?_, ?_, exists_parse_encode hsound⟩
  · intro s hs
    apply hwords
    simp only [List.mem_cons, List.not_mem_nil, or_false] at hs
    obtain rfl | rfl | rfl | rfl := hs <;> simp [header]
  · rw [← isEmptyOrComment_iff, isEmptyOrComment_chars]
    exact Bool.false_ne_true
  · -- the frame is the one that is read, and reading takes the longest last word
    rw [← chars_frame]
    exact Frame.ofLine?_eq_some_iff.mp (Frame.ofLine?_chars hsound)

/-- Parentheses, a quote, a number sign and a backslash in the last header word and in the options.
The metadata is not read back whole, since its quotes are not written again; the header is. -/
theorem parse_encode_keeps_header_crowded :
    let r : Rule :=
      { targetPort := "a(b)\"#\\"
        message := "Stop) # (here"
        sid := 7
        reference := "url,(x\\"
        content := "a;b\\\"c"
        flow := "odd,to_client"
        metadata := "(y; z)" }
    r.frame.FitsLongest (trim r.encode.toList) ∧
      Rule.parse r.encode =
        .ok { r with flow := "to_client", metadata := "(y" } ∧
      ∃ r', Rule.parse r.encode = .ok r' ∧ r'.headerOnly = r.headerOnly := by
  intro r
  have hread : Rule.parse ("alert tcp any any -> any a(b)\"#\\ (msg:\"Stop) # (here\"; " ++
      "reference:url,(x\\; flow:odd,to_client; content:\"a;b\\\"c\"; metadata:\"(y; z)\"; " ++
      "sid:7;)") = .ok r := by
    decide +kernel
  obtain ⟨-, -, -, -, hframe, hheader⟩ := parse_encode_keeps_header hread
  exact ⟨hframe, by decide +kernel, hheader⟩

end RuleDesk.Rule
