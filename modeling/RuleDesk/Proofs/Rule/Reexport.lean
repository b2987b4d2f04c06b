import RuleDesk.Proofs.Rule.EscapedQuotes
import RuleDesk.Proofs.Rule.Exactness
import RuleDesk.Proofs.Rule.Texts

/-!
# Writing what was read

A rule that was read from a line has words for its header and no newline in its texts, so it can be
written and read again. It comes back the same exactly if each of its clauses survives. Not every
line gives such a rule, since reading removes quotes that writing does not put back.
-/

set_option autoImplicit false

namespace RuleDesk

open RuleDesk.Text

/-- What is read from a line can be written on one line. -/
theorem Rule.isOneLine_of_parse {line : String} {r : Rule} (h : Rule.parse line = .ok r) :
    r.IsOneLine :=
  isOneLine_of_strings (newline_not_mem_strings_of_parse h)

/-- A rule that was read is read from its own text as its canonical form exactly if each of its
clauses survives. It is not, whatever else the line holds, if the last message, content or pattern
of the line ends in an escaped quote. -/
theorem Rule.parse_encode_of_parse_iff {line : String} {r : Rule} (h : Rule.parse line = .ok r) :
    (Rule.parse r.encode = .ok r.canonical ↔ ∀ c ∈ r.clauses, c.survives = true) ∧
      ∀ f : FreeText, f.isQuoted = true → Rule.EndsInEscapedQuote line f →
        Rule.parse r.encode ≠ .ok r.canonical := by
  have hwords := isWord_header_of_parse h
  have hline := isOneLine_of_parse h
  have hsurvive : Rule.parse r.encode = .ok r.canonical → ∀ c ∈ r.clauses, c.survives = true :=
    fun hparse => ((parse_encode_iff hline).mp ⟨r.canonical, hparse, r.canonical_canonical⟩).2
  refine ⟨⟨hsurvive, parse_encode_of_survives hwords hline⟩, ?_⟩
  -- A text that escapes its closing quote is one that does not survive.
  intro f hf hescaped hparse
  obtain ⟨c, hc, hlost⟩ := exists_not_survives h hf hescaped
  rw [hsurvive hparse c hc] at hlost
  cases hlost

/-- A line whose quoted texts come back, since unknown options and flow words are lost only once,
and a line whose message ends in an escaped quote. -/
theorem Rule.parse_encode_probe :
    let probe : Rule :=
      { message := "Probe; phase 1", content := "GET \\\"/admin", negated := true
        flow := "foo, established", sid := 7 }
    let greeting : Rule := { message := "say \\\"hi\\", sid := 7 }
    Rule.parse ("alert tcp any any -> any any (msg:\"Probe; phase 1\"; gid:2; " ++
        "flow:foo, established; content:\"!GET \\\"/admin\"; sid:7;)") = .ok probe ∧
      Rule.parse probe.encode = .ok probe.canonical ∧
      Rule.parse "alert tcp any any -> any any (msg:\"say \\\"hi\\\"\"; sid:7;)" = .ok greeting ∧
      Rule.parse greeting.encode ≠ .ok greeting.canonical := by
  intro probe greeting
  have hprobe : Rule.parse ("alert tcp any any -> any any (msg:\"Probe; phase 1\"; gid:2; " ++
      "flow:foo, established; content:\"!GET \\\"/admin\"; sid:7;)") = .ok probe := by
    decide +kernel
  have hgreeting :
      Rule.parse "alert tcp any any -> any any (msg:\"say \\\"hi\\\"\"; sid:7;)" =
        .ok greeting := by
    decide +kernel
  let frame : Frame :=
    ⟨"alert".toList, "tcp".toList, "any".toList, "any".toList, "->".toList, "any".toList,
      "any".toList, "msg:\"say \\\"hi\\\"\"; sid:7;".toList⟩
  have hoption : FreeText.message.EndsInEscapedQuote "msg:\"say \\\"hi\\\"\"".toList :=
    ⟨"msg".toList, "\"say \\\"hi\\\"\"".toList, "say \\\"hi\\\"".toList, by decide +kernel,
      by decide, by decide, by decide +kernel, by decide, by decide⟩
  have hescaped : Rule.EndsInEscapedQuote
      "alert tcp any any -> any any (msg:\"say \\\"hi\\\"\"; sid:7;)" .message :=
    ⟨frame, [], [" sid:7".toList], _, Frame.ofLine?_eq_some_iff.mp (by decide +kernel),
      by decide +kernel, by decide +kernel, hoption⟩
  exact ⟨hprobe, (Rule.parse_encode_of_parse_iff hprobe).1.mpr (by decide +kernel), hgreeting,
    (Rule.parse_encode_of_parse_iff hgreeting).2 .message rfl hescaped⟩

/-- A message that ends in an escaped quote is read without this quote. When the rule is written
again, the message does not close, and takes in the identifier and the revision. -/
theorem Rule.escaped_quote_lost :
    let greeting : Rule := { message := "say \\\"hi\\", sid := 7, revision := 3, priority := 2 }
    Rule.parse ("alert tcp any any -> any any (msg:\"say \\\"hi\\\"\"; " ++
        "sid:7; rev:3; priority:2;)") = .ok greeting ∧
      Rule.parse greeting.encode =
        .ok { message := "say \\\"hi\\\"; priority:2; sid:7; rev:3;" } ∧
      greeting.canonical = greeting := by
  refine ⟨by decide +kernel, by decide +kernel, by decide +kernel⟩

end RuleDesk
