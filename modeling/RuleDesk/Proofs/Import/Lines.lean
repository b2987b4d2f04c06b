import RuleDesk.Proofs.Import.Numbered
import RuleDesk.Proofs.Text.LineFeeds
import RuleDesk.Proofs.Text.Splitting

/-!
# Files of rule text read in parts

A file of rule text is read line by line, and a line knows of the lines before it only how many
there are. So a file that is cut at a line feed is read as its two parts, the numbers of the second
part moved on by the lines of the first. Nothing is asked of the octets: a part may break off inside
a character, hold octets that spell none, or end without a line feed.
-/

set_option autoImplicit false

namespace RuleDesk

open RuleDesk.Text

/-! ## Lines -/

/-- The number of a line shows in its error only. -/
theorem readLine_shift (number places : Nat) (line : List Char) :
    readLine (number + places) line = (readLine number line).shift places := by
  unfold readLine
  split
  · rfl
  · cases Rule.ofChars line <;> rfl

/-- A line that is neither blank nor a comment gives its rule or its error. -/
theorem readLine_of_ofChars {line : List Char} {result : Except LineError Rule}
    (h : Rule.ofChars line = result) (hne : result ≠ .error .empty) {number : Nat} :
    readLine number line = .ofRecord (.line number) result := by
  rw [readLine, h, if_neg]
  intro hskipped
  apply hne
  rw [← h, Rule.ofChars, if_pos hskipped]

theorem readLines_eq (number : Nat) (lines : List (List Char)) :
    readLines number lines = .ofRecords readLine number lines := by
  induction lines generalizing number with
  | nil => rfl
  | cons line rest ih => rw [readLines, Imported.ofRecords, ih]

theorem readLines_shift (number places : Nat) (lines : List (List Char)) :
    readLines (number + places) lines = (readLines number lines).shift places := by
  rw [readLines_eq, readLines_eq]
  exact Imported.ofRecords_shift readLine_shift number places lines

theorem readLines_append (number : Nat) (front back : List (List Char)) :
    readLines number (front ++ back) =
      (readLines number front).append (readLines (number + front.length) back) := by
  simp only [readLines_eq]
  exact Imported.ofRecords_append readLine number front back

/-! ## Files -/

/-- The lines of a file that is cut at a line feed are those of both parts. -/
theorem importRules_append_lineFeed (a b : List UInt8) :
    importRules (a ++ 0x0A :: b) =
      (importRules a).append ((importRules b).shift (a.count 0x0A + 1)) := by
  have hlines : (pieces '\n' (lossyText a)).length = a.count 0x0A + 1 := by
    rw [length_pieces, count_lossyText]
  rw [importRules, lossyText_append_lineFeed, pieces_append_cons, readLines_append, hlines,
    readLines_shift]
  rfl

/-- A file of rule text that is cut at a line feed is always read, as its two parts: the rules of
the first and then those of the second, and the errors likewise, with the numbers of the second part
moved on by the line feeds of the first and the one between them. -/
theorem importFile_append (a b : List UInt8) :
    importFile .rules (a ++ [0x0A] ++ b) =
      .ok
        { rules := (importRules a).rules ++ (importRules b).rules
          errors := (importRules a).errors ++
            (importRules b).errors.map (·.shift (a.count 0x0A + 1)) } := by
  rw [List.append_assoc, List.singleton_append, importFile, importRules_append_lineFeed]
  rfl

/-- The first part has a rule that ends in a carriage return, and then a line that breaks off inside
a character. The second part has another rule and a line that is none. Each part is read for itself,
and the last line is refused as the fourth of the file. -/
theorem importFile_append_cut_off :
    let first := toOctets "log udp any any -> any any (sid:7;)\r\nprice ".toList ++ [0xE2, 0x82]
    let second := toOctets "drop tcp any any -> any any (sid:8;)\r\nno rule".toList
    importFile .rules (first ++ [0x0A] ++ second) = .ok
      { rules := [{ action := .log, protocol := .udp, sid := 7 }, { action := .drop, sid := 8 }]
        errors := [.line 2 .noFrame, .line 4 .noFrame] } := by
  intro first second
  have hfirst : pieces '\n' (lossyText first) =
      ["log udp any any -> any any (sid:7;)\r".toList, "price \uFFFD".toList] := by
    decide +kernel
  have hsecond : pieces '\n' (lossyText second) =
      ["drop tcp any any -> any any (sid:8;)\r".toList, "no rule".toList] := by
    decide +kernel
  have hlog : Rule.ofChars "log udp any any -> any any (sid:7;)\r".toList =
      .ok { action := .log, protocol := .udp, sid := 7 } := by
    decide +kernel
  have hprice : Rule.ofChars "price \uFFFD".toList = .error .noFrame := by decide +kernel
  have hdrop : Rule.ofChars "drop tcp any any -> any any (sid:8;)\r".toList =
      .ok { action := .drop, sid := 8 } := by
    decide +kernel
  have hnone : Rule.ofChars "no rule".toList = .error .noFrame := by decide +kernel
  have hcount : first.count 0x0A = 1 := by decide +kernel
  rw [importFile_append, hcount, importRules, importRules, hfirst, hsecond]
  simp only [readLines, readLine_of_ofChars hlog (by decide),
    readLine_of_ofChars hprice (by decide),
    readLine_of_ofChars hdrop (by decide), readLine_of_ofChars hnone (by decide)]
  rfl

end RuleDesk
