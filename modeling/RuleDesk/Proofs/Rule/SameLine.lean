import RuleDesk.Proofs.Rule.Exactness
import RuleDesk.Proofs.Rule.Fingerprints

/-!
# Rules with the same line

A value that its quotes or its semicolon cannot leave is decoded from the text of its clause, so
rules with such values and the same line have the same canonical form. Their fingerprints need not
be the same: the marks of a content are left out of the line when the content is empty, but they
are hashed. Nothing else can tell the fingerprints of such rules apart.
-/

set_option autoImplicit false

namespace RuleDesk

open RuleDesk.Text

/-! ## Values that stay where they are written -/

/-- A text that stays between the quotes around it. -/
structure StaysQuoted (s : List Char) : Prop where
  no_quote : '"' ∉ s
  last_ne_backslash : s.getLast? ≠ some '\\'

/-- A text that stays in its option without quotes around it. -/
structure StaysBare (s : List Char) : Prop where
  no_quote : '"' ∉ s
  no_semicolon : ';' ∉ s

/-- A rule whose texts stay where they are written. -/
structure Rule.StaysWritten (r : Rule) : Prop where
  message : StaysQuoted r.message.toList
  content : StaysQuoted r.content.toList
  pcre : StaysQuoted r.pcre.toList
  classtype : StaysBare r.classtype.toList
  reference : StaysBare r.reference.toList
  metadata : StaysBare r.metadata.toList

/-- A rule that is exported without mixing up its parts: its header words are words, its texts stay
where they are written, and its content does not begin with the mark of a negation. -/
structure Rule.IsExportSafe (r : Rule) : Prop where
  isWord_of_mem_header : ∀ w ∈ r.header, IsWord w
  message : StaysQuoted r.message.toList
  content : StaysQuoted r.content.toList
  content_head : r.content.toList.head? ≠ some '!'
  pcre : StaysQuoted r.pcre.toList
  classtype : StaysBare r.classtype.toList
  reference : StaysBare r.reference.toList
  metadata : StaysBare r.metadata.toList

/-- Whether the value of a clause stays where it is written. -/
def Clause.Stays : Clause → Prop
  | .text o v =>
      (o.isQuoted = true → StaysQuoted v.toList) ∧ (o.isQuoted = false → StaysBare v.toList)
  | .content _ v => StaysQuoted v.toList ∧ v.toList.head? ≠ some '!'
  | _ => True

theorem FlowSet.staysBare (s : FlowSet) : StaysBare s.text.toList := by
  rw [text, String.toList_ofList]
  constructor
  · exact not_mem_chars (by decide) (by decide)
  · exact not_mem_chars (by decide) (by decide)

theorem Clause.stays_quoted {o : TextOption} {v : String} (ho : o.isQuoted = true)
    (hv : StaysQuoted v.toList) : (Clause.text o v).Stays :=
  ⟨fun _ => hv, fun hbare => by simp [ho] at hbare⟩

theorem Clause.stays_bare {o : TextOption} {v : String} (ho : o.isQuoted = false)
    (hv : StaysBare v.toList) : (Clause.text o v).Stays :=
  ⟨fun hquote => by simp [ho] at hquote, fun _ => hv⟩

theorem Rule.IsExportSafe.staysWritten {r : Rule} (h : r.IsExportSafe) : r.StaysWritten :=
  { message := h.message
    content := h.content
    pcre := h.pcre
    classtype := h.classtype
    reference := h.reference
    metadata := h.metadata }

theorem Rule.StaysWritten.stays_text {r : Rule} (h : r.StaysWritten) {o : TextOption}
    (ho : o ≠ .flow) : (Clause.text o (o.get r)).Stays := by
  cases o with
  | message => exact Clause.stays_quoted rfl h.message
  | classtype => exact Clause.stays_bare rfl h.classtype
  | reference => exact Clause.stays_bare rfl h.reference
  | metadata => exact Clause.stays_bare rfl h.metadata
  | pcre => exact Clause.stays_quoted rfl h.pcre
  | flow => exact absurd rfl ho

/-- The values of a rule that is exported safely stay where they are written. -/
theorem Rule.IsExportSafe.stays {r : Rule} (h : r.IsExportSafe) {c : Clause}
    (hc : c ∈ r.clauses) : c.Stays := by
  rcases cases_of_mem_clauses hc with ⟨o, ho, -, rfl⟩ | rfl | ⟨o, v, rfl⟩ | ⟨-, rfl⟩ | rfl | rfl
  · exact h.staysWritten.stays_text ho
  · exact Clause.stays_bare rfl r.flowSet.staysBare
  · trivial
  · exact ⟨h.content, h.content_head⟩
  · trivial
  · trivial

theorem Clause.isClosed_content (negated : Bool) {v : String} (h : StaysQuoted v.toList) :
    OptionList.isClosed false none (Clause.content negated v).chars = true := by
  have hclosed := (OptionList.isClosed_quoted_iff h.no_quote).mpr h.last_ne_backslash
  rw [chars_content, isClosed_keyed isPlain_content]
  cases negated with
  | false => exact hclosed
  | true => exact (isClosed_negated (v.toList ++ ['"'])).trans hclosed

/-- A clause whose value stays is a piece of its own. -/
theorem Clause.Stays.isClosed {c : Clause} (h : c.Stays) :
    OptionList.isClosed false none c.chars = true := by
  cases c with
  | text o v =>
      cases ho : o.isQuoted with
      | true =>
          obtain ⟨hquote, hlast⟩ := h.1 ho
          rw [chars_quoted ho, isClosed_keyed (isPlain_spelled o)]
          exact (OptionList.isClosed_quoted_iff hquote).mpr hlast
      | false =>
          obtain ⟨hquote, hcut⟩ := h.2 ho
          rw [chars_bare ho, isClosed_keyed (isPlain_spelled o)]
          exact OptionList.isClosed_of_not_mem hcut hquote
  | content negated v => exact isClosed_content negated h.1
  | number o v => exact isClosed_of_survives rfl
  | nocase => exact isClosed_of_survives rfl
  | threshold parts => exact isClosed_of_survives rfl

/-- Each clause of a rule whose texts stay is a piece of its own. A content that begins with the mark
of a negation is one too. -/
theorem Rule.StaysWritten.isClosed {r : Rule} (h : r.StaysWritten) {c : Clause}
    (hc : c ∈ r.clauses) : OptionList.isClosed false none c.chars = true := by
  rcases cases_of_mem_clauses hc with ⟨o, ho, -, rfl⟩ | rfl | ⟨o, v, rfl⟩ | ⟨-, rfl⟩ | rfl | rfl
  · exact (h.stays_text ho).isClosed
  · exact (Clause.stays_bare rfl r.flowSet.staysBare).isClosed
  · exact Clause.isClosed_of_survives rfl
  · exact Clause.isClosed_content r.negated h.content
  · exact Clause.isClosed_of_survives rfl
  · exact Clause.isClosed_of_survives rfl

/-! ## Decoding a clause -/

/-- A value without the quote at each end, if it begins with one. -/
def unwrapped : List Char → List Char
  | '"' :: rest => rest.dropLast
  | value => value

/-- The clause of a text that was written by a rule. Unlike a reader, this removes one quote from
each end of a value and nothing more. -/
def Clause.decode? (text : List Char) : Option Clause :=
  match cutAt? ':' text with
  | some (key, value) => Clause.ofKey? key (unwrapped value)
  | none => Clause.ofKey? text []

theorem unwrapped_quoted (s : List Char) : unwrapped ('"' :: s ++ ['"']) = s :=
  List.dropLast_concat

theorem unwrapped_bare {s : List Char} (h : '"' ∉ s) : unwrapped s = s := by
  unfold unwrapped
  split
  · exact absurd List.mem_cons_self h
  · rfl

theorem Clause.decode?_keyed {k : List Char} (hkey : ∀ c ∈ k, isPlain c = true)
    (value : List Char) :
    Clause.decode? (k ++ ':' :: value) = Clause.ofKey? k (unwrapped value) := by
  rw [decode?, cutAt?_append (not_mem_of_isPlain hkey (by decide))]

theorem Clause.ofContent_of_stays {negated : Bool} {v : String}
    (h : (Clause.content negated v).Stays) :
    Clause.ofContent (negationMark negated ++ v.toList) = .content negated v := by
  obtain ⟨hquoted, hhead⟩ := h
  cases negated with
  | true =>
      -- reading strips quotes behind the mark, and there are none to strip
      have hstrip : strip (· == '"') v.toList = v.toList := by
        refine (strip_eq_self_iff _).mpr (hasClearEnds_of_forall ?_)
        intro c hc
        exact beq_eq_false_iff_ne.mpr fun hcq => hquoted.no_quote (hcq ▸ hc)
      show Clause.content true (String.ofList (strip (· == '"') v.toList)) = _
      rw [hstrip, String.ofList_toList]
  | false =>
      have hcontent := ofContent_of_head hhead
      rw [String.ofList_toList] at hcontent
      exact hcontent

/-- A clause whose value stays is decoded from its text. -/
theorem Clause.decode?_chars {c : Clause} (hc : c.IsWritten) (h : c.Stays) :
    Clause.decode? c.chars = some c.reread := by
  cases c with
  | text o v =>
      cases ho : o.isQuoted with
      | true =>
          rw [chars_quoted ho, decode?_keyed (isPlain_spelled o), unwrapped_quoted, ofKey?_text,
            String.ofList_toList]
          rfl
      | false =>
          rw [chars_bare ho, decode?_keyed (isPlain_spelled o), unwrapped_bare (h.2 ho).no_quote,
            ofKey?_text, String.ofList_toList]
          rfl
  | number o v =>
      have hquote : '"' ∉ numeral v.toNat := not_mem_of_isPlain (isPlain_numeral _) (by decide)
      show Clause.decode? (spelled o ++ ':' :: numeral v.toNat) = _
      rw [decode?_keyed (isPlain_spelled o), unwrapped_bare hquote, ofKey?_number,
        readWord?_numeral]
      rfl
  | content negated v =>
      rw [chars_content, decode?_keyed isPlain_content, unwrapped_quoted, ofKey?_content,
        ofContent_of_stays h]
      rfl
  | nocase => rfl
  | threshold parts =>
      obtain ⟨kind, track, count, seconds, rfl⟩ := hc
      have hquote : '"' ∉ joined [',', ' '] (List.map ThresholdPart.chars
          [.type kind, .track track, .count count, .seconds seconds]) :=
        not_mem_threshold (by decide) (by decide) (by decide)
      have hdecode := decode?_keyed isPlain_threshold (joined [',', ' ']
        (List.map ThresholdPart.chars
          [.type kind, .track track, .count count, .seconds seconds]))
      rw [unwrapped_bare hquote, ofKey?_threshold, filterMap_read?_pieces] at hdecode
      exact hdecode

/-! ## The line determines the canonical form -/

/-- Lists of closed clauses with the same text have the same clause texts. -/
theorem OptionList.map_chars_eq {cs ds : List Clause} (hcs : cs ≠ []) (hds : ds ≠ [])
    (hc : ∀ c ∈ cs, isClosed false none c.chars = true)
    (hd : ∀ d ∈ ds, isClosed false none d.chars = true) (h : chars cs = chars ds) :
    cs.map Clause.chars = ds.map Clause.chars := by
  have hcut : cut false none (spaced cs ++ []) = cut false none (spaced ds ++ []) := by
    rw [← cons_chars hcs, ← cons_chars hds, h]
  rw [cut_spaced hc, cut_spaced hd] at hcut
  -- behind a space each, the texts are the pieces before the last
  have htexts := congrArg (List.map List.tail) (List.append_cancel_right hcut)
  simpa only [List.map_map, Function.comp_def, List.tail_cons] using htexts

namespace Rule

theorem IsExportSafe.filterMap_decode? {r : Rule} (h : r.IsExportSafe) :
    (r.clauses.map Clause.chars).filterMap Clause.decode? = r.clauses.map Clause.reread := by
  rw [List.filterMap_map]
  refine List.filterMap_eq_map_iff_forall_eq_some.mpr ?_
  intro c hc
  exact Clause.decode?_chars (isWritten_of_mem_clauses hc) (h.stays hc)

theorem headerOnly_eq_of_header_eq {a b : Rule} (h : a.header = b.header) :
    a.headerOnly = b.headerOnly := by
  simp only [header, List.cons.injEq, and_true] at h
  obtain ⟨haction, hprotocol, hsource, hsourcePort, hdirection, htarget, htargetPort⟩ := h
  rw [headerOnly, headerOnly, spelled_inj haction, spelled_inj hprotocol, spelled_inj hdirection,
    String.toList_inj.mp hsource, String.toList_inj.mp hsourcePort, String.toList_inj.mp htarget,
    String.toList_inj.mp htargetPort]

/-- Rules that are exported safely as the same line have the same canonical form. -/
theorem canonical_eq_of_encode_eq {a b : Rule} (ha : a.IsExportSafe) (hb : b.IsExportSafe)
    (h : a.encode = b.encode) : a.canonical = b.canonical := by
  have hspace : ∀ {r : Rule}, r.IsExportSafe → ∀ w ∈ r.header, ' ' ∉ w := by
    intro r hr w hw hmem
    exact absurd ((hr.isWord_of_mem_header w hw).2 ' ' hmem) (by decide)
  have hchars : a.chars = b.chars := String.ofList_injective h
  have hlength : a.header.length = b.header.length := rfl
  have hline : ∀ r : Rule, r.chars =
      joined [' '] r.header ++ ' ' :: ('(' :: (OptionList.chars r.clauses ++ [')'])) := by
    intro r
    rw [chars, List.append_assoc]
    rfl
  rw [hline a, hline b] at hchars
  -- no space stands in the header words, so the lines part behind the same seven words
  obtain ⟨hheader, hrest⟩ := joined_append_inj hlength (hspace ha) (hspace hb) hchars
  have hbody := List.append_cancel_right (List.cons.inj hrest).2
  have htexts := OptionList.map_chars_eq a.clauses_ne_nil b.clauses_ne_nil
    (fun c hc => (ha.stays hc).isClosed) (fun c hc => (hb.stays hc).isClosed)
    hbody
  have hclauses : a.clauses.map Clause.reread = b.clauses.map Clause.reread := by
    rw [← ha.filterMap_decode?, ← hb.filterMap_decode?, htexts]
  -- what is read back from header and clauses is the canonical form
  rw [← applyAll_reread_clauses, ← applyAll_reread_clauses, hclauses,
    headerOnly_eq_of_header_eq hheader]

end Rule

/-! ## Marks in the text that is hashed -/

/-- Nothing but the marks tells texts of detections apart that agree in all else. -/
theorem Detection.marks_inj {d : Detection} {n n' g g' : Bool}
    (h : ({ d with nocase := n, negated := g } : Detection).chars =
      ({ d with nocase := n', negated := g' } : Detection).chars) : n = n' ∧ g = g' := by
  have hmarks : ∃ front rest, ∀ m m' : Bool,
      ({ d with nocase := m, negated := m' } : Detection).chars =
        front ++ (flagChars m ++ ':' :: (flagChars m' ++ ':' :: rest)) := by
    refine ⟨joined [':'] ["RULE".toList, spelled d.protocol, d.sourceAddress.toList,
      d.sourcePort.toList, spelled d.direction, d.targetAddress.toList, d.targetPort.toList,
      d.flow.chars, d.content.toList] ++ [':'], joined [':'] [numeral d.depth.toNat,
      numeral d.offset.toNat, numeral d.distance.toNat, numeral d.within.toNat, d.pcre.toList,
      thresholdChars d.threshold], ?_⟩
    intro m m'
    simp only [chars, lastFields, joined, List.append_assoc, List.cons_append, List.nil_append]
  obtain ⟨front, rest, hmarks⟩ := hmarks
  have hcolon : ∀ m : Bool, ':' ∉ flagChars m := fun m =>
    not_mem_of_isPlain (isPlain_flagChars m) (by decide)
  rw [hmarks, hmarks] at h
  obtain ⟨hnocase, hrest⟩ :=
    append_cons_inj_of_not_mem (hcolon n) (hcolon n') (List.append_cancel_left h)
  obtain ⟨hnegated, -⟩ := append_cons_inj_of_not_mem (hcolon g) (hcolon g') hrest
  exact ⟨flagChars_inj hnocase, flagChars_inj hnegated⟩

namespace Rule

theorem threshold?_canonical (r : Rule) : r.canonical.threshold? = r.threshold? := by
  have hthreshold := r.hasThreshold_canonical
  unfold threshold?
  rw [hthreshold]
  cases h : r.hasThreshold with
  | false => rfl
  | true => simp [canonical, h]

/-- Of the detection only the marks of an empty content are lost in the canonical form. -/
theorem detection_canonical (r : Rule) :
    r.canonical.detection =
      { r.detection with
        nocase := !r.content.isEmpty && r.nocase
        negated := !r.content.isEmpty && r.negated } := by
  have hflow : r.canonical.flowSet = r.flowSet := FlowSet.ofText_text r.flowSet
  rw [detection, hflow, r.threshold?_canonical]
  rfl

/-- Rules with the same canonical form agree in all of their detection but the marks, and in the
marks too unless their content is empty. -/
theorem detection_of_canonical_eq {a b : Rule} (h : a.canonical = b.canonical) :
    b.detection = { a.detection with nocase := b.nocase, negated := b.negated } ∧
      (a.content ≠ "" → a.nocase = b.nocase ∧ a.negated = b.negated) := by
  have hdetection := congrArg detection h
  rw [detection_canonical, detection_canonical] at hdetection
  simp only [detection, Detection.mk.injEq] at hdetection ⊢
  obtain ⟨hprotocol, hsource, hsourcePort, hdirection, htarget, htargetPort, hflow, hcontent,
    hnocase, hnegated, hdepth, hoffset, hdistance, hwithin, hpcre, hthreshold⟩ := hdetection
  constructor
  · simp only [hprotocol, hsource, hsourcePort, hdirection, htarget, htargetPort, hflow, hcontent,
      hdepth, hoffset, hdistance, hwithin, hpcre, hthreshold, and_self]
  · intro hne
    have hempty : a.content.isEmpty = false := by simpa [String.isEmpty_iff] using hne
    rw [← hcontent, hempty] at hnocase hnegated
    exact ⟨by simpa using hnocase, by simpa using hnegated⟩

/-! ## Fingerprints of the same line -/

/-- Of two rules that are exported safely as the same line, the texts that are hashed are the same
exactly if the rules have a content or agree in the marks of the content that they lack; and then
so are their fingerprints. -/
theorem fingerprint_eq_of_encode_eq {a b : Rule} (ha : a.IsExportSafe) (hb : b.IsExportSafe)
    (h : a.encode = b.encode) :
    (a.detectionText = b.detectionText ↔
        (a.content = "" → a.nocase = b.nocase ∧ a.negated = b.negated)) ∧
      ((a.content = "" → a.nocase = b.nocase ∧ a.negated = b.negated) →
        a.fingerprint = b.fingerprint) := by
  obtain ⟨hdetection, hmarks⟩ := detection_of_canonical_eq (canonical_eq_of_encode_eq ha hb h)
  have hsame : (a.content = "" → a.nocase = b.nocase ∧ a.negated = b.negated) →
      a.detectionText = b.detectionText := by
    intro hempty
    -- beside a content the marks are written, so the line itself makes them agree
    have hagree : a.nocase = b.nocase ∧ a.negated = b.negated := by
      by_cases hcontent : a.content = ""
      · exact hempty hcontent
      · exact hmarks hcontent
    rw [a.detectionText_eq, b.detectionText_eq, hdetection, ← hagree.1, ← hagree.2]
    rfl
  constructor
  · constructor
    · intro htext _
      rw [a.detectionText_eq, b.detectionText_eq, hdetection] at htext
      exact Detection.marks_inj (d := a.detection) htext
    · exact hsame
  · intro hempty
    rw [fingerprint, fingerprint, hsame hempty]

/-- A flow with blanks and an unknown word, and a threshold without a count: none of it is written,
and none of it is hashed. -/
theorem fingerprint_eq_of_encode_eq_tidied :
    let loose : Rule :=
      { targetPort := "80", message := "Probe", content := "GET ", nocase := true,
        flow := "to_server , established,unknown", thresholdType := some .limit,
        thresholdSeconds := 60 }
    let tidy : Rule :=
      { targetPort := "80", message := "Probe", content := "GET ", nocase := true,
        flow := "established,to_server" }
    loose.IsExportSafe ∧ tidy.IsExportSafe ∧ loose.encode = tidy.encode ∧
      loose.fingerprint = tidy.fingerprint := by
  intro loose tidy
  have hloose : loose.IsExportSafe :=
    { isWord_of_mem_header := by decide
      message := ⟨by decide, by decide⟩
      content := ⟨by decide, by decide⟩
      content_head := by decide
      pcre := ⟨by decide, by decide⟩
      classtype := ⟨by decide, by decide⟩
      reference := ⟨by decide, by decide⟩
      metadata := ⟨by decide, by decide⟩ }
  have htidy : tidy.IsExportSafe :=
    { isWord_of_mem_header := by decide
      message := ⟨by decide, by decide⟩
      content := ⟨by decide, by decide⟩
      content_head := by decide
      pcre := ⟨by decide, by decide⟩
      classtype := ⟨by decide, by decide⟩
      reference := ⟨by decide, by decide⟩
      metadata := ⟨by decide, by decide⟩ }
  have hline : loose.encode = tidy.encode := by decide +kernel
  have hcontent : loose.content ≠ "" := by decide
  exact ⟨hloose, htidy, hline, (fingerprint_eq_of_encode_eq hloose htidy hline).2 fun hempty =>
    absurd hempty hcontent⟩

/-- A case mark without a content is not written, but it is hashed. -/
theorem lonely_mark_hashed :
    Rule.encode { message := "Lone mark", nocase := true } =
        Rule.encode { message := "Lone mark" } ∧
      Rule.fingerprint { message := "Lone mark", nocase := true } ≠
        Rule.fingerprint { message := "Lone mark" } := by
  refine ⟨by decide, by decide +kernel⟩

end Rule

end RuleDesk
