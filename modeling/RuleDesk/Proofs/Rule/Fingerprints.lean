import RuleDesk.Proofs.Rule.Keywords
import RuleDesk.Rule.Fingerprint

/-!
# What a fingerprint tells apart

The detection of a rule is everything that decides which traffic it matches. The text that is hashed
lists it field by field with colons between, and nothing is escaped, although ports may hold colons
of their own. The text can be taken apart from both ends all the same: the protocol and the source
address end at the first colons, the source port ends at the arrow, and the fields behind the target
port, which hold no colon, are counted from the end.
-/

set_option autoImplicit false

namespace RuleDesk

open RuleDesk.Text

/-! ## Detections -/

/-- A complete threshold. -/
structure Threshold where
  type : Option ThresholdType
  track : Option ThresholdTrack
  count : UInt32
  seconds : UInt32
  deriving DecidableEq, Repr

/-- Everything that decides which traffic a rule matches. -/
structure Detection where
  protocol : Protocol
  sourceAddress : String
  sourcePort : String
  direction : Direction
  targetAddress : String
  targetPort : String
  flow : FlowSet
  content : String
  nocase : Bool
  negated : Bool
  depth : UInt32
  offset : UInt32
  distance : UInt32
  within : UInt32
  pcre : String
  threshold : Option Threshold
  deriving DecidableEq, Repr

/-- The threshold of a rule, if it is complete. -/
def Rule.threshold? (r : Rule) : Option Threshold :=
  if r.hasThreshold then
    some ⟨r.thresholdType, r.thresholdTrack, r.thresholdCount, r.thresholdSeconds⟩
  else none

/-- The detection of a rule: its flow as a set, its threshold only if complete. -/
def Rule.detection (r : Rule) : Detection where
  protocol := r.protocol
  sourceAddress := r.sourceAddress
  sourcePort := r.sourcePort
  direction := r.direction
  targetAddress := r.targetAddress
  targetPort := r.targetPort
  flow := r.flowSet
  content := r.content
  nocase := r.nocase
  negated := r.negated
  depth := r.depth
  offset := r.offset
  distance := r.distance
  within := r.within
  pcre := r.pcre
  threshold := r.threshold?

/-- Whether nothing in a detection can be taken for the end of a field: no colon stands where the
text is cut at colons, and no arrow begins in the source port. Ports may hold colons. -/
structure Detection.IsSeparable (d : Detection) : Prop where
  sourceAddress : ':' ∉ d.sourceAddress.toList
  sourcePort : '-' ∉ d.sourcePort.toList ∧ '<' ∉ d.sourcePort.toList
  targetAddress : ':' ∉ d.targetAddress.toList
  content : ':' ∉ d.content.toList
  pcre : ':' ∉ d.pcre.toList

theorem Detection.isSeparable_iff (d : Detection) :
    d.IsSeparable ↔ ':' ∉ d.sourceAddress.toList ∧
      ('-' ∉ d.sourcePort.toList ∧ '<' ∉ d.sourcePort.toList) ∧ ':' ∉ d.targetAddress.toList ∧
      ':' ∉ d.content.toList ∧ ':' ∉ d.pcre.toList := by
  constructor
  · rintro ⟨hsource, hport, htarget, hcontent, hpcre⟩
    exact ⟨hsource, hport, htarget, hcontent, hpcre⟩
  · rintro ⟨hsource, hport, htarget, hcontent, hpcre⟩
    exact ⟨hsource, hport, htarget, hcontent, hpcre⟩

instance (d : Detection) : Decidable d.IsSeparable :=
  decidable_of_iff _ d.isSeparable_iff.symm

/-! ## The text of a detection -/

/-- The text of a keyword that may be unset. -/
def optionChars {α : Type} [Vocabulary α] (value : Option α) : List Char :=
  (value.map spelled).getD []

/-- The parts of a complete threshold in the text. -/
def Threshold.fields (t : Threshold) : List (List Char) :=
  [optionChars t.type, optionChars t.track, numeral t.count.toNat, numeral t.seconds.toNat]

/-- The threshold in the text, which is empty if there is none. -/
def thresholdChars : Option Threshold → List Char
  | none => []
  | some t => joined ['/'] t.fields

namespace Detection

/-- The fields behind the target port. -/
def lastFields (d : Detection) : List (List Char) :=
  [d.flow.chars, d.content.toList, flagChars d.nocase, flagChars d.negated, numeral d.depth.toNat,
    numeral d.offset.toNat, numeral d.distance.toNat, numeral d.within.toNat, d.pcre.toList,
    thresholdChars d.threshold]

/-- The text of a detection. -/
def chars (d : Detection) : List Char :=
  joined [':'] ("RULE".toList :: spelled d.protocol :: d.sourceAddress.toList ::
    d.sourcePort.toList :: spelled d.direction :: d.targetAddress.toList :: d.targetPort.toList ::
    d.lastFields)

end Detection

theorem Rule.thresholdText_eq (r : Rule) : r.thresholdText = thresholdChars r.threshold? := by
  unfold thresholdText threshold?
  split
  · rfl
  · rfl

/-- What is hashed of a rule depends on its detection only. -/
theorem Rule.detectionText_eq (r : Rule) : r.detectionText = r.detection.chars := by
  unfold detectionText detectionFields
  rw [r.thresholdText_eq]
  rfl

/-! ## Fields told apart -/

section Keywords

variable {α : Type} [Vocabulary α] [LawfulVocabulary α]

theorem optionChars_inj {a b : Option α} (h : optionChars a = optionChars b) : a = b := by
  cases a with
  | none =>
      cases b with
      | none => rfl
      | some b => exact absurd h.symm (isWord_spelled b).1
  | some a =>
      cases b with
      | none => exact absurd h (isWord_spelled a).1
      | some b => exact congrArg some (spelled_inj h)

theorem isPlain_optionChars {a : Option α} : ∀ c ∈ optionChars a, isPlain c = true := by
  intro c hc
  cases a with
  | none => exact absurd hc List.not_mem_nil
  | some a => exact isPlain_spelled a c hc

end Keywords

theorem numeral_inj {a b : UInt32} (h : numeral a.toNat = numeral b.toNat) : a = b := by
  have hread := readWord?_numeral a
  rw [h, readWord?_numeral b] at hread
  exact (Option.some.inj hread).symm

theorem flagChars_inj {a b : Bool} (h : flagChars a = flagChars b) : a = b := by
  revert h
  cases a <;> cases b <;> decide

theorem isPlain_flagChars (b : Bool) : ∀ c ∈ flagChars b, isPlain c = true := by
  cases b <;> exact List.all_eq_true.mp (by decide)

theorem FlowSet.chars_inj {a b : FlowSet} (h : a.chars = b.chars) : a = b := by
  have htext : a.text = b.text := congrArg String.ofList h
  rw [← ofText_text a, htext, ofText_text]

/-! ## Thresholds told apart -/

theorem Threshold.isPlain_of_mem_fields {t : Threshold} {field : List Char}
    (hfield : field ∈ t.fields) : ∀ c ∈ field, isPlain c = true := by
  simp only [fields, List.mem_cons, List.not_mem_nil, or_false] at hfield
  obtain rfl | rfl | rfl | rfl := hfield
  · exact isPlain_optionChars
  · exact isPlain_optionChars
  · exact isPlain_numeral _
  · exact isPlain_numeral _

theorem Threshold.fields_inj {s t : Threshold} (h : s.fields = t.fields) : s = t := by
  simp only [fields, List.cons.injEq, and_true] at h
  obtain ⟨htype, htrack, hcount, hseconds⟩ := h
  obtain ⟨⟩ := s
  obtain ⟨⟩ := t
  obtain rfl := optionChars_inj htype
  obtain rfl := optionChars_inj htrack
  obtain rfl := numeral_inj hcount
  obtain rfl := numeral_inj hseconds
  rfl

/-- A complete threshold has slashes in its text, so it is not taken for a missing one. -/
theorem thresholdChars_some_ne_nil (t : Threshold) : thresholdChars (some t) ≠ [] := by
  intro hnil
  have hmem : '/' ∈ thresholdChars (some t) :=
    List.mem_append_left _ (List.mem_append_right _ (List.mem_singleton_self '/'))
  rw [hnil] at hmem
  exact List.not_mem_nil hmem

theorem thresholdChars_inj {s t : Option Threshold} (h : thresholdChars s = thresholdChars t) :
    s = t := by
  cases s with
  | none =>
      cases t with
      | none => rfl
      | some t => exact absurd h.symm (thresholdChars_some_ne_nil t)
  | some s =>
      cases t with
      | none => exact absurd h (thresholdChars_some_ne_nil s)
      | some t =>
          have hslash : ∀ u : Threshold, ∀ field ∈ u.fields, '/' ∉ field := by
            intro u field hfield
            exact not_mem_of_isPlain (Threshold.isPlain_of_mem_fields hfield) (by decide)
          have hfields : s.fields = t.fields := joined_inj rfl (hslash s) (hslash t) h
          rw [Threshold.fields_inj hfields]

theorem colon_not_mem_thresholdChars (t : Option Threshold) : ':' ∉ thresholdChars t := by
  cases t with
  | none => exact List.not_mem_nil
  | some t =>
      intro hcolon
      rcases mem_joined hcolon with hslash | ⟨field, hfield, hc⟩
      · exact absurd hslash (by decide)
      · exact not_mem_of_isPlain (Threshold.isPlain_of_mem_fields hfield) (by decide) hc

/-! ## Detections told apart -/

/-- The first character of an arrow. -/
def Direction.mark : Direction → Char
  | .unidirectional => '-'
  | .bidirectional => '<'

theorem Direction.spelled_eq (d : Direction) : spelled d = [d.mark, '>'] := by
  cases d <;> rfl

theorem Direction.mark_inj {d e : Direction} (h : d.mark = e.mark) : d = e := by
  revert h
  cases d <;> cases e <;> decide

/-- Whether an arrow begins with the character. -/
def beginsArrow (c : Char) : Bool :=
  c == '-' || c == '<'

theorem Direction.beginsArrow_mark (d : Direction) : beginsArrow d.mark = true := by
  cases d <;> rfl

namespace Detection

/-- The text of a detection as it is taken apart: cut at three colons and at the arrow. -/
theorem chars_eq (d : Detection) :
    d.chars = "RULE:".toList ++ (spelled d.protocol ++ ':' :: (d.sourceAddress.toList ++ ':' ::
      ((d.sourcePort.toList ++ [':']) ++ d.direction.mark :: '>' :: ':' ::
        (d.targetAddress.toList ++ ':' ::
          (d.targetPort.toList ++ ':' :: joined [':'] d.lastFields))))) := by
  unfold chars lastFields
  simp only [joined_cons_cons, Direction.spelled_eq, List.append_assoc, List.cons_append,
    List.nil_append]
  rfl

theorem colon_not_mem_lastFields {d : Detection} (hd : d.IsSeparable) :
    ∀ field ∈ d.lastFields, ':' ∉ field := by
  have hplain : ∀ {field : List Char}, (∀ c ∈ field, isPlain c = true) → ':' ∉ field :=
    fun h => not_mem_of_isPlain h (by decide)
  have hflow : ':' ∉ d.flow.chars := FlowSet.not_mem_chars (by decide) (by decide)
  intro field hfield
  simp only [lastFields, List.mem_cons, List.not_mem_nil, or_false] at hfield
  obtain rfl | rfl | rfl | rfl | rfl | rfl | rfl | rfl | rfl | rfl := hfield
  · exact hflow
  · exact hd.content
  · exact hplain (isPlain_flagChars _)
  · exact hplain (isPlain_flagChars _)
  · exact hplain (isPlain_numeral _)
  · exact hplain (isPlain_numeral _)
  · exact hplain (isPlain_numeral _)
  · exact hplain (isPlain_numeral _)
  · exact hd.pcre
  · exact colon_not_mem_thresholdChars _

theorem IsSeparable.beginsArrow_eq_false {d : Detection} (hd : d.IsSeparable) :
    ∀ c ∈ d.sourcePort.toList ++ [':'], beginsArrow c = false := by
  intro c hc
  rcases List.mem_append.mp hc with hport | hcolon
  · have hdash : c ≠ '-' := fun h => hd.sourcePort.1 (h ▸ hport)
    have hangle : c ≠ '<' := fun h => hd.sourcePort.2 (h ▸ hport)
    simp [beginsArrow, hdash, hangle]
  · obtain rfl := List.mem_singleton.mp hcolon
    rfl

/-- Separable detections with the same text are the same. -/
theorem IsSeparable.chars_inj {d e : Detection} (hd : d.IsSeparable) (he : e.IsSeparable)
    (h : d.chars = e.chars) : d = e := by
  have hcolon : ∀ p : Protocol, ':' ∉ spelled p := fun p =>
    not_mem_of_isPlain (isPlain_spelled p) (by decide)
  -- the text is taken apart from the left, one field at a time
  rw [chars_eq d, chars_eq e] at h
  replace h := List.append_cancel_left h
  obtain ⟨hprotocol, h⟩ := append_cons_inj_of_not_mem (hcolon _) (hcolon _) h
  obtain ⟨hsource, h⟩ := append_cons_inj_of_not_mem hd.sourceAddress he.sourceAddress h
  -- the source port may hold colons, and so it is cut at the arrow behind it
  obtain ⟨hport, hmark, h⟩ := append_cons_inj_of_forall_not (d.direction.beginsArrow_mark)
    (e.direction.beginsArrow_mark) hd.beginsArrow_eq_false he.beginsArrow_eq_false h
  replace h := (List.cons.inj (List.cons.inj h).2).2
  obtain ⟨htarget, h⟩ := append_cons_inj_of_not_mem hd.targetAddress he.targetAddress h
  -- and so may the target port, behind which the fields are counted
  have hlength : d.lastFields.length = e.lastFields.length := rfl
  obtain ⟨htargetPort, hlast⟩ := append_joined_inj (List.cons_ne_nil _ _) hlength
    (colon_not_mem_lastFields hd) (colon_not_mem_lastFields he) h
  simp only [lastFields, List.cons.injEq, and_true] at hlast
  obtain ⟨hflow, hcontent, hnocase, hnegated, hdepth, hoffset, hdistance, hwithin, hpcre,
    hthreshold⟩ := hlast
  obtain ⟨⟩ := d
  obtain ⟨⟩ := e
  simp only [Detection.mk.injEq]
  exact ⟨spelled_inj hprotocol, String.toList_inj.mp hsource,
    String.toList_inj.mp (List.append_cancel_right hport), Direction.mark_inj hmark,
    String.toList_inj.mp htarget, String.toList_inj.mp htargetPort, FlowSet.chars_inj hflow,
    String.toList_inj.mp hcontent, flagChars_inj hnocase, flagChars_inj hnegated,
    numeral_inj hdepth, numeral_inj hoffset, numeral_inj hdistance, numeral_inj hwithin,
    String.toList_inj.mp hpcre, thresholdChars_inj hthreshold⟩

end Detection

/-! ## Rules told apart -/

namespace Rule

theorem detectionText_eq_of_detection {a b : Rule} (h : a.detection = b.detection) :
    a.detectionText = b.detectionText := by
  rw [a.detectionText_eq, b.detectionText_eq, h]

/-- A fingerprint depends on the detection only. -/
theorem fingerprint_eq_of_detection {a b : Rule} (h : a.detection = b.detection) :
    a.fingerprint = b.fingerprint := by
  unfold fingerprint
  rw [detectionText_eq_of_detection h]

/-- The fingerprint of a rule is the hash of its detection text. Among rules whose fields hold no
separator, that text tells detections apart, and only detections. Of any rules at all, those with
the same detection have the same fingerprint, however they are filed. -/
theorem fingerprint_separates (a b : Rule) :
    a.fingerprint = Digest.sha256Hex (toOctets a.detectionText) ∧
      (a.detection.IsSeparable → b.detection.IsSeparable →
        (a.detectionText = b.detectionText ↔ a.detection = b.detection)) ∧
      (a.detection = b.detection → a.fingerprint = b.fingerprint) := by
  refine ⟨rfl, ?_, fingerprint_eq_of_detection⟩
  intro ha hb
  constructor
  -- Without separators in the fields, each of them can be read back from the text.
  · intro htext
    rw [a.detectionText_eq, b.detectionText_eq] at htext
    exact ha.chars_inj hb htext
  · exact detectionText_eq_of_detection

/-- A rule for ranges of ports, a copy that is filed anew, with half a threshold and its flow in
another order, and a rule whose ports divide at another colon. -/
theorem fingerprint_separates_port_range :
    let sweep : Rule :=
      { sourcePort := "1024:", targetPort := "6000:6010", flow := "to_server,established",
        content := "UNION SELECT", nocase := true, message := "Sweep" }
    let copy : Rule :=
      { sweep with
        action := .drop, message := "Sweep (copy)", sid := 2000000, revision := 9,
        flow := "established, to_server", thresholdType := some .limit, thresholdSeconds := 60 }
    let half : Rule := { sweep with sourcePort := "1024", targetPort := ":6000:6010" }
    sweep.detection.IsSeparable ∧ copy.detection.IsSeparable ∧ half.detection.IsSeparable ∧
      sweep.fingerprint = Digest.sha256Hex (toOctets sweep.detectionText) ∧
      sweep.fingerprint = copy.fingerprint ∧ sweep.detectionText ≠ half.detectionText := by
  intro sweep copy half
  have hsweep : sweep.detection.IsSeparable := by decide
  have hcopy : copy.detection.IsSeparable := by decide
  have hhalf : half.detection.IsSeparable := by decide
  have hsame : sweep.detection = copy.detection := by decide
  have hdiffer : sweep.detection ≠ half.detection := by decide
  obtain ⟨hhash, -, hcopied⟩ := fingerprint_separates sweep copy
  obtain ⟨-, hdetection, -⟩ := fingerprint_separates sweep half
  exact ⟨hsweep, hcopy, hhalf, hhash, hcopied hsame, fun htext =>
    hdiffer ((hdetection hsweep hhalf).mp htext)⟩

end Rule

end RuleDesk
