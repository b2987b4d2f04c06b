import Mathlib.Tactic.IntervalCases
import RuleDesk.Proofs.Json.PartialRecords
import RuleDesk.Proofs.Rule.Keywords
import RuleDesk.Rule.Schema

/-!
# Rules as records

The schema of rules is faithful: its fields have distinct names, each is set from what is written
for it, and all of them together are the rule. A threshold type or track that is unset is written as
empty text and read back as unset. Of a rule some fields can be kept by their names in JSON, and the
others made blank.
-/

set_option autoImplicit false

namespace RuleDesk

open RuleDesk.Json
open RuleDesk.Text

/-! ## Keywords -/

section Keywords

variable (α : Type) [Vocabulary α] [LawfulVocabulary α]

instance : FaithfulCodec (Codec.keyword α) where
  read_write a := by
    show readVariant α (Vocabulary.spelling a) = .ok a
    rw [readVariant, LawfulVocabulary.ofWord?_spelling a]
  scan_write a := by
    show unfit (readVariant α (Vocabulary.spelling a)) = .ok a
    rw [readVariant, LawfulVocabulary.ofWord?_spelling a]
    rfl
  isPlain_write _ := trivial

/-- Spellings are trimmed when they are read, and are plain, so nothing is lost. -/
theorem read_write_optionalKeyword (a : Option α) :
    (Codec.optionalKeyword α).read ((Codec.optionalKeyword α).write a) = .ok a := by
  cases a with
  | none => rfl
  | some a =>
      have htrim : trim (Vocabulary.spelling a).toList = spelled a :=
        trim_of_isPlain (isPlain_spelled a)
      have hword : Vocabulary.ofWord α (String.ofList (spelled a)) = .ok a := by
        rw [Vocabulary.ofWord, ofWord?_spelled]
      have hne : spelled a ≠ [] := LawfulVocabulary.spelled_ne_nil a
      simp only [Codec.optionalKeyword, Codec.scalar, Option.map_some, Option.getD_some, htrim,
        hword]

instance : FaithfulCodec (Codec.optionalKeyword α) where
  read_write := read_write_optionalKeyword α
  scan_write a := scan_scalar trivial (read_write_optionalKeyword α a)
  isPlain_write _ := trivial

end Keywords

/-! ## Rules -/

namespace Rule

theorem names_nodup : (schema.fields.map Field.name).Nodup := by
  decide

/-- Each field of a rule is set alone. -/
theorem isFaithfulAt (i : Nat) (h : i < schema.fields.length) : schema.IsFaithfulAt i h := by
  have hplaces : i < 27 := h
  interval_cases i
  all_goals exact Schema.isFaithfulAt_of rfl fun _ _ => rfl

/-- The values of all fields make up the rule. -/
theorem readItems_write (r : Rule) :
    Schema.readItems schema.blank schema.fields (schema.fields.map (·.write r)) = .ok r := by
  simp only [schema, List.map_cons, List.map_nil, Schema.readItems_cons]
  rfl

theorem isFaithful_schema : schema.IsFaithful :=
  ⟨names_nodup, isFaithfulAt, readItems_write⟩

/-- The rule that agrees with another on the fields whose names are kept, and with the blank rule on
the others. -/
def keeping (keep : String → Bool) (r : Rule) : Rule where
  action := if keep "action" then r.action else blank.action
  protocol := if keep "protocol" then r.protocol else blank.protocol
  sourceAddress := if keep "src_ip" then r.sourceAddress else blank.sourceAddress
  sourcePort := if keep "src_port" then r.sourcePort else blank.sourcePort
  direction := if keep "direction" then r.direction else blank.direction
  targetAddress := if keep "dst_ip" then r.targetAddress else blank.targetAddress
  targetPort := if keep "dst_port" then r.targetPort else blank.targetPort
  message := if keep "msg" then r.message else blank.message
  sid := if keep "sid" then r.sid else blank.sid
  revision := if keep "rev" then r.revision else blank.revision
  classtype := if keep "classtype" then r.classtype else blank.classtype
  priority := if keep "priority" then r.priority else blank.priority
  reference := if keep "reference" then r.reference else blank.reference
  content := if keep "content" then r.content else blank.content
  nocase := if keep "content_nocase" then r.nocase else blank.nocase
  negated := if keep "content_negated" then r.negated else blank.negated
  pcre := if keep "pcre" then r.pcre else blank.pcre
  depth := if keep "depth" then r.depth else blank.depth
  offset := if keep "offset" then r.offset else blank.offset
  distance := if keep "distance" then r.distance else blank.distance
  within := if keep "within" then r.within else blank.within
  flow := if keep "flow" then r.flow else blank.flow
  thresholdType := if keep "threshold_type" then r.thresholdType else blank.thresholdType
  thresholdTrack := if keep "threshold_track" then r.thresholdTrack else blank.thresholdTrack
  thresholdCount := if keep "threshold_count" then r.thresholdCount else blank.thresholdCount
  thresholdSeconds := if keep "threshold_seconds" then r.thresholdSeconds else blank.thresholdSeconds
  metadata := if keep "metadata" then r.metadata else blank.metadata

theorem write_keeping (keep : String → Bool) (r : Rule) : ∀ f ∈ schema.fields,
    f.write (r.keeping keep) = if keep f.name then f.write r else f.write schema.blank := by
  intro f hf
  obtain ⟨i, hi, rfl⟩ := List.getElem_of_mem hf
  have hplaces : i < 27 := hi
  interval_cases i
  all_goals exact Schema.write_of_kept rfl

theorem fills_keeping : schema.Fills keeping :=
  isFaithful_schema.fills write_keeping

end Rule

end RuleDesk
