import RuleDesk.Json.Schema
import RuleDesk.Rule.Basic

/-!
# Rules as JSON

The fields of a rule under the names they have in project files, in the order in which they are
written and in which the items of an array fill them.
-/

set_option autoImplicit false

namespace RuleDesk.Rule

open RuleDesk.Json

/-- The fields of a rule in JSON. -/
def schema : Schema Rule where
  title := "RuleRecord"
  blank := Rule.blank
  fields :=
    [ .of "action" (.keyword Action) (·.action) fun v r => { r with action := v },
      .of "protocol" (.keyword Protocol) (·.protocol) fun v r => { r with protocol := v },
      .of "src_ip" .text (·.sourceAddress) fun v r => { r with sourceAddress := v },
      .of "src_port" .text (·.sourcePort) fun v r => { r with sourcePort := v },
      .of "direction" (.keyword Direction) (·.direction) fun v r => { r with direction := v },
      .of "dst_ip" .text (·.targetAddress) fun v r => { r with targetAddress := v },
      .of "dst_port" .text (·.targetPort) fun v r => { r with targetPort := v },
      .of "msg" .text (·.message) fun v r => { r with message := v },
      .of "sid" .word (·.sid) fun v r => { r with sid := v },
      .of "rev" .word (·.revision) fun v r => { r with revision := v },
      .of "classtype" .text (·.classtype) fun v r => { r with classtype := v },
      .of "priority" .word (·.priority) fun v r => { r with priority := v },
      .of "reference" .text (·.reference) fun v r => { r with reference := v },
      .of "content" .text (·.content) fun v r => { r with content := v },
      .of "content_nocase" .flag (·.nocase) fun v r => { r with nocase := v },
      .of "content_negated" .flag (·.negated) fun v r => { r with negated := v },
      .of "pcre" .text (·.pcre) fun v r => { r with pcre := v },
      .of "depth" .word (·.depth) fun v r => { r with depth := v },
      .of "offset" .word (·.offset) fun v r => { r with offset := v },
      .of "distance" .word (·.distance) fun v r => { r with distance := v },
      .of "within" .word (·.within) fun v r => { r with within := v },
      .of "flow" .text (·.flow) fun v r => { r with flow := v },
      .of "threshold_type" (.optionalKeyword ThresholdType) (·.thresholdType)
        fun v r => { r with thresholdType := v },
      .of "threshold_track" (.optionalKeyword ThresholdTrack) (·.thresholdTrack)
        fun v r => { r with thresholdTrack := v },
      .of "threshold_count" .word (·.thresholdCount) fun v r => { r with thresholdCount := v },
      .of "threshold_seconds" .word (·.thresholdSeconds)
        fun v r => { r with thresholdSeconds := v },
      .of "metadata" .text (·.metadata) fun v r => { r with metadata := v } ]

/-- A rule as a JSON object. -/
def toJson (r : Rule) : Value :=
  schema.codec.write r

/-- The rule that a JSON value describes, or the first mismatch. -/
def ofJson (v : Value) : Except Mismatch Rule :=
  schema.read v

end RuleDesk.Rule
