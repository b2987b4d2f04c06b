import RuleDesk.Rule.Schema
import RuleDesk.WorkspaceError

/-!
# The builder form

A form is a rule being edited. It differs from a rule in one place: the flow is held as six
switches instead of text. A form is taken from a rule and turned back into one field by field; a
form that is submitted by hand must have a message, and its text fields are tidied.
-/

set_option autoImplicit false

namespace RuleDesk

open RuleDesk.Text
open RuleDesk.Json

/-- The editable view of a rule. -/
structure Form where
  action : Action := .alert
  protocol : Protocol := .tcp
  sourceAddress : String := "any"
  sourcePort : String := "any"
  direction : Direction := .unidirectional
  targetAddress : String := "any"
  targetPort : String := "any"
  message : String := ""
  sid : UInt32 := defaultSid
  revision : UInt32 := 1
  priority : UInt32 := 0
  classtype : String := ""
  reference : String := ""
  content : String := ""
  nocase : Bool := false
  negated : Bool := false
  depth : UInt32 := 0
  offset : UInt32 := 0
  distance : UInt32 := 0
  within : UInt32 := 0
  pcre : String := ""
  established : Bool := false
  stateless : Bool := false
  toServer : Bool := false
  toClient : Bool := false
  fromServer : Bool := false
  fromClient : Bool := false
  thresholdType : Option ThresholdType := none
  thresholdTrack : Option ThresholdTrack := some .bySource
  thresholdCount : UInt32 := 0
  thresholdSeconds : UInt32 := 0
  metadata : String := ""
  deriving DecidableEq, Repr

namespace Form

/-- A cleared form. Unlike a blank rule it tracks a threshold by source. -/
def blank : Form := {}

/-! ## Flow switches -/

/-- The six switches as a set. -/
def flowSet (f : Form) : FlowSet :=
  { established := f.established
    stateless := f.stateless
    toServer := f.toServer
    toClient := f.toClient
    fromServer := f.fromServer
    fromClient := f.fromClient }

/-- The form with its six switches set from a flow set. -/
def withFlow (f : Form) (flow : FlowSet) : Form :=
  { f with
    established := flow.contains .established
    stateless := flow.contains .stateless
    toServer := flow.contains .toServer
    toClient := flow.contains .toClient
    fromServer := flow.contains .fromServer
    fromClient := flow.contains .fromClient }

/-! ## Rules and forms -/

/-- The rule of a form, field by field; nothing is trimmed or filled in. -/
def toRule (f : Form) : Rule where
  action := f.action
  protocol := f.protocol
  sourceAddress := f.sourceAddress
  sourcePort := f.sourcePort
  direction := f.direction
  targetAddress := f.targetAddress
  targetPort := f.targetPort
  message := f.message
  sid := f.sid
  revision := f.revision
  classtype := f.classtype
  priority := f.priority
  reference := f.reference
  content := f.content
  nocase := f.nocase
  negated := f.negated
  pcre := f.pcre
  depth := f.depth
  offset := f.offset
  distance := f.distance
  within := f.within
  flow := f.flowSet.text
  thresholdType := f.thresholdType
  thresholdTrack := f.thresholdTrack
  thresholdCount := f.thresholdCount
  thresholdSeconds := f.thresholdSeconds
  metadata := f.metadata

/-- The form of a rule; flow words that have no switch are dropped. -/
def ofRule (r : Rule) : Form :=
  let form : Form :=
    { action := r.action
      protocol := r.protocol
      sourceAddress := r.sourceAddress
      sourcePort := r.sourcePort
      direction := r.direction
      targetAddress := r.targetAddress
      targetPort := r.targetPort
      message := r.message
      sid := r.sid
      revision := r.revision
      priority := r.priority
      classtype := r.classtype
      reference := r.reference
      content := r.content
      nocase := r.nocase
      negated := r.negated
      depth := r.depth
      offset := r.offset
      distance := r.distance
      within := r.within
      pcre := r.pcre
      thresholdType := r.thresholdType
      thresholdTrack := r.thresholdTrack
      thresholdCount := r.thresholdCount
      thresholdSeconds := r.thresholdSeconds
      metadata := r.metadata }
  form.withFlow r.flowSet

/-- Text without blank characters at its ends. -/
def tidy (s : String) : String :=
  String.ofList (trim s.toList)

/-- A tidied address or port; a blank one becomes `any`. -/
def orAny (s : String) : String :=
  if isAllBlank s.toList then "any" else tidy s

/-- The rule of a form that is submitted by hand. Content and pattern stay as they are, since blank
characters in them decide what the rule matches. -/
def accept (f : Form) : Except WorkspaceError Rule :=
  let r := f.toRule
  if r.lacksMessage then .error (.input .messageRequired)
  else
    .ok { r with
      sourceAddress := orAny r.sourceAddress
      sourcePort := orAny r.sourcePort
      targetAddress := orAny r.targetAddress
      targetPort := orAny r.targetPort
      message := tidy r.message
      classtype := tidy r.classtype
      reference := tidy r.reference
      metadata := tidy r.metadata }

/-! ## Forms as JSON -/

/-- The fields of a form in JSON. -/
def schema : Schema Form where
  title := "FormState"
  blank := Form.blank
  fields :=
    [ .of "action" (.keyword Action) (·.action) fun v f => { f with action := v },
      .of "protocol" (.keyword Protocol) (·.protocol) fun v f => { f with protocol := v },
      .of "src_ip" .text (·.sourceAddress) fun v f => { f with sourceAddress := v },
      .of "src_port" .text (·.sourcePort) fun v f => { f with sourcePort := v },
      .of "direction" (.keyword Direction) (·.direction) fun v f => { f with direction := v },
      .of "dst_ip" .text (·.targetAddress) fun v f => { f with targetAddress := v },
      .of "dst_port" .text (·.targetPort) fun v f => { f with targetPort := v },
      .of "msg" .text (·.message) fun v f => { f with message := v },
      .of "sid" .word (·.sid) fun v f => { f with sid := v },
      .of "rev" .word (·.revision) fun v f => { f with revision := v },
      .of "priority" .word (·.priority) fun v f => { f with priority := v },
      .of "classtype" .text (·.classtype) fun v f => { f with classtype := v },
      .of "reference" .text (·.reference) fun v f => { f with reference := v },
      .of "content" .text (·.content) fun v f => { f with content := v },
      .of "content_nocase" .flag (·.nocase) fun v f => { f with nocase := v },
      .of "content_negated" .flag (·.negated) fun v f => { f with negated := v },
      .of "depth" .word (·.depth) fun v f => { f with depth := v },
      .of "offset" .word (·.offset) fun v f => { f with offset := v },
      .of "distance" .word (·.distance) fun v f => { f with distance := v },
      .of "within" .word (·.within) fun v f => { f with within := v },
      .of "pcre" .text (·.pcre) fun v f => { f with pcre := v },
      .of "flow_established" .flag (·.established) fun v f => { f with established := v },
      .of "flow_stateless" .flag (·.stateless) fun v f => { f with stateless := v },
      .of "flow_to_server" .flag (·.toServer) fun v f => { f with toServer := v },
      .of "flow_to_client" .flag (·.toClient) fun v f => { f with toClient := v },
      .of "flow_from_server" .flag (·.fromServer) fun v f => { f with fromServer := v },
      .of "flow_from_client" .flag (·.fromClient) fun v f => { f with fromClient := v },
      .of "threshold_type" (.optionalKeyword ThresholdType) (·.thresholdType)
        fun v f => { f with thresholdType := v },
      .of "threshold_track" (.optionalKeyword ThresholdTrack) (·.thresholdTrack)
        fun v f => { f with thresholdTrack := v },
      .of "threshold_count" .word (·.thresholdCount) fun v f => { f with thresholdCount := v },
      .of "threshold_seconds" .word (·.thresholdSeconds)
        fun v f => { f with thresholdSeconds := v },
      .of "metadata" .text (·.metadata) fun v f => { f with metadata := v } ]

/-- A form as a JSON object. -/
def toJson (f : Form) : Value :=
  schema.codec.write f

/-- The form that a JSON value describes, or the first mismatch. -/
def ofJson (v : Value) : Except Mismatch Form :=
  schema.read v

end Form

end RuleDesk
