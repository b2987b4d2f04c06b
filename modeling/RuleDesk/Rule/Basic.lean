import RuleDesk.Rule.Flow

/-!
# Rules

A rule is a header, which says what traffic it looks at and what happens to it, and options, which
say what else must hold and how the rule is filed. A number of zero and an empty text stand for an
absent option.
-/

set_option autoImplicit false

namespace RuleDesk

open RuleDesk.Text

/-- The identifier of a blank rule. -/
def defaultSid : UInt32 := 1000001

/-- One detection rule. -/
structure Rule where
  action : Action := .alert
  protocol : Protocol := .tcp
  sourceAddress : String := "any"
  sourcePort : String := "any"
  direction : Direction := .unidirectional
  targetAddress : String := "any"
  targetPort : String := "any"
  message : String := ""
  sid : UInt32 := defaultSid
  revision : UInt32 := 1
  classtype : String := ""
  priority : UInt32 := 0
  reference : String := ""
  content : String := ""
  nocase : Bool := false
  negated : Bool := false
  pcre : String := ""
  depth : UInt32 := 0
  offset : UInt32 := 0
  distance : UInt32 := 0
  within : UInt32 := 0
  flow : String := ""
  thresholdType : Option ThresholdType := none
  thresholdTrack : Option ThresholdTrack := none
  thresholdCount : UInt32 := 0
  thresholdSeconds : UInt32 := 0
  metadata : String := ""
  deriving DecidableEq, Repr

namespace Rule

/-- The rule that absent fields are taken from. -/
def blank : Rule := {}

/-- The flow options that the rule names. -/
def flowSet (r : Rule) : FlowSet :=
  .ofText r.flow

/-- Whether the threshold is complete: it has a type, a count and a span. Its track may be unset. -/
def hasThreshold (r : Rule) : Bool :=
  r.thresholdType.isSome && 0 < r.thresholdCount && 0 < r.thresholdSeconds

/-- Whether the message is empty or blank, so that a rule may not be added by hand. -/
def lacksMessage (r : Rule) : Bool :=
  isAllBlank r.message.toList

end Rule

end RuleDesk
