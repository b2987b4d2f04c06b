import RuleDesk.Rule.Basic
import RuleDesk.Validation.Address
import RuleDesk.Validation.HexBlock

/-!
# Validation reports

Validating a rule lists its faults and its cautions. A fault makes the rule invalid; a caution
points out a rule that may not do what its author wants. The vocabularies keep action, protocol and
direction valid by themselves, so the checks look at the text and number fields.
-/

set_option autoImplicit false

namespace RuleDesk.Validation

open RuleDesk.Text

/-! ## Known names -/

/-- The class names that are standard. -/
def standardClasstypes : List String :=
  [ "attempted-admin", "attempted-user", "inappropriate-content", "policy-violation",
    "shellcode-detect", "successful-admin", "successful-user", "trojan-activity",
    "unsuccessful-user", "web-application-attack", "attempted-dos", "attempted-recon",
    "bad-unknown", "default-login-attempt", "denial-of-service", "misc-attack",
    "non-standard-protocol", "rpc-portmap-decode", "successful-dos",
    "successful-recon-largescale", "successful-recon-limited", "suspicious-filename-detect",
    "suspicious-login", "system-call-detect", "unusual-client-port-connection",
    "web-application-activity", "icmp-event", "misc-activity", "network-scan",
    "not-suspicious", "protocol-command-decode", "string-detect", "unknown",
    "tcp-connection" ]

/-- The flow words that a rule may use, whether the builder has a switch for them or not. -/
def knownFlowWords : List String :=
  [ "to_client", "to_server", "from_client", "from_server", "established", "not_established",
    "stateless", "no_stream", "only_stream", "no_frag", "only_frag" ]

/-- Identifiers below this one are reserved. -/
def reservedSidLimit : UInt32 := 1000000

/-! ## Findings -/

/-- One of the two ends of the traffic that a rule looks at. -/
inductive Side where
  | source
  | target
  deriving DecidableEq, Repr

/-- The name of an end. -/
def Side.name : Side → String
  | .source => "Source"
  | .target => "Destination"

/-- What makes a rule invalid. -/
inductive Fault where
  | address (side : Side) (value : String)
  | port (side : Side) (value : String)
  | noMessage
  | messageCharacters
  | noSid
  | noRevision
  | oddHex (block : String)
  | nonHex (block : String)
  | depthWithoutContent
  | offsetWithoutContent
  | flowWord (word : String)
  | patternFormat
  | thresholdTrack
  | thresholdCount
  | thresholdSeconds
  deriving DecidableEq, Repr

/-- What the author of a rule may have overlooked. -/
inductive Caution where
  | anyAddresses
  | anyPorts
  | shortMessage
  | reservedSid (sid : UInt32)
  | headerOnly
  | offsetBeyondDepth
  | noFlow
  | classtype (name : String)
  deriving DecidableEq, Repr

/-- The wording of a fault. -/
def Fault.message : Fault → String
  | .address side value => s!"Invalid {side.name} IP: '{value}'"
  | .port side value => s!"Invalid {side.name} port: '{value}'"
  | .noMessage => "Rule message (msg) is required."
  | .messageCharacters => "Message must not contain '\"' or ';' characters."
  | .noSid => "SID must be >= 1."
  | .noRevision => "Revision must be >= 1."
  | .oddHex block => s!"Invalid hex: '|{block}|' — must have even number of hex chars."
  | .nonHex block => s!"Invalid hex: '|{block}|' — contains non-hex characters."
  | .depthWithoutContent => "Depth requires content."
  | .offsetWithoutContent => "Offset requires content."
  | .flowWord word => s!"Invalid flow option '{word}'."
  | .patternFormat => "PCRE must be in format: /pattern/flags"
  | .thresholdTrack => "Threshold track must be 'by_src' or 'by_dst'."
  | .thresholdCount => "Threshold count must be > 0."
  | .thresholdSeconds => "Threshold seconds must be > 0."

/-- The wording of a caution. -/
def Caution.message : Caution → String
  | .anyAddresses =>
      "Both source and destination IPs are 'any' — rule may be overly broad."
  | .anyPorts => "Both ports are 'any' — consider narrowing scope."
  | .shortMessage => "Rule message is very short — use a descriptive message."
  | .reservedSid sid =>
      s!"SID {sid.toNat} is reserved (< 1,000,000). Custom rules should use >= 1,000,000."
  | .headerOnly => "No content or PCRE — rule matches on header only."
  | .offsetBeyondDepth => "Offset >= depth — content may never match."
  | .noFlow => "No flow option for TCP — consider adding 'established'."
  | .classtype name => s!"Classtype '{name}' is non-standard."

/-! ## Checks -/

/-- A list of one finding if a condition holds, and of none otherwise. -/
def onlyIf {α : Type} (condition : Bool) (finding : α) : List α :=
  if condition then [finding] else []

/-- The faults of the header. -/
def networkFaults (r : Rule) : List Fault :=
  onlyIf (!isAddress r.sourceAddress.toList) (.address .source r.sourceAddress) ++
    onlyIf (!isAddress r.targetAddress.toList) (.address .target r.targetAddress) ++
    onlyIf (!isPort r.sourcePort.toList) (.port .source r.sourcePort) ++
    onlyIf (!isPort r.targetPort.toList) (.port .target r.targetPort)

/-- The cautions of the header. -/
def networkCautions (r : Rule) : List Caution :=
  onlyIf (r.sourceAddress == "any" && r.targetAddress == "any") .anyAddresses ++
    onlyIf (r.sourcePort == "any" && r.targetPort == "any") .anyPorts

/-- A message that is shorter than this is not descriptive. -/
def shortMessageLength : Nat := 5

/-- The fault of the message. A short message is not looked at any further. -/
def messageFaults (r : Rule) : List Fault :=
  let message := r.message.toList
  if message.isEmpty then [.noMessage]
  else if message.length < shortMessageLength then []
  else onlyIf (message.contains '"' || message.contains ';') .messageCharacters

/-- The caution of the message. -/
def messageCautions (r : Rule) : List Caution :=
  let message := r.message.toList
  onlyIf (!message.isEmpty && message.length < shortMessageLength) .shortMessage

/-- The faults of the identifier and the revision. -/
def identityFaults (r : Rule) : List Fault :=
  onlyIf (r.sid == 0) .noSid ++ onlyIf (r.revision == 0) .noRevision

/-- The caution of the identifier. -/
def identityCautions (r : Rule) : List Caution :=
  onlyIf (r.sid != 0 && r.sid < reservedSidLimit) (.reservedSid r.sid)

/-- The faults of one hexadecimal block. -/
def blockFaults (block : List Char) : List Fault :=
  onlyIf (hasOddHex block) (.oddHex (String.ofList block)) ++
    onlyIf (hasNonHex block) (.nonHex (String.ofList block))

/-- The faults of the content and its modifiers. -/
def contentFaults (r : Rule) : List Fault :=
  (hexBlocks r.content.toList).flatMap blockFaults ++
    onlyIf (0 < r.depth && r.content.isEmpty) .depthWithoutContent ++
    onlyIf (0 < r.offset && r.content.isEmpty) .offsetWithoutContent

/-- The cautions of the content and its modifiers. -/
def contentCautions (r : Rule) : List Caution :=
  onlyIf (r.content.isEmpty && r.pcre.isEmpty) .headerOnly ++
    onlyIf (0 < r.depth && r.depth ≤ r.offset) .offsetBeyondDepth

/-- The words that the flow of a rule lists, trimmed. An empty flow lists none. -/
def flowWords (r : Rule) : List String :=
  if r.flow.isEmpty then []
  else (pieces ',' r.flow.toList).map fun piece => String.ofList (trim piece)

/-- The faults of the flow: one for each word that is not known. -/
def flowFaults (r : Rule) : List Fault :=
  ((flowWords r).filter (fun word => !knownFlowWords.contains word)).map .flowWord

/-- The caution of the flow. -/
def flowCautions (r : Rule) : List Caution :=
  onlyIf (r.flow.isEmpty && r.protocol == .tcp) .noFlow

/-- The fault of the pattern: it must begin with a slash and hold another. -/
def patternFaults (r : Rule) : List Fault :=
  let pattern := r.pcre.toList
  onlyIf (!pattern.isEmpty && (pattern.head? != some '/' || pattern.count '/' < 2)) .patternFormat

/-- The caution of the class. -/
def classtypeCautions (r : Rule) : List Caution :=
  onlyIf (!r.classtype.isEmpty && !standardClasstypes.contains r.classtype)
    (.classtype r.classtype)

/-- The faults of a threshold that has a type. -/
def thresholdFaults (r : Rule) : List Fault :=
  if r.thresholdType.isNone then []
  else
    onlyIf r.thresholdTrack.isNone .thresholdTrack ++
      onlyIf (r.thresholdCount == 0) .thresholdCount ++
      onlyIf (r.thresholdSeconds == 0) .thresholdSeconds

/-! ## Reports -/

/-- What validating a rule finds. -/
structure Report where
  faults : List Fault
  cautions : List Caution
  deriving DecidableEq, Repr

/-- Whether a report lists no fault. -/
def Report.isValid (report : Report) : Bool :=
  report.faults.isEmpty

/-- Validate a rule. -/
def report (r : Rule) : Report where
  faults :=
    networkFaults r ++ messageFaults r ++ identityFaults r ++ contentFaults r ++ flowFaults r ++
      patternFaults r ++ thresholdFaults r
  cautions :=
    networkCautions r ++ messageCautions r ++ identityCautions r ++ contentCautions r ++
      flowCautions r ++ classtypeCautions r

end RuleDesk.Validation
