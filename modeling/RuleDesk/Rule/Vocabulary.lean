import RuleDesk.Keyword

/-!
# The vocabularies of a rule

What a rule does with a packet, which protocol and direction it looks at, and how a threshold
counts. Each keyword has one spelling, in lower case or as an arrow.
-/

set_option autoImplicit false

namespace RuleDesk

/-- What happens to a packet that a rule matches. -/
inductive Action where
  | alert
  | log
  | pass
  | drop
  | reject
  | sdrop
  deriving DecidableEq, Repr

instance : Vocabulary Action where
  noun := "action"
  all := [.alert, .log, .pass, .drop, .reject, .sdrop]
  spelling
    | .alert => "alert"
    | .log => "log"
    | .pass => "pass"
    | .drop => "drop"
    | .reject => "reject"
    | .sdrop => "sdrop"

/-- The protocol that a rule looks at. -/
inductive Protocol where
  | tcp
  | udp
  | icmp
  | ip
  deriving DecidableEq, Repr

instance : Vocabulary Protocol where
  noun := "protocol"
  all := [.tcp, .udp, .icmp, .ip]
  spelling
    | .tcp => "tcp"
    | .udp => "udp"
    | .icmp => "icmp"
    | .ip => "ip"

/-- Whether a rule looks at traffic one way or both ways. -/
inductive Direction where
  | unidirectional
  | bidirectional
  deriving DecidableEq, Repr

instance : Vocabulary Direction where
  noun := "direction"
  all := [.unidirectional, .bidirectional]
  spelling
    | .unidirectional => "->"
    | .bidirectional => "<>"

/-- When a threshold lets an alert through. -/
inductive ThresholdType where
  | limit
  | threshold
  | both
  deriving DecidableEq, Repr

instance : Vocabulary ThresholdType where
  noun := "threshold type"
  all := [.limit, .threshold, .both]
  spelling
    | .limit => "limit"
    | .threshold => "threshold"
    | .both => "both"

/-- The address by which a threshold counts. -/
inductive ThresholdTrack where
  | bySource
  | byDestination
  deriving DecidableEq, Repr

instance : Vocabulary ThresholdTrack where
  noun := "threshold track"
  all := [.bySource, .byDestination]
  spelling
    | .bySource => "by_src"
    | .byDestination => "by_dst"

/-- A state of a connection that the builder knows. -/
inductive FlowOption where
  | established
  | stateless
  | toServer
  | toClient
  | fromServer
  | fromClient
  deriving DecidableEq, Repr

/-- The order of the members is the canonical order of flow options. -/
instance : Vocabulary FlowOption where
  noun := "flow option"
  all := [.established, .stateless, .toServer, .toClient, .fromServer, .fromClient]
  spelling
    | .established => "established"
    | .stateless => "stateless"
    | .toServer => "to_server"
    | .toClient => "to_client"
    | .fromServer => "from_server"
    | .fromClient => "from_client"

end RuleDesk
