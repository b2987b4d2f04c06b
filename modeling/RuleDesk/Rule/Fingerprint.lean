import RuleDesk.Digest.Sha256
import RuleDesk.Rule.Clause
import RuleDesk.Text.Utf8

/-!
# Fingerprints

Two rules look at the same traffic if they agree in protocol, addresses, ports, direction, flow,
content and its modifiers, pattern and complete threshold. The fingerprint of a rule is the hash of
a text that lists these and nothing else, so a rule that was renumbered, reworded or filed anew
keeps its fingerprint.
-/

set_option autoImplicit false

namespace RuleDesk

open RuleDesk.Text

/-- The word for a truth value. -/
def flagChars (b : Bool) : List Char :=
  if b then "true".toList else "false".toList

/-- The threshold in the detection text: empty unless complete, and with an empty track if unset.
-/
def Rule.thresholdText (r : Rule) : List Char :=
  if r.hasThreshold then
    joined ['/']
      [(r.thresholdType.map spelled).getD [], (r.thresholdTrack.map spelled).getD [],
        numeral r.thresholdCount.toNat, numeral r.thresholdSeconds.toNat]
  else []

/-- The fields of the detection text, in order. -/
def Rule.detectionFields (r : Rule) : List (List Char) :=
  [spelled r.protocol, r.sourceAddress.toList, r.sourcePort.toList, spelled r.direction,
    r.targetAddress.toList, r.targetPort.toList, r.flowSet.chars, r.content.toList,
    flagChars r.nocase, flagChars r.negated, numeral r.depth.toNat, numeral r.offset.toNat,
    numeral r.distance.toNat, numeral r.within.toNat, r.pcre.toList, r.thresholdText]

/-- The text that is hashed. -/
def Rule.detectionText (r : Rule) : List Char :=
  joined [':'] ("RULE".toList :: r.detectionFields)

/-- The fingerprint of a rule. -/
def Rule.fingerprint (r : Rule) : String :=
  Digest.sha256Hex (toOctets r.detectionText)

end RuleDesk
