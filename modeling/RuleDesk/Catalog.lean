import RuleDesk.Rule.Line
import RuleDesk.Rule.Schema

/-!
# The template catalog

Rules to start from, each with a name, a category and a description. The catalog is listed in a
fixed order; its categories are listed by name.
-/

set_option autoImplicit false

namespace RuleDesk

open RuleDesk.Json

/-- A named rule to start from. -/
structure Template where
  name : String
  category : String
  description : String
  rule : Rule
  deriving DecidableEq, Repr

/-- A template as it is listed: with the text of its rule. -/
def Template.toJson (t : Template) : Value :=
  .object
    [ ("name", .string t.name),
      ("category", .string t.category),
      ("description", .string t.description),
      ("rule_text", .string t.rule.encode),
      ("rule_data", t.rule.toJson) ]

namespace Catalog

/-! ## Templates -/

/-- Detects common SQL injection patterns in HTTP traffic. -/
def sqlInjectionBasic : Template where
  name := "SQL Injection - Basic"
  category := "Web Application"
  description := "Detects common SQL injection patterns in HTTP traffic."
  rule :=
    { sourceAddress := "$EXTERNAL_NET"
      targetAddress := "$HOME_NET"
      targetPort := "$HTTP_PORTS"
      message := "SNORTFORGE SQL Injection Attempt Detected"
      content := "' OR '1'='1"
      nocase := true
      flow := "to_server,established"
      classtype := "web-application-attack"
      sid := 1000001
      priority := 1 }

/-- Detects UNION-based SQL injection attempts. -/
def sqlInjectionUnionSelect : Template where
  name := "SQL Injection - UNION SELECT"
  category := "Web Application"
  description := "Detects UNION-based SQL injection attempts."
  rule :=
    { sourceAddress := "$EXTERNAL_NET"
      targetAddress := "$HOME_NET"
      targetPort := "$HTTP_PORTS"
      message := "SNORTFORGE UNION SELECT SQL Injection Attempt"
      content := "UNION SELECT"
      nocase := true
      flow := "to_server,established"
      classtype := "web-application-attack"
      sid := 1000002
      priority := 1 }

/-- Detects Cross-Site Scripting via script tags. -/
def xssScriptTag : Template where
  name := "XSS - Script Tag"
  category := "Web Application"
  description := "Detects Cross-Site Scripting via script tags."
  rule :=
    { sourceAddress := "$EXTERNAL_NET"
      targetAddress := "$HOME_NET"
      targetPort := "$HTTP_PORTS"
      message := "SNORTFORGE XSS Script Tag Detected"
      content := "<script>"
      nocase := true
      flow := "to_server,established"
      classtype := "web-application-attack"
      sid := 1000003
      priority := 2 }

/-- Detects potential SYN-based port scanning activity. -/
def portScanSynScan : Template where
  name := "Port Scan - SYN Scan"
  category := "Reconnaissance"
  description := "Detects potential SYN-based port scanning activity."
  rule :=
    { sourceAddress := "$EXTERNAL_NET"
      targetAddress := "$HOME_NET"
      message := "SNORTFORGE Possible SYN Port Scan Detected"
      flow := "stateless"
      classtype := "attempted-recon"
      sid := 1000004
      priority := 2
      thresholdType := some .threshold
      thresholdTrack := some .bySource
      thresholdCount := 5
      thresholdSeconds := 60 }

/-- Detects multiple SSH connection attempts (brute force). -/
def sshBruteForce : Template where
  name := "SSH Brute Force"
  category := "Brute Force"
  description := "Detects multiple SSH connection attempts (brute force)."
  rule :=
    { sourceAddress := "$EXTERNAL_NET"
      targetAddress := "$HOME_NET"
      targetPort := "22"
      message := "SNORTFORGE SSH Brute Force Attempt Detected"
      flow := "to_server,established"
      classtype := "attempted-admin"
      sid := 1000005
      priority := 1
      thresholdType := some .threshold
      thresholdTrack := some .bySource
      thresholdCount := 5
      thresholdSeconds := 120 }

/-- Detects multiple failed FTP login attempts. -/
def ftpBruteForce : Template where
  name := "FTP Brute Force"
  category := "Brute Force"
  description := "Detects multiple failed FTP login attempts."
  rule :=
    { sourceAddress := "$EXTERNAL_NET"
      targetAddress := "$HOME_NET"
      targetPort := "21"
      message := "SNORTFORGE FTP Brute Force Attempt Detected"
      content := "USER"
      flow := "to_server,established"
      classtype := "attempted-admin"
      sid := 1000006
      priority := 1
      thresholdType := some .threshold
      thresholdTrack := some .bySource
      thresholdCount := 5
      thresholdSeconds := 60 }

/-- Detects ICMP-based network reconnaissance. -/
def icmpPingSweep : Template where
  name := "ICMP Ping Sweep"
  category := "Reconnaissance"
  description := "Detects ICMP-based network reconnaissance."
  rule :=
    { protocol := .icmp
      sourceAddress := "$EXTERNAL_NET"
      targetAddress := "$HOME_NET"
      message := "SNORTFORGE ICMP Ping Sweep Detected"
      classtype := "attempted-recon"
      sid := 1000007
      priority := 3
      thresholdType := some .threshold
      thresholdTrack := some .bySource
      thresholdCount := 10
      thresholdSeconds := 30 }

/-- Detects DNS zone transfer attempts (AXFR). -/
def dnsZoneTransfer : Template where
  name := "DNS Zone Transfer"
  category := "Reconnaissance"
  description := "Detects DNS zone transfer attempts (AXFR)."
  rule :=
    { targetAddress := "$HOME_NET"
      targetPort := "53"
      message := "SNORTFORGE DNS Zone Transfer Attempt"
      content := "|00 FC|"
      flow := "to_server,established"
      classtype := "attempted-recon"
      sid := 1000008
      priority := 2 }

/-- Detects potential Netcat-based reverse shell activity. -/
def reverseShellNetcat : Template where
  name := "Reverse Shell - Netcat"
  category := "Malware / C2"
  description := "Detects potential Netcat-based reverse shell activity."
  rule :=
    { sourceAddress := "$HOME_NET"
      targetAddress := "$EXTERNAL_NET"
      message := "SNORTFORGE Possible Netcat Reverse Shell"
      content := "/bin/sh"
      flow := "established"
      classtype := "trojan-activity"
      sid := 1000009
      priority := 1 }

/-- Detects directory traversal attempts in HTTP requests. -/
def httpDirectoryTraversal : Template where
  name := "HTTP Directory Traversal"
  category := "Web Application"
  description := "Detects directory traversal attempts in HTTP requests."
  rule :=
    { sourceAddress := "$EXTERNAL_NET"
      targetAddress := "$HOME_NET"
      targetPort := "$HTTP_PORTS"
      message := "SNORTFORGE HTTP Directory Traversal Attempt"
      content := "../"
      flow := "to_server,established"
      classtype := "web-application-attack"
      sid := 1000010
      priority := 2 }

/-- Detects SMB traffic targeting EternalBlue (MS17-010). -/
def smbEternalblueProbe : Template where
  name := "SMB EternalBlue Probe"
  category := "Exploit"
  description := "Detects SMB traffic targeting EternalBlue (MS17-010)."
  rule :=
    { targetAddress := "$HOME_NET"
      targetPort := "445"
      message := "SNORTFORGE Possible EternalBlue SMB Exploit Attempt"
      content := "|FF|SMB"
      flow := "to_server,established"
      classtype := "attempted-admin"
      sid := 1000011
      priority := 1 }

/-- Detects unusually long DNS queries indicating DNS tunneling. -/
def dnsTunnelingIndicator : Template where
  name := "DNS Tunneling Indicator"
  category := "Malware / C2"
  description := "Detects unusually long DNS queries indicating DNS tunneling."
  rule :=
    { protocol := .udp
      sourceAddress := "$HOME_NET"
      targetPort := "53"
      message := "SNORTFORGE Possible DNS Tunneling - Long Query"
      pcre := "/[a-zA-Z0-9]\x7b50,\x7d/"
      classtype := "trojan-activity"
      sid := 1000012
      priority := 2 }

/-! ## Listing -/

/-- All templates, in order. -/
def all : List Template :=
  [ sqlInjectionBasic,
    sqlInjectionUnionSelect,
    xssScriptTag,
    portScanSynScan,
    sshBruteForce,
    ftpBruteForce,
    icmpPingSweep,
    dnsZoneTransfer,
    reverseShellNetcat,
    httpDirectoryTraversal,
    smbEternalblueProbe,
    dnsTunnelingIndicator ]

/-- The templates of a category. No category, an empty one and `all` stand for all templates. -/
def list (category : Option String) : List Template :=
  match category with
  | none | some "" | some "all" => all
  | some name => all.filter (fun t => t.category == name)

/-- Put a name at its place in a sorted list, unless it is there. -/
def insertName (name : String) : List String → List String
  | [] => [name]
  | other :: rest =>
      if name = other then other :: rest
      else if name < other then name :: other :: rest
      else other :: insertName name rest

/-- The categories, sorted by name. -/
def categories : List String :=
  (all.map (·.category)).foldl (fun names name => insertName name names) []

/-- The template of a given name. -/
def find? (name : String) : Option Template :=
  all.find? (fun t => t.name == name)

/-- The categories and the templates of one of them. -/
def listing (category : Option String) : Value :=
  .object
    [ ("categories", .array (categories.map .string)),
      ("templates", .array ((list category).map Template.toJson)) ]

end Catalog

end RuleDesk
