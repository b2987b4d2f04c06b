import RuleDesk.Json.Printer
import RuleDesk.Rule.Line
import RuleDesk.Rule.Schema
import RuleDesk.Timestamp

/-!
# Exports

Rules leave the desk as a file: as rule text, one rule a line under a banner of comments, or as a
project, a JSON document that holds every field of every rule. A file of rule text is never empty;
a project may be.
-/

set_option autoImplicit false

namespace RuleDesk

open RuleDesk.Json
open RuleDesk.Text

/-- A file to download. -/
structure Attachment where
  filename : String
  contentType : String
  body : String
  deriving DecidableEq, Repr

/-! ## Rule text -/

/-- The width of the bar in the banner. -/
def bannerWidth : Nat := 55

/-- The comment lines before the rules, and the empty line that ends them. -/
def banner (count : Nat) (now : Timestamp) : List (List Char) :=
  let bar := '#' :: ' ' :: List.replicate bannerWidth '═'
  [ bar,
    "# SnortForge — Generated Rules".toList,
    "# Date: ".toList ++ now.spaced,
    "# Total Rules: ".toList ++ numeral count,
    bar,
    [] ]

/-- The characters of a file of rule text; every line ends with a line feed. -/
def rulesFileChars (rules : List Rule) (now : Timestamp) : List Char :=
  joined ['\n'] (banner rules.length now ++ rules.map Rule.chars) ++ ['\n']

/-- The file of rule text; none for no rules. -/
def rulesFile? (rules : List Rule) (now : Timestamp) : Option Attachment :=
  if rules.isEmpty then none
  else
    some
      { filename := "snortforge_rules.rules"
        contentType := "text/plain"
        body := String.ofList (rulesFileChars rules now) }

/-! ## Projects -/

/-- The version of the project format. -/
def projectVersion : String := "1.0.0"

/-- The project document of a list of rules. The count is a number of 64 bits, as the reader of
JSON keeps natural numbers. -/
def projectDocument (rules : List Rule) (now : Timestamp) : Value :=
  .object
    [ ("snortforge_version", .string projectVersion),
      ("exported", .string (String.ofList now.iso)),
      ("rule_count", .nat (UInt64.ofNat rules.length).toNat),
      ("rules", .array (rules.map Rule.toJson)) ]

/-- The project file of a list of rules. -/
def projectFile (rules : List Rule) (now : Timestamp) : Attachment where
  filename := "snortforge_project.json"
  contentType := "application/json"
  body := (projectDocument rules now).pretty

end RuleDesk
