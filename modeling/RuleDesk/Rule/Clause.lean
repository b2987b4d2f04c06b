import RuleDesk.Rule.Basic
import RuleDesk.Text.Numeral

/-!
# Option clauses

The option list of a rule is a list of clauses. A rule is written as the clauses of its options in
a fixed order, and it is read by applying the clauses of its text, in their order, to a rule
without options.

A clause of text has the form `key:value`. Values are written as they are, without escapes.
-/

set_option autoImplicit false

namespace RuleDesk

open RuleDesk.Text

/-- An option that holds text. The message and the pattern stand in double quotes. -/
inductive TextOption where
  | message
  | classtype
  | reference
  | metadata
  | pcre
  | flow
  deriving DecidableEq, Repr

/-- An option that holds a number of 32 bits. -/
inductive NumberOption where
  | sid
  | revision
  | priority
  | depth
  | offset
  | distance
  | within
  deriving DecidableEq, Repr

/-- One part of a threshold clause. A type or track that is no keyword unsets the field. -/
inductive ThresholdPart where
  | type (value : Option ThresholdType)
  | track (value : Option ThresholdTrack)
  | count (value : UInt32)
  | seconds (value : UInt32)
  deriving DecidableEq, Repr

/-- One clause of an option list. -/
inductive Clause where
  | text (option : TextOption) (value : String)
  | number (option : NumberOption) (value : UInt32)
  | content (negated : Bool) (value : String)
  | nocase
  | threshold (parts : List ThresholdPart)
  deriving DecidableEq, Repr

instance : Vocabulary TextOption where
  noun := "text option"
  all := [.message, .classtype, .reference, .metadata, .pcre, .flow]
  spelling
    | .message => "msg"
    | .classtype => "classtype"
    | .reference => "reference"
    | .metadata => "metadata"
    | .pcre => "pcre"
    | .flow => "flow"

instance : Vocabulary NumberOption where
  noun := "number option"
  all := [.sid, .revision, .priority, .depth, .offset, .distance, .within]
  spelling
    | .sid => "sid"
    | .revision => "rev"
    | .priority => "priority"
    | .depth => "depth"
    | .offset => "offset"
    | .distance => "distance"
    | .within => "within"

/-- Whether the value of an option is written between double quotes. -/
def TextOption.isQuoted : TextOption → Bool
  | .message | .pcre => true
  | _ => false

/-! ## Applying clauses -/

/-- Set the field of a text option. -/
def TextOption.set (value : String) (r : Rule) : TextOption → Rule
  | .message => { r with message := value }
  | .classtype => { r with classtype := value }
  | .reference => { r with reference := value }
  | .metadata => { r with metadata := value }
  | .pcre => { r with pcre := value }
  | .flow => { r with flow := value }

/-- Set the field of a number option. -/
def NumberOption.set (value : UInt32) (r : Rule) : NumberOption → Rule
  | .sid => { r with sid := value }
  | .revision => { r with revision := value }
  | .priority => { r with priority := value }
  | .depth => { r with depth := value }
  | .offset => { r with offset := value }
  | .distance => { r with distance := value }
  | .within => { r with within := value }

/-- Set the field of a threshold part. -/
def ThresholdPart.apply (r : Rule) : ThresholdPart → Rule
  | .type value => { r with thresholdType := value }
  | .track value => { r with thresholdTrack := value }
  | .count value => { r with thresholdCount := value }
  | .seconds value => { r with thresholdSeconds := value }

/-- The rule after a clause. A content clause without negation leaves the negation as it is. -/
def Clause.apply (r : Rule) : Clause → Rule
  | .text option value => option.set value r
  | .number option value => option.set value r
  | .content negated value => { r with content := value, negated := negated || r.negated }
  | .nocase => { r with nocase := true }
  | .threshold parts => parts.foldl ThresholdPart.apply r

/-- The rule after a list of clauses. -/
def Rule.applyAll (r : Rule) (clauses : List Clause) : Rule :=
  clauses.foldl Clause.apply r

/-! ## The clauses of a rule -/

/-- A clause for a text option that is not empty. -/
def textClause (option : TextOption) (value : String) : List Clause :=
  if value.isEmpty then [] else [.text option value]

/-- A clause for a number option that is not zero. -/
def numberClause (option : NumberOption) (value : UInt32) : List Clause :=
  if value = 0 then [] else [.number option value]

/-- The clauses of the content, with the case mark behind it. -/
def Rule.contentClauses (r : Rule) : List Clause :=
  if r.content.isEmpty then []
  else .content r.negated r.content :: (if r.nocase then [.nocase] else [])

/-- The clause of a complete threshold. -/
def Rule.thresholdClauses (r : Rule) : List Clause :=
  if r.hasThreshold then
    [.threshold [.type r.thresholdType, .track r.thresholdTrack, .count r.thresholdCount,
      .seconds r.thresholdSeconds]]
  else []

/-- The clauses of a rule, in canonical order. -/
def Rule.clauses (r : Rule) : List Clause :=
  textClause .message r.message ++
    textClause .flow r.flowSet.text ++
    r.contentClauses ++
    numberClause .depth r.depth ++
    numberClause .offset r.offset ++
    numberClause .distance r.distance ++
    numberClause .within r.within ++
    textClause .pcre r.pcre ++
    textClause .classtype r.classtype ++
    numberClause .priority r.priority ++
    textClause .reference r.reference ++
    textClause .metadata r.metadata ++
    r.thresholdClauses ++
    [.number .sid r.sid, .number .revision r.revision]

/-! ## Text of a clause -/

/-- The spelling of a keyword as characters. -/
def spelled {α : Type} [Vocabulary α] (a : α) : List Char :=
  (Vocabulary.spelling a).toList

/-- The text of a threshold part: its key, a space and its value, which is empty if unset. -/
def ThresholdPart.chars : ThresholdPart → List Char
  | .type value => "type ".toList ++ (value.map spelled).getD []
  | .track value => "track ".toList ++ (value.map spelled).getD []
  | .count value => "count ".toList ++ numeral value.toNat
  | .seconds value => "seconds ".toList ++ numeral value.toNat

/-- The key of a clause. -/
def Clause.key : Clause → List Char
  | .text option _ => spelled option
  | .number option _ => spelled option
  | .content _ _ => "content".toList
  | .nocase => "nocase".toList
  | .threshold _ => "threshold".toList

/-- The text of a clause. -/
def Clause.chars : Clause → List Char
  | .text option value =>
      if option.isQuoted then spelled option ++ ':' :: '"' :: value.toList ++ ['"']
      else spelled option ++ ':' :: value.toList
  | .number option value => spelled option ++ ':' :: numeral value.toNat
  | .content negated value =>
      "content".toList ++ ':' :: '"' :: (if negated then ['!'] else []) ++ value.toList ++ ['"']
  | .nocase => "nocase".toList
  | .threshold parts =>
      "threshold".toList ++ ':' :: joined [',', ' '] (parts.map ThresholdPart.chars)

/-! ## Reading a clause -/

/-- Read one part of a threshold: exactly two words, of which the first is a key that is known. -/
def ThresholdPart.read? (part : List Char) : Option ThresholdPart :=
  match words part with
  | [key, value] =>
      if key = "type".toList then some (.type (Vocabulary.ofWord? (String.ofList value)))
      else if key = "track".toList then some (.track (Vocabulary.ofWord? (String.ofList value)))
      else if key = "count".toList then (readWord? value).map .count
      else if key = "seconds".toList then (readWord? value).map .seconds
      else none
  | _ => none

/-- Remove double quotes, and then single quotes, from both ends of a value. -/
def unquote (value : List Char) : List Char :=
  strip (· == '\'') (strip (· == '"') value)

/-- The clause with a given key and bare value, if it is one that is known and has an effect. -/
def Clause.ofKey? (key value : List Char) : Option Clause :=
  match (Vocabulary.ofWord? (String.ofList key) : Option TextOption) with
  | some option => some (.text option (String.ofList value))
  | none =>
      match (Vocabulary.ofWord? (String.ofList key) : Option NumberOption) with
      | some option => (readWord? value).map (.number option)
      | none =>
          if key = "content".toList then
            match value with
            | '!' :: rest => some (.content true (String.ofList (strip (· == '"') rest)))
            | _ => some (.content false (String.ofList value))
          else if key = "nocase".toList then some .nocase
          else if key = "threshold".toList then
            some (.threshold ((pieces ',' value).filterMap ThresholdPart.read?))
          else none

/-- Read one option: a key, and after the first colon a value; both are trimmed. -/
def Clause.read? (option : List Char) : Option Clause :=
  let option := trim option
  match cutAt? ':' option with
  | some (key, value) => Clause.ofKey? (trim key) (unquote (trim value))
  | none => Clause.ofKey? option []

end RuleDesk
