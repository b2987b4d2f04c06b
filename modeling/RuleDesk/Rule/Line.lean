import RuleDesk.Rule.OptionList

/-!
# Rules as lines of text

A rule is one line: seven header words, then its option list in parentheses.

```text
action protocol address port direction address port (option; option;)
```

Reading is in two steps. The frame of a line is its seven words and the text between the first
parenthesis behind them and the one that ends the line; a line that has several frames is read by
the one whose seventh word is longest. The words are then looked up and the option list applied.
-/

set_option autoImplicit false

namespace RuleDesk

open RuleDesk.Text

/-! ## Writing -/

/-- The header words of a rule. -/
def Rule.header (r : Rule) : List (List Char) :=
  [spelled r.action, spelled r.protocol, r.sourceAddress.toList, r.sourcePort.toList,
    spelled r.direction, r.targetAddress.toList, r.targetPort.toList]

/-- The characters of a rule's line. -/
def Rule.chars (r : Rule) : List Char :=
  joined [' '] r.header ++ ' ' :: '(' :: OptionList.chars r.clauses ++ [')']

/-- A rule as one line of text. -/
def Rule.encode (r : Rule) : String :=
  String.ofList r.chars

/-- Rules as lines of text, without a line feed behind the last. -/
def encodeAll (rules : List Rule) : String :=
  String.ofList (joined ['\n'] (rules.map Rule.chars))

/-! ## Frames -/

/-- The parts of a line: its header words and the text of its option list. -/
structure Frame where
  action : List Char
  protocol : List Char
  sourceAddress : List Char
  sourcePort : List Char
  direction : List Char
  targetAddress : List Char
  targetPort : List Char
  body : List Char
  deriving DecidableEq, Repr

/-- Read a word and the blank characters that must follow it. -/
def word? (s : List Char) : Option (List Char × List Char) :=
  let word := s.takeWhile (fun c => !isBlank c)
  let rest := s.dropWhile (fun c => !isBlank c)
  if word.isEmpty || rest.isEmpty then none else some (word, rest.dropWhile isBlank)

/-- The text between parentheses, which may stand behind blank characters and must end the line.
It is not empty and holds no line feed. -/
def parenthesized? (s : List Char) : Option (List Char) :=
  match s.dropWhile isBlank with
  | '(' :: rest =>
      match rest.getLast? with
      | some ')' =>
          let body := rest.dropLast
          if body.isEmpty || body.contains '\n' then none else some body
      | _ => none
  | _ => none

/-- The longest word at the front of a text that a parenthesized body follows. -/
def wordAndBody? : List Char → Option (List Char × List Char)
  | [] => none
  | c :: rest =>
      if isBlank c then none
      else
        match wordAndBody? rest with
        | some (word, body) => some (c :: word, body)
        | none => (parenthesized? rest).map fun body => ([c], body)

/-- The frame of a trimmed line. -/
def Frame.ofLine? (line : List Char) : Option Frame := do
  let (action, rest) ← word? line
  let (protocol, rest) ← word? rest
  let (sourceAddress, rest) ← word? rest
  let (sourcePort, rest) ← word? rest
  let (direction, rest) ← word? rest
  let (targetAddress, rest) ← word? rest
  let (targetPort, body) ← wordAndBody? rest
  return ⟨action, protocol, sourceAddress, sourcePort, direction, targetAddress, targetPort, body⟩

/-! ## Reading -/

/-- Why a line is not a rule. -/
inductive LineError where
  /-- The line is blank or a comment. -/
  | empty
  /-- The line has no frame. -/
  | noFrame
  /-- A header word is no keyword. -/
  | keyword (unknown : UnknownKeyword)
  deriving DecidableEq, Repr

/-- The wording of a line error. -/
def LineError.message : LineError → String
  | .empty => "Empty or commented rule."
  | .noFrame => "Could not parse rule structure."
  | .keyword unknown => unknown.message

/-- Look a header word up. -/
def headerKeyword (α : Type) [Vocabulary α] (word : List Char) : Except LineError α :=
  (Vocabulary.ofWord α (String.ofList word)).mapError .keyword

/-- The rule of a frame. -/
def Frame.rule (f : Frame) : Except LineError Rule := do
  let action ← headerKeyword Action f.action
  let protocol ← headerKeyword Protocol f.protocol
  let direction ← headerKeyword Direction f.direction
  let header : Rule :=
    { action, protocol, direction,
      sourceAddress := String.ofList f.sourceAddress
      sourcePort := String.ofList f.sourcePort
      targetAddress := String.ofList f.targetAddress
      targetPort := String.ofList f.targetPort }
  return header.applyAll (OptionList.clauses f.body)

/-- Whether a trimmed line holds no rule by intent. -/
def isEmptyOrComment (line : List Char) : Bool :=
  match line with
  | [] | '#' :: _ => true
  | _ => false

/-- The rule of a line given as characters. -/
def Rule.ofChars (chars : List Char) : Except LineError Rule :=
  let line := trim chars
  if isEmptyOrComment line then .error .empty
  else
    match Frame.ofLine? line with
    | none => .error .noFrame
    | some frame => frame.rule

/-- The rule of a line of text. -/
def Rule.parse (line : String) : Except LineError Rule :=
  Rule.ofChars line.toList

end RuleDesk
