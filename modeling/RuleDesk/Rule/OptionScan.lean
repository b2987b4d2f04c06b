import RuleDesk.Rule.OptionList

/-!
# Options gathered in one pass

An option list can be read character by character, keeping the options that are complete, the text
gathered since the last cut and the side of the quotes on which the reading stands. Whether a
backslash stands right before a quote is then asked of the gathered text, which is empty behind
every cut, and not of the body.
-/

set_option autoImplicit false

namespace RuleDesk

/-- Where a pass over an option list stands. -/
structure OptionScan where
  options : List (List Char) := []
  current : List Char := []
  inside : Bool := false
  deriving DecidableEq, Repr

namespace OptionScan

/-- Read one character. -/
def step (s : OptionScan) (c : Char) : OptionScan :=
  if OptionList.togglesQuote s.current.getLast? c then
    { s with current := s.current ++ [c], inside := !s.inside }
  else if c == ';' && !s.inside then
    { s with options := s.options ++ [s.current], current := [] }
  else { s with current := s.current ++ [c] }

/-- The options at the end of a pass: what was gathered last is one of them, unless it is empty. -/
def finish (s : OptionScan) : List (List Char) :=
  if s.current.isEmpty then s.options else s.options ++ [s.current]

end OptionScan

/-- The options of a body, gathered in one pass. -/
def OptionList.scanned (body : List Char) : List (List Char) :=
  (body.foldl OptionScan.step {}).finish

end RuleDesk
