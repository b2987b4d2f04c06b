import RuleDesk.Json.Printer
import RuleDesk.Keyword
import RuleDesk.Text.Quoted

/-!
# Values that do not fit

Why a JSON value cannot be taken for what a schema asks, and the wording of each reason.
-/

set_option autoImplicit false

namespace RuleDesk.Json

open RuleDesk.Text

/-- How a message names a value: scalars by kind and text, containers by kind alone. -/
def Value.described : Value → String
  | .null => "null"
  | .bool true => "boolean `true`"
  | .bool false => "boolean `false`"
  | .number (.real minus significand exponent) =>
      "floating point `" ++ String.ofList (Number.real minus significand exponent).text ++ "`"
  | .number n => "integer `" ++ String.ofList n.text ++ "`"
  | .string s => "string " ++ quoted s
  | .array _ => "sequence"
  | .object _ => "map"

/-- Why a value does not fit. -/
inductive Mismatch where
  /-- The value is of another kind. -/
  | kind (found : Value) (expected : String)
  /-- The kind is right and the value is not. -/
  | value (found : Value) (expected : String)
  /-- A name that is none of the choices. -/
  | variant (name : String) (choices : List String)
  /-- More items than fields. -/
  | surplus (items : Nat)
  /-- A field that must be there is not. -/
  | missing (field : String)
  /-- A word that a vocabulary does not have. -/
  | keyword (unknown : UnknownKeyword)
  deriving Repr

/-- The choices of a message, each between backticks. -/
def choiceList (choices : List String) : String :=
  match choices with
  | [] => "there are no variants"
  | [only] => s!"expected `{only}`"
  | [one, other] => s!"expected `{one}` or `{other}`"
  | many => "expected one of " ++ ", ".intercalate (many.map fun c => s!"`{c}`")

/-- The wording of a mismatch. -/
def Mismatch.message : Mismatch → String
  | .kind found expected => s!"invalid type: {found.described}, expected {expected}"
  | .value found expected => s!"invalid value: {found.described}, expected {expected}"
  | .variant name choices => s!"unknown variant `{name}`, {choiceList choices}"
  | .surplus items => s!"invalid length {items}, expected fewer elements in array"
  | .missing field => s!"missing field `{field}`"
  | .keyword unknown => unknown.message

end RuleDesk.Json
