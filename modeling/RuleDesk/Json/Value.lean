import RuleDesk.Decimal.Shortest

/-!
# JSON values

A value keeps its numbers by the class of their notation: a natural number of 64 bits, a negative
integer of 64 bits, or a real. A real is kept as its decimal significand and power of ten, so that
equality of values can be decided; its binary value is needed only to print it.

An object is a list of members. The reader leaves them sorted by name, each name once.
-/

set_option autoImplicit false

namespace RuleDesk.Json

/-- A number, classed by its notation. `negative n` is `-n`. -/
inductive Number where
  | natural (n : Nat)
  | negative (n : Nat)
  | real (minus : Bool) (significand : Nat) (exponent : Int)
  deriving DecidableEq, Repr

/-- A JSON value. -/
inductive Value where
  | null
  | bool (b : Bool)
  | number (n : Number)
  | string (s : String)
  | array (items : List Value)
  | object (members : List (String × Value))
  deriving Inhabited, Repr

/-- A natural number as a value. -/
def Value.nat (n : Nat) : Value :=
  .number (.natural n)

/-! ## Reals -/

/-- Divide by `10 ^ 308` while the exponent is below the least power in range. After `steps`
divisions every 64-bit significand has become zero. -/
def shrink (x : Float) (exponent : Int) : Nat → Float × Int
  | 0 => (x, exponent)
  | steps + 1 =>
      if exponent < -308 then shrink (x / 1e308) (exponent + 308) steps else (x, exponent)

/-- The float nearest to the significand, scaled by one power of ten; `none` where that overflows.
-/
def magnitude? (significand : Nat) (exponent : Int) : Option Float :=
  let (x, e) := shrink (Float.ofNat significand) exponent 4
  if x == 0.0 then some x
  else if 308 < e then none
  else if e < 0 then some (x / Float.ofScientific 1 false e.natAbs)
  else
    let y := x * Float.ofScientific 1 false e.toNat
    if y.isInf then none else some y

/-- The decimal text of a number. -/
def Number.text : Number → List Char
  | .natural n => Nat.toDigits 10 n
  | .negative n => '-' :: Nat.toDigits 10 n
  | .real minus significand exponent =>
      let x := (magnitude? significand exponent).getD 0.0
      Decimal.text (if minus then -x else x)

/-! ## Members -/

/-- Put a member at its place in a list sorted by name; a member of that name is replaced. -/
def insertMember (name : String) (value : Value) :
    List (String × Value) → List (String × Value)
  | [] => [(name, value)]
  | (other, old) :: rest =>
      if name = other then (name, value) :: rest
      else if name < other then (name, value) :: (other, old) :: rest
      else (other, old) :: insertMember name value rest

/-- The members sorted by name; of two members of one name the later stays. -/
def sortMembers (members : List (String × Value)) : List (String × Value) :=
  members.foldl (fun sorted (name, value) => insertMember name value sorted) []

/-- The value of a member of an object. -/
def Value.member? (name : String) : Value → Option Value
  | .object members => (members.find? (fun (key, _) => key == name)).map (·.2)
  | _ => none

end RuleDesk.Json
