/-!
# The fewest digits that read back

A binary fraction is a significand times a power of two. The decimals that round to it fill an
interval around it; among the decimal grids of one digit, two digits and so on, the first grid with
a point in that interval gives the fewest digits, and of two such points the nearer one is taken.
All comparisons are between natural numbers.
-/

set_option autoImplicit false

namespace RuleDesk.Decimal

/-- A positive binary fraction `significand * 2 ^ exponent`, with whether the gap to the next
smaller one is only half the gap to the next larger one. -/
structure Binary where
  significand : Nat
  exponent : Int
  narrowBelow : Bool
  deriving Repr

/-- The decimal `digits * 10 ^ exponent`. -/
structure Scientific where
  digits : Nat
  exponent : Int
  deriving DecidableEq, Repr

/-- The interval that rounds to a binary fraction: `low`, `value` and `high` over `unit`. The ends
belong to it exactly when `closed`. -/
structure Interval where
  low : Nat
  value : Nat
  high : Nat
  unit : Nat
  closed : Bool
  deriving Repr

/-- The interval of decimals that round to a binary fraction. -/
def Binary.interval (b : Binary) : Interval :=
  let up := Nat.pow 2 (b.exponent - 2).toNat
  { low := (4 * b.significand - (if b.narrowBelow then 1 else 2)) * up
    value := 4 * b.significand * up
    high := (4 * b.significand + 2) * up
    unit := Nat.pow 2 (2 - b.exponent).toNat
    closed := b.significand % 2 == 0 }

/-- The interval in units of `10 ^ exponent`. -/
def Interval.scale (i : Interval) (exponent : Int) : Interval :=
  let up := Nat.pow 10 (-exponent).toNat
  { i with low := i.low * up, value := i.value * up, high := i.high * up,
           unit := i.unit * Nat.pow 10 exponent.toNat }

/-- Whether the whole number `n` lies in the interval. -/
def Interval.holds (i : Interval) (n : Nat) : Bool :=
  if i.closed then i.low ≤ n * i.unit && n * i.unit ≤ i.high
  else i.low < n * i.unit && n * i.unit < i.high

/-- The nearest whole number of the interval to its value, if the interval has one. -/
def Interval.nearest? (i : Interval) : Option Nat :=
  let below := i.value / i.unit
  let above := below + 1
  match i.holds below, i.holds above with
  | true, true =>
      let down := i.value - below * i.unit
      let up := above * i.unit - i.value
      some (if down < up || (down == up && below % 2 == 0) then below else above)
  | true, false => some below
  | false, true => some above
  | false, false => none

/-- The exponent `p` with `10 ^ (p - 1) ≤ value / unit < 10 ^ p`. -/
def Interval.magnitude (i : Interval) : Int :=
  let guess : Int := ((Nat.toDigits 10 i.value).length : Int) - (Nat.toDigits 10 i.unit).length
  if i.unit * Nat.pow 10 guess.toNat ≤ i.value * Nat.pow 10 (-guess).toNat then guess + 1 else guess

/-- Try the grids of `count`, `count + 1`, … digits. -/
def Interval.search (i : Interval) (magnitude : Int) (count : Nat) : Nat → Option Scientific
  | 0 => none
  | tries + 1 =>
      let exponent := magnitude - count
      match (i.scale exponent).nearest? with
      | some digits => some ⟨digits, exponent⟩
      | none => i.search magnitude (count + 1) tries

/-- The shortest decimal that rounds to the fraction; seventeen digits always suffice. -/
def Binary.shortest (b : Binary) : Scientific :=
  let i := b.interval
  (i.search i.magnitude 1 17).getD ⟨0, 0⟩

/-- Write a decimal: with a point and at least one digit on each side of it where its magnitude
lies between `10 ^ (-5)` and `10 ^ 16`, and with a signed power of ten elsewhere. -/
def Scientific.text (s : Scientific) : List Char :=
  let digits := (Nat.toDigits 10 s.digits).reverse.dropWhile (· == '0') |>.reverse
  let point : Int := (Nat.toDigits 10 s.digits).length + s.exponent
  let zeros (n : Int) : List Char := List.replicate n.toNat '0'
  if 16 < point || point ≤ -5 then
    let fraction :=
      match digits with
      | first :: [] => [first]
      | first :: rest => first :: '.' :: rest
      | [] => ['0']
    let power := point - 1
    fraction ++ 'e' :: (if power < 0 then '-' else '+') :: Nat.toDigits 10 power.natAbs
  else if point ≤ 0 then '0' :: '.' :: zeros (-point) ++ digits
  else if digits.length ≤ point.toNat then digits ++ zeros (point - digits.length) ++ ['.', '0']
  else digits.take point.toNat ++ '.' :: digits.drop point.toNat

/-- Split a finite float into sign and magnitude; zero has no magnitude. -/
def split (x : Float) : Bool × Option Binary :=
  let bits : Nat := x.toBits.toNat
  let negative := Nat.pow 2 63 ≤ bits
  let biased : Nat := bits / Nat.pow 2 52 % Nat.pow 2 11
  let fraction : Nat := bits % Nat.pow 2 52
  let magnitude :=
    if biased = 0 then
      if fraction = 0 then none else some ⟨fraction, -1074, false⟩
    else some ⟨fraction + Nat.pow 2 52, (biased : Int) - 1075, fraction == 0 && biased != 1⟩
  (negative, magnitude)

/-- The shortest text of a finite float that reads back as it. -/
def text (x : Float) : List Char :=
  let (negative, magnitude) := split x
  let body :=
    match magnitude with
    | some b => b.shortest.text
    | none => ['0', '.', '0']
  if negative then '-' :: body else body

end RuleDesk.Decimal
