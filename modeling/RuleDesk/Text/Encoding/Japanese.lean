import RuleDesk.Text.Encoding.JisGrid
import RuleDesk.Text.Encoding.PairCode

/-!
# Japanese encodings

Three encodings of the same characters: Shift_JIS folds two rows of JIS X 0208 into one leading
octet, EUC-JP sets the high bits of row and place, and ISO-2022-JP switches between character sets
with escape sequences.
-/

set_option autoImplicit false

namespace RuleDesk.Text.Encoding

/-- The character at a place of JIS X 0208, counted through all rows. -/
def jisPoint? (n : Nat) : Option Char :=
  jisX0208.at? (n / 94) (n % 94)

/-- A halfwidth kana, counted from the first one. -/
def halfwidthKana (n : Nat) : Char :=
  Char.ofNat (0xFF61 + n)

/-! ## Shift_JIS -/

/-- The place that a pair of Shift_JIS names, counted through all rows. -/
def shiftJisPlace? (a b : UInt8) : Option Nat := do
  let place ← if b ≤ 0xFC then placeIn 0x40 0x7F 0x80 b else none
  return (a.toNat - (if a < 0xA0 then 0x81 else 0xC1)) * 188 + place

/-- Shift_JIS. The places from 8836 to 10715 are for private use. -/
def shiftJis : PairCode where
  single b :=
    if b ≤ 0x80 then some (plain b)
    else if within 0xA1 0xDF b then some (halfwidthKana (b.toNat - 0xA1))
    else none
  isLead b := within 0x81 0x9F b || within 0xE0 0xFC b
  pair a b := do
    let n ← shiftJisPlace? a b
    let c ← if 8836 ≤ n ∧ n ≤ 10715 then some (Char.ofNat (0xE000 - 8836 + n)) else jisPoint? n
    return [c]

/-! ## EUC-JP -/

/-- What is read of a character in EUC-JP. -/
inductive EucState where
  | start
  | lead (a : UInt8)
  /-- The first octet of a pair of JIS X 0212, behind the octet that announces it. -/
  | supplement (a : UInt8)
  deriving DecidableEq, Repr

/-- An octet that gives a row or a place in EUC-JP. -/
def isEucPlace (b : UInt8) : Bool :=
  within 0xA1 0xFE b

/-- The character that two octets name in a grid of 94 places a row. -/
def eucPair? (grid : Grid) (a b : UInt8) : Option Char :=
  if isEucPlace a && isEucPlace b then grid.at? (a.toNat - 0xA1) (b.toNat - 0xA1) else none

/-- EUC-JP. The octet 0x8E announces a halfwidth kana, and 0x8F a pair of JIS X 0212. -/
def eucJp : Decoder EucState where
  start := .start
  step
    | .start, b =>
        if isAscii b then ([plain b], .start)
        else if b == 0x8E || b == 0x8F || isEucPlace b then ([], .lead b)
        else ([unreadable], .start)
    | .lead a, b =>
        if a == 0x8E && within 0xA1 0xDF b then ([halfwidthKana (b.toNat - 0xA1)], .start)
        else if a == 0x8F && isEucPlace b then ([], .supplement b)
        else (((eucPair? jisX0208 a b).map ([·])).getD (mismatched b), .start)
    | .supplement a, b => (((eucPair? jisX0212 a b).map ([·])).getD (mismatched b), .start)
  finish
    | .start => []
    | _ => [unreadable]

/-! ## ISO-2022-JP -/

/-- The character sets that an escape sequence may name. -/
inductive JisSet where
  | ascii
  | roman
  | katakana
  | kanji
  deriving DecidableEq, Repr

/-- What is read of a character or an escape sequence. -/
inductive JisPhase where
  | between
  | lead (a : UInt8)
  | escape
  | announced (a : UInt8)
  deriving DecidableEq, Repr

/-- The state of a reader of ISO-2022-JP. `idle` says that nothing was read since the last escape
sequence; a second one in a row spells no character. -/
structure JisState where
  set : JisSet
  phase : JisPhase
  idle : Bool
  deriving DecidableEq, Repr

/-- An octet that stands for itself in the sets of single octets. -/
def isJisPlain (b : UInt8) : Bool :=
  isAscii b && b != 0x0E && b != 0x0F

/-- The character of one octet in a set of single octets. -/
def JisSet.single? : JisSet → UInt8 → Option Char
  | .ascii, b => if isJisPlain b then some (plain b) else none
  | .roman, b =>
      if b == 0x5C then some '¥'
      else if b == 0x7E then some '‾'
      else if isJisPlain b then some (plain b)
      else none
  | .katakana, b =>
      if within 0x21 0x5F b then some (halfwidthKana (b.toNat - 0x21)) else none
  | .kanji, _ => none

/-- The set that the two octets behind an escape name. -/
def JisSet.named? (a b : UInt8) : Option JisSet :=
  if a == 0x28 && b == 0x42 then some .ascii
  else if a == 0x28 && b == 0x4A then some .roman
  else if a == 0x28 && b == 0x49 then some .katakana
  else if a == 0x24 && (b == 0x40 || b == 0x42) then some .kanji
  else none

/-- Read an octet that does not lie in an escape sequence. -/
def JisState.take (s : JisState) (b : UInt8) : List Char × JisState :=
  match s.phase with
  | .lead a =>
      if b == 0x1B then ([unreadable], { s with phase := .escape })
      else
        let shown :=
          if within 0x21 0x7E b then
            (jisX0208.at? (a.toNat - 0x21) (b.toNat - 0x21)).getD unreadable
          else unreadable
        ([shown], { s with phase := .between })
  | _ =>
      if b == 0x1B then ([], { s with phase := .escape })
      else if s.set == .kanji && within 0x21 0x7E b then
        ([], { s with phase := .lead b, idle := false })
      else ([(s.set.single? b).getD unreadable], { s with phase := .between, idle := false })

/-- What an escape sequence that names no set leads to: the escape is unreadable, and the octets
behind it are read as text. -/
def JisState.resume (s : JisState) (octets : List UInt8) : List Char × JisState :=
  octets.foldl
    (fun (shown, s) b =>
      let (more, s) := s.take b
      (shown ++ more, s))
    ([unreadable], { s with phase := .between, idle := false })

/-- ISO-2022-JP. -/
def iso2022Jp : Decoder JisState where
  start := ⟨.ascii, .between, false⟩
  step s b :=
    match s.phase with
    | .escape =>
        if b == 0x24 || b == 0x28 then ([], { s with phase := .announced b }) else s.resume [b]
    | .announced a =>
        match JisSet.named? a b with
        | some set => (if s.idle then [unreadable] else [], ⟨set, .between, true⟩)
        | none => s.resume [a, b]
    | _ => s.take b
  finish s :=
    match s.phase with
    | .between => []
    | .lead _ | .escape => [unreadable]
    | .announced a =>
        let (shown, s) := s.resume [a]
        if s.phase = .between then shown else shown ++ [unreadable]

end RuleDesk.Text.Encoding
