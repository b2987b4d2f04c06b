import RuleDesk.Rule.Flow

/-!
# Flow sets in one octet

A flow set has room in one octet: each option owns a bit, and it is in the set if its bit is set. An
option is put in by disjunction with its bit and taken out by conjunction with the complement of its
bit. The bits that no option owns stay clear, so that two masks with the same options are the same.
-/

set_option autoImplicit false

namespace RuleDesk

open RuleDesk.Text

/-! ## Changes -/

/-- A change of a set: an option is put in, or it is put in or taken out as asked. -/
inductive FlowChange where
  | insert (option : FlowOption)
  | set (option : FlowOption) (enabled : Bool)
  deriving DecidableEq, Repr

namespace FlowChange

/-- The option that is put in or taken out. -/
def option : FlowChange → FlowOption
  | insert option => option
  | set option _ => option

/-- Whether the option is put in. -/
def enabled : FlowChange → Bool
  | insert _ => true
  | set _ enabled => enabled

end FlowChange

namespace FlowSet

/-- Make a change. -/
def change (s : FlowSet) : FlowChange → FlowSet
  | .insert option => s.insert option
  | .set option enabled => s.set option enabled

/-- Make changes, one after the other. -/
def changed (s : FlowSet) (changes : List FlowChange) : FlowSet :=
  changes.foldl change s

end FlowSet

/-! ## Masks -/

namespace FlowOption

/-- The bit of an option: the one at its place among the options. -/
def bit (o : FlowOption) : UInt8 :=
  1 <<< UInt8.ofNat o.ctorIdx

theorem bit_lt (o : FlowOption) : o.bit < 64 := by
  cases o <;> decide

end FlowOption

/-- A set of flow options as the octet of their bits. -/
structure FlowMask where
  bits : UInt8 := 0
  bits_lt : bits < 64 := by decide
  deriving DecidableEq, Repr

namespace FlowMask

theorem or_lt {a b : UInt8} (ha : a < 64) (hb : b < 64) : a ||| b < 64 := by
  rw [UInt8.lt_iff_toNat_lt] at ha hb ⊢
  rw [UInt8.toNat_or]
  exact Nat.or_lt_two_pow (n := 6) ha hb

theorem and_lt {a : UInt8} (ha : a < 64) (b : UInt8) : a &&& b < 64 := by
  rw [UInt8.lt_iff_toNat_lt] at ha ⊢
  rw [UInt8.toNat_and]
  exact Nat.lt_of_le_of_lt Nat.and_le_left ha

/-- Whether the bit of an option is set. -/
def contains (m : FlowMask) (option : FlowOption) : Bool :=
  m.bits &&& option.bit != 0

/-- Set the bit of an option. -/
def insert (m : FlowMask) (option : FlowOption) : FlowMask :=
  ⟨m.bits ||| option.bit, or_lt m.bits_lt option.bit_lt⟩

/-- Set the bit of an option or clear it. -/
def set (m : FlowMask) (option : FlowOption) (enabled : Bool) : FlowMask :=
  if enabled then m.insert option
  else ⟨m.bits &&& ~~~option.bit, and_lt m.bits_lt _⟩

/-- The options of two masks together. -/
def union (m n : FlowMask) : FlowMask :=
  ⟨m.bits ||| n.bits, or_lt m.bits_lt n.bits_lt⟩

/-- Whether no bit is set. -/
def isEmpty (m : FlowMask) : Bool :=
  m.bits == 0

/-- The options whose bits are set, in canonical order. -/
def toList (m : FlowMask) : List FlowOption :=
  (Vocabulary.all : List FlowOption).filter m.contains

/-- The mask of the options of a list. -/
def ofList (options : List FlowOption) : FlowMask :=
  options.foldl insert {}

/-- The options that a text names between commas, blanks around a name apart. -/
def ofText (raw : String) : FlowMask :=
  ofList ((pieces ',' raw.toList).filterMap fun piece =>
    Vocabulary.ofWord? (String.ofList (trim piece)))

/-- The options in canonical order, with commas between them. -/
def text (m : FlowMask) : String :=
  String.ofList (joined [','] (m.toList.map fun o => (Vocabulary.spelling o).toList))

/-- Make a change. -/
def change (m : FlowMask) : FlowChange → FlowMask
  | .insert option => m.insert option
  | .set option enabled => m.set option enabled

/-- Make changes, one after the other. -/
def changed (m : FlowMask) (changes : List FlowChange) : FlowMask :=
  changes.foldl change m

end FlowMask

end RuleDesk
