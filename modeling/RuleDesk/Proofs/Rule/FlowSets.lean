import Mathlib.Data.Nat.Bitwise
import RuleDesk.Proofs.Rule.Keywords
import RuleDesk.Rule.FlowMask

/-!
# Flow sets after changes

A flow set is read from a text and then changed any number of times. An option is in it exactly if
the last change of the option has put it in, or if no change was about it and the text names it
(`last_change_decides`). A set and a mask that start alike and are changed alike have the same
options, whatever their bits are; and since no other bits are ever set, the options determine the
mask.
-/

set_option autoImplicit false

namespace RuleDesk

open RuleDesk.Text

/-! ## Histories -/

/-- The last change of an option puts it in. -/
def LastEnables (changes : List FlowChange) (o : FlowOption) : Prop :=
  ∃ before change after, changes = before ++ change :: after ∧
    change.option = o ∧ change.enabled = true ∧ ∀ later ∈ after, later.option ≠ o

/-- No change is about an option. -/
def Untouched (changes : List FlowChange) (o : FlowOption) : Prop :=
  ∀ change ∈ changes, change.option ≠ o

/-- The first change is the last one of its option if no later change is about that. -/
theorem lastEnables_cons (change : FlowChange) (rest : List FlowChange) (o : FlowOption) :
    LastEnables (change :: rest) o ↔
      LastEnables rest o ∨ (change.option = o ∧ change.enabled = true ∧ Untouched rest o) := by
  constructor
  · rintro ⟨before, last, after, hsplit, hoption, henabled, hafter⟩
    cases before with
    | nil =>
        obtain ⟨rfl, rfl⟩ := List.cons.inj hsplit
        exact .inr ⟨hoption, henabled, hafter⟩
    | cons first before =>
        obtain ⟨-, rfl⟩ := List.cons.inj hsplit
        exact .inl ⟨before, last, after, rfl, hoption, henabled, hafter⟩
  · rintro (⟨before, last, after, rfl, hlast⟩ | ⟨hoption, henabled, hafter⟩)
    · exact ⟨change :: before, last, after, rfl, hlast⟩
    · exact ⟨[], change, rest, rfl, hoption, henabled, hafter⟩

theorem untouched_cons (change : FlowChange) (rest : List FlowChange) (o : FlowOption) :
    Untouched (change :: rest) o ↔ change.option ≠ o ∧ Untouched rest o :=
  List.forall_mem_cons

/-! ## Options named in a text -/

/-- A text names an option: the spelling of the option stands between two commas or ends of the
text, with nothing but blank characters around it. -/
def Names (raw : String) (o : FlowOption) : Prop :=
  ∃ piece, IsPieceOf ',' raw.toList piece ∧ IsStripOf isBlank piece (spelled o)

theorem names_iff {raw : String} {o : FlowOption} :
    Names raw o ↔ ∃ piece ∈ pieces ',' raw.toList, trim piece = spelled o := by
  simp only [Names, mem_pieces_iff, isStripOf_iff, trim, eq_comm]

theorem names_append (a b : String) (o : FlowOption) :
    Names (a ++ "," ++ b) o ↔ Names a o ∨ Names b o := by
  have hlist : (a ++ "," ++ b).toList = a.toList ++ ',' :: b.toList := by
    rw [String.toList_append, String.toList_append, List.append_assoc]
    rfl
  simp only [names_iff, hlist, pieces_append_cons, List.mem_append, or_and_right, exists_or]

theorem ofWord?_trim_iff {piece : List Char} {o : FlowOption} :
    Vocabulary.ofWord? (String.ofList (trim piece)) = some o ↔ trim piece = spelled o := by
  constructor
  · exact eq_spelled_of_ofWord?
  · intro h
    rw [h, ofWord?_spelled]

/-! ## Sets -/

namespace FlowSet

theorem eq_of_contains {s t : FlowSet} (h : ∀ o, s.contains o = t.contains o) : s = t := by
  rw [← ofList_toList s, ← ofList_toList t, toList, toList, funext h]

theorem contains_ofList {options : List FlowOption} {o : FlowOption} :
    (ofList options).contains o = true ↔ o ∈ options := by
  have hfold : ∀ (options : List FlowOption) (s : FlowSet),
      (options.foldl insert s).contains o = true ↔ o ∈ options ∨ s.contains o = true := by
    intro options
    induction options with
    | nil => simp
    | cons first rest ih =>
        intro s
        rw [List.foldl_cons, ih, contains_insert, List.mem_cons, Bool.or_eq_true,
          decide_eq_true_eq, ← or_assoc, or_comm (a := o ∈ rest)]
  have hempty : contains {} o = false := by
    cases o <;> rfl
  rw [ofList, hfold, hempty]
  simp

theorem contains_ofText_iff {raw : String} {o : FlowOption} :
    (ofText raw).contains o = true ↔ Names raw o := by
  rw [ofText, contains_ofList, List.mem_filterMap, names_iff]
  simp only [ofWord?_trim_iff]

/-- Of two texts with a comma between them the options are those of both. -/
theorem contains_ofText_append (a b : String) (o : FlowOption) :
    (ofText (a ++ "," ++ b)).contains o = ((ofText a).contains o || (ofText b).contains o) := by
  rw [Bool.eq_iff_iff, Bool.or_eq_true, contains_ofText_iff, contains_ofText_iff,
    contains_ofText_iff, names_append]

/-- Nothing counts in a text but which options it names. -/
theorem ofText_eq_iff (a b : String) : ofText a = ofText b ↔ ∀ o, Names a o ↔ Names b o := by
  simp only [← contains_ofText_iff]
  constructor
  · intro h o
    rw [h]
  · intro h
    exact eq_of_contains fun o => Bool.eq_iff_iff.mpr (h o)

/-- A change decides about its own option and leaves all others. -/
theorem contains_change (s : FlowSet) (c : FlowChange) (o : FlowOption) :
    (s.change c).contains o = if c.option = o then c.enabled else s.contains o := by
  cases c with
  | insert option =>
      simp only [change, insert, contains_set, FlowChange.option, FlowChange.enabled, eq_comm]
  | set option enabled =>
      simp only [change, contains_set, FlowChange.option, FlowChange.enabled, eq_comm]

theorem contains_changed (s : FlowSet) (changes : List FlowChange) (o : FlowOption) :
    (s.changed changes).contains o = true ↔
      LastEnables changes o ∨ (Untouched changes o ∧ s.contains o = true) := by
  induction changes generalizing s with
  | nil => simp [changed, LastEnables, Untouched]
  | cons c rest ih =>
      show ((s.change c).changed rest).contains o = true ↔ _
      rw [ih, contains_change, lastEnables_cons, untouched_cons]
      by_cases hoption : c.option = o
      · simp [hoption, and_comm, or_comm]
      · simp [hoption]

/-- The canonical text lists the options in their order, with commas between them. -/
theorem text_eq_intercalate (s : FlowSet) :
    s.text = ",".intercalate (s.toList.map Vocabulary.spelling) := by
  rw [← String.toList_inj, String.toList_intercalate, text, String.toList_ofList, chars,
    joined_eq_intercalate, List.map_map]
  rfl

theorem spellings_toList_sublist (s : FlowSet) :
    (s.toList.map Vocabulary.spelling).Sublist (Vocabulary.words FlowOption) := by
  have hsublist : s.toList.Sublist (Vocabulary.all : List FlowOption) := List.filter_sublist
  exact hsublist.map Vocabulary.spelling

end FlowSet

/-! ## Masks -/

namespace FlowOption

/-- Each option is found at its place. -/
theorem getElem?_ctorIdx (o : FlowOption) :
    (Vocabulary.all : List FlowOption)[o.ctorIdx]? = some o := by
  cases o <;> rfl

theorem ctorIdx_inj {o other : FlowOption} (h : o.ctorIdx = other.ctorIdx) : o = other := by
  have hplace := o.getElem?_ctorIdx
  rw [h, other.getElem?_ctorIdx] at hplace
  exact (Option.some.inj hplace).symm

theorem exists_ctorIdx {i : Nat} (h : i < 6) : ∃ o : FlowOption, o.ctorIdx = i := by
  obtain rfl | rfl | rfl | rfl | rfl | rfl : i = 0 ∨ i = 1 ∨ i = 2 ∨ i = 3 ∨ i = 4 ∨ i = 5 := by
    omega
  exacts [⟨.established, rfl⟩, ⟨.stateless, rfl⟩, ⟨.toServer, rfl⟩, ⟨.toClient, rfl⟩,
    ⟨.fromServer, rfl⟩, ⟨.fromClient, rfl⟩]

theorem toNat_bit (o : FlowOption) : o.bit.toNat = 2 ^ o.ctorIdx := by
  cases o <;> rfl

theorem testBit_bit (o other : FlowOption) :
    o.bit.toNat.testBit other.ctorIdx = decide (o = other) := by
  rw [toNat_bit, Nat.testBit_two_pow, decide_eq_decide]
  exact ⟨ctorIdx_inj, congrArg _⟩

end FlowOption

namespace FlowMask

variable {m n : FlowMask} {s : FlowSet}

/-- An option is in the set if the bit at its place is set. -/
theorem contains_eq_testBit (m : FlowMask) (o : FlowOption) :
    m.contains o = m.bits.toNat.testBit o.ctorIdx := by
  have hpos : 0 < 2 ^ o.ctorIdx := Nat.two_pow_pos _
  rw [contains, Bool.eq_iff_iff, bne_iff_ne, ne_eq, ← UInt8.toNat_inj, UInt8.toNat_and,
    o.toNat_bit, Nat.and_two_pow]
  cases m.bits.toNat.testBit o.ctorIdx with
  | true => simp
  | false => simp

/-- The options determine the mask, since no bit is set but theirs. -/
theorem eq_of_contains (h : ∀ o, m.contains o = n.contains o) : m = n := by
  have hbits : m.bits.toNat = n.bits.toNat := by
    apply Nat.eq_of_testBit_eq
    intro i
    by_cases hi : i < 6
    · obtain ⟨o, rfl⟩ := FlowOption.exists_ctorIdx hi
      rw [← contains_eq_testBit, ← contains_eq_testBit, h o]
    · have hclear : ∀ k : FlowMask, k.bits.toNat.testBit i = false := by
        intro k
        have hlt : k.bits.toNat < 2 ^ 6 := UInt8.lt_iff_toNat_lt.mp k.bits_lt
        exact Nat.testBit_lt_two_pow
          (Nat.lt_of_lt_of_le hlt (Nat.pow_le_pow_right (by omega) (Nat.le_of_not_lt hi)))
      rw [hclear m, hclear n]
  cases m
  cases n
  cases UInt8.toNat_inj.mp hbits
  rfl

theorem contains_union (m n : FlowMask) (o : FlowOption) :
    (m.union n).contains o = (m.contains o || n.contains o) := by
  simp only [contains_eq_testBit, union, UInt8.toNat_or, Nat.testBit_or]

theorem contains_insert (m : FlowMask) (o other : FlowOption) :
    (m.insert o).contains other = (decide (o = other) || m.contains other) := by
  simp only [contains_eq_testBit, insert, UInt8.toNat_or, Nat.testBit_or, o.testBit_bit,
    Bool.or_comm]

theorem testBit_not (a : UInt8) (o : FlowOption) :
    (~~~a).toNat.testBit o.ctorIdx = !a.toNat.testBit o.ctorIdx := by
  have hplace : o.ctorIdx < 8 := by
    cases o <;> decide
  show (~~~a).toBitVec.getLsbD o.ctorIdx = !a.toBitVec.getLsbD o.ctorIdx
  rw [UInt8.toBitVec_not, BitVec.getLsbD_not, decide_eq_true hplace, Bool.true_and]

theorem contains_set (m : FlowMask) (o other : FlowOption) (enabled : Bool) :
    (m.set o enabled).contains other = if o = other then enabled else m.contains other := by
  cases enabled with
  | true =>
      show (m.insert o).contains other = _
      rw [contains_insert]
      by_cases h : o = other <;> simp [h]
  | false =>
      show FlowMask.contains ⟨m.bits &&& ~~~o.bit, _⟩ other = _
      rw [contains_eq_testBit, UInt8.toNat_and, Nat.testBit_and, testBit_not, o.testBit_bit,
        ← contains_eq_testBit]
      by_cases h : o = other <;> simp [h]

/-! ## Masks and sets -/

/-- A mask and a set have the same options. -/
def Agrees (m : FlowMask) (s : FlowSet) : Prop :=
  ∀ o, m.contains o = s.contains o

theorem agrees_empty : Agrees {} {} := by
  intro o
  cases o <;> rfl

theorem contains_change (m : FlowMask) (c : FlowChange) (o : FlowOption) :
    (m.change c).contains o = if c.option = o then c.enabled else m.contains o := by
  cases c with
  | insert option =>
      have hset : m.insert option = m.set option true := rfl
      rw [change, hset, contains_set]
      rfl
  | set option enabled => exact m.contains_set option o enabled

theorem Agrees.change (h : m.Agrees s) (c : FlowChange) : (m.change c).Agrees (s.change c) := by
  intro o
  rw [contains_change, s.contains_change, h o]

/-- A mask and a set stay alike as long as they are changed alike. -/
theorem Agrees.changed (h : m.Agrees s) (changes : List FlowChange) :
    (m.changed changes).Agrees (s.changed changes) := by
  induction changes generalizing m s with
  | nil => exact h
  | cons c rest ih => exact ih (h.change c)

theorem agrees_ofText (raw : String) : (ofText raw).Agrees (FlowSet.ofText raw) := by
  -- a list of options is put in by as many changes
  have hmask : ∀ options, ofList options = changed {} (options.map .insert) := by
    intro options
    rw [changed, List.foldl_map]
    rfl
  have hset : ∀ options, FlowSet.ofList options = FlowSet.changed {} (options.map .insert) := by
    intro options
    rw [FlowSet.changed, List.foldl_map]
    rfl
  rw [ofText, FlowSet.ofText, hmask, hset]
  exact agrees_empty.changed _

theorem Agrees.toList_eq (h : m.Agrees s) : m.toList = s.toList := by
  rw [toList, FlowSet.toList, funext h]

theorem Agrees.text_eq (h : m.Agrees s) : m.text = s.text := by
  rw [text, h.toList_eq]
  rfl

theorem Agrees.isEmpty_eq (h : m.Agrees s) : m.isEmpty = s.isEmpty := by
  have hclear : ∀ o, contains {} o = false := by
    intro o
    cases o <;> rfl
  have hiff : m.isEmpty = true ↔ ∀ o, m.contains o = false := by
    rw [isEmpty, beq_iff_eq]
    constructor
    · intro hbits o
      rw [contains, hbits, ← hclear o]
      rfl
    · intro hnone
      have hm : m = {} := eq_of_contains fun o => (hnone o).trans (hclear o).symm
      rw [hm]
  rw [Bool.eq_iff_iff, hiff, FlowSet.isEmpty, ← h.toList_eq, List.isEmpty_iff, toList,
    List.filter_eq_nil_iff]
  simp [FlowSet.mem_all]

theorem Agrees.ofText_text (h : m.Agrees s) : ofText m.text = m := by
  apply eq_of_contains
  intro o
  rw [agrees_ofText, h.text_eq, FlowSet.ofText_text, h o]

theorem ofText_append (a b : String) : ofText (a ++ "," ++ b) = (ofText a).union (ofText b) := by
  apply eq_of_contains
  intro o
  rw [contains_union, agrees_ofText, agrees_ofText, agrees_ofText, FlowSet.contains_ofText_append]

end FlowMask

/-! ## Sets after changes -/

namespace FlowSet

/-- A flow set is the set of its options. After any changes to the set that a text names, an option
is in it exactly if the last change of the option put it in, or if no change was about it and the
text names it between commas. A change is about one option and leaves the others. The canonical text
lists the options of the set, each once and in the fixed order, and it is read back as the set. Of
two texts with a comma between them the options are those of both; so nothing counts in a text but
which options it names, and not their order, how often they are named, or what else stands there.

In one octet, a bit for each option, the set has the same options and the same text. -/
theorem last_change_decides (raw : String) (changes : List FlowChange) :
    let s := (ofText raw).changed changes
    let m := (FlowMask.ofText raw).changed changes
    (∀ o, s.contains o = true ↔ LastEnables changes o ∨ (Untouched changes o ∧ Names raw o)) ∧
    (∀ c o, (s.change c).contains o = if c.option = o then c.enabled else s.contains o) ∧
    (∃ members : List FlowOption,
      s.text = ",".intercalate (members.map Vocabulary.spelling) ∧
      (members.map Vocabulary.spelling).Sublist
        ["established", "stateless", "to_server", "to_client", "from_server", "from_client"] ∧
      ∀ o, o ∈ members ↔ s.contains o = true) ∧
    ofText s.text = s ∧
    (∀ a b o, (ofText (a ++ "," ++ b)).contains o =
      ((ofText a).contains o || (ofText b).contains o)) ∧
    (∀ a b, ofText a = ofText b ↔ ∀ o, Names a o ↔ Names b o) ∧
    m.Agrees s ∧ m.text = s.text ∧ m.isEmpty = s.isEmpty ∧ FlowMask.ofText m.text = m ∧
    ∀ a b, FlowMask.ofText (a ++ "," ++ b) = (FlowMask.ofText a).union (FlowMask.ofText b) := by
  intro s m
  have hagrees : m.Agrees s := (FlowMask.agrees_ofText raw).changed changes
  refine ⟨?_, s.contains_change, ?_, ofText_text s, contains_ofText_append, ofText_eq_iff, hagrees,
    hagrees.text_eq, hagrees.isEmpty_eq, hagrees.ofText_text, FlowMask.ofText_append⟩
  · intro o
    rw [contains_changed, contains_ofText_iff]
  · exact ⟨s.toList, s.text_eq_intercalate, s.spellings_toList_sublist, s.mem_toList⟩

example :
    ((ofText "to_server, established ,,odd").changed
      [.set .toServer false, .insert .fromClient, .set .fromClient false, .insert .stateless]).text =
      "established,stateless" := by
  decide

end FlowSet

end RuleDesk
