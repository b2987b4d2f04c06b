import Mathlib.Data.List.Nodup
import RuleDesk.Json.Schema
import RuleDesk.Proofs.Json.Drafts
import RuleDesk.Proofs.Json.PlainValues

/-!
# Records read back

A faithful schema describes its records completely: reading what is written for one field sets that
field and no other, and the fields together determine the record. So the members of a record may be
read in any order, some of them may be absent, and members that the schema does not know may stand
between them. From the draft of what is written, a field is set to the same.
-/

set_option autoImplicit false

namespace RuleDesk.Json

/-! ## Codecs -/

/-- A codec that writes plain scalars and reads them back, from a value and from its draft. -/
class FaithfulCodec {β : Type} (c : Codec β) : Prop where
  read_write : ∀ b : β, c.read (c.write b) = .ok b
  scan_write : ∀ b : β, c.scan (c.write b).draft = .ok b
  isPlain_write : ∀ b : β, (c.write b).IsPlain 0

/-- The draft of a plain scalar shows its value at its head. -/
theorem head_draft_of_zero {v : Value} (h : v.IsPlain 0) : v.draft.head = .ok v := by
  cases v with
  | null => rfl
  | bool b => rfl
  | number n => rfl
  | string s => rfl
  | array items => exact absurd h.1 (Nat.lt_irrefl 0)
  | object members => exact absurd h.1 (Nat.lt_irrefl 0)

/-- What a codec that looks at the head only reads from a value, it reads from its draft. -/
theorem scan_scalar {β : Type} {write : β → Value} {read : Value → Except Mismatch β} {b : β}
    (hplain : (write b).IsPlain 0) (hread : read (write b) = .ok b) :
    (Codec.scalar write read).scan (write b).draft = .ok b := by
  show (unbroken (write b).draft.head >>= fun value => unfit (read value)) = .ok b
  rw [head_draft_of_zero hplain]
  show unfit (read (write b)) = .ok b
  rw [hread]
  rfl

instance : FaithfulCodec Codec.text where
  read_write _ := rfl
  scan_write _ := rfl
  isPlain_write _ := trivial

instance : FaithfulCodec Codec.flag where
  read_write _ := rfl
  scan_write _ := rfl
  isPlain_write _ := trivial

/-- A word is below the limit of what is read as one. -/
theorem read_write_word (n : UInt32) : Codec.word.read (Codec.word.write n) = .ok n := by
  have hlimit : n.toNat < UInt32.size := n.toNat_lt
  show (readNatural UInt32.size "u32" (.number (.natural n.toNat))).map UInt32.ofNat = .ok n
  rw [readNatural, if_pos hlimit]
  exact congrArg Except.ok UInt32.ofNat_toNat

theorem isPlain_write_word (n : UInt32) : (Codec.word.write n).IsPlain 0 :=
  Nat.lt_of_lt_of_le n.toNat_lt (by decide)

instance : FaithfulCodec Codec.word where
  read_write := read_write_word
  scan_write n := scan_scalar (isPlain_write_word n) (read_write_word n)
  isPlain_write := isPlain_write_word

/-! ## Schemas -/

namespace Schema

variable {α : Type} {s : Schema α}

/-- Whether the field at a place may be absent, is written as a plain scalar, and is set from it
while the other fields stay. -/
structure IsFaithfulAt (s : Schema α) (i : Nat) (h : i < s.fields.length) : Prop where
  isOptional : s.fields[i].required = false
  isPlain_write : ∀ a, (s.fields[i].write a).IsPlain 0
  read_write : ∀ x a, ∃ r, s.fields[i].read (s.fields[i].write x) a = .ok r ∧
    s.fields.map (·.write r) = (s.fields.map (·.write a)).set i (s.fields[i].write x)
  scan_write : ∀ x a, s.fields[i].scan (s.fields[i].write x).draft a =
    unfit (s.fields[i].read (s.fields[i].write x) a)

/-- Whether the fields of a schema have distinct names, are faithful, and determine the record. -/
structure IsFaithful (s : Schema α) : Prop where
  names_nodup : (s.fields.map Field.name).Nodup
  isFaithfulAt : ∀ (i : Nat) (h : i < s.fields.length), s.IsFaithfulAt i h
  readItems_write : ∀ x, readItems s.blank s.fields (s.fields.map (·.write x)) = .ok x

/-- What is written for a field is what it is set to. -/
theorem read_of {β : Type} {codec : Codec β} [FaithfulCodec codec] {name : String}
    {view : α → β} {update : β → α → α} (x a : α) :
    (Field.of name codec view update).read ((Field.of name codec view update).write x) a =
      .ok (update (view x) a) := by
  show (codec.read (codec.write (view x))).map (update · a) = .ok (update (view x) a)
  rw [FaithfulCodec.read_write]
  rfl

theorem scan_of {β : Type} {codec : Codec β} [FaithfulCodec codec] {name : String}
    {view : α → β} {update : β → α → α} (x a : α) :
    (Field.of name codec view update).scan ((Field.of name codec view update).write x).draft a =
      .ok (update (view x) a) := by
  show (codec.scan (codec.write (view x)).draft).map (update · a) = .ok (update (view x) a)
  rw [FaithfulCodec.scan_write]
  rfl

/-- Of the values of a record the first sets the first field. -/
theorem readItems_cons {β : Type} {codec : Codec β} [FaithfulCodec codec] {name : String}
    {view : α → β} {update : β → α → α} (x a : α) (fields : List (Field α))
    (values : List Value) :
    readItems a (.of name codec view update :: fields)
        ((Field.of name codec view update).write x :: values) =
      readItems (update (view x) a) fields values := by
  rw [readItems, read_of]
  rfl

theorem isFaithfulAt_of {β : Type} {codec : Codec β} [FaithfulCodec codec] {name : String}
    {view : α → β} {update : β → α → α} {i : Nat} {h : i < s.fields.length}
    (hfield : s.fields[i] = .of name codec view update)
    (hset : ∀ v a, s.fields.map (·.write (update v a)) =
      (s.fields.map (·.write a)).set i (codec.write v)) :
    s.IsFaithfulAt i h where
  isOptional := by
    rw [hfield]
    rfl
  isPlain_write a := by
    rw [hfield]
    exact FaithfulCodec.isPlain_write (view a)
  read_write x a := by
    rw [hfield]
    exact ⟨update (view x) a, read_of x a, hset (view x) a⟩
  scan_write x a := by
    rw [hfield, scan_of, read_of]
    rfl

namespace IsFaithful

variable (hs : s.IsFaithful)

include hs

/-- Two records that are written alike are equal. -/
theorem ext {a b : α} (h : ∀ f ∈ s.fields, f.write a = f.write b) : a = b := by
  have hwritten : s.fields.map (·.write a) = s.fields.map (·.write b) := List.map_congr_left h
  have ha := hs.readItems_write a
  rw [hwritten, hs.readItems_write b] at ha
  exact (Except.ok.inj ha).symm

theorem required_eq_false {f : Field α} (hf : f ∈ s.fields) : f.required = false := by
  obtain ⟨i, hi, rfl⟩ := List.getElem_of_mem hf
  exact (hs.isFaithfulAt i hi).isOptional

theorem isPlain_write {f : Field α} (hf : f ∈ s.fields) (a : α) : (f.write a).IsPlain 0 := by
  obtain ⟨i, hi, rfl⟩ := List.getElem_of_mem hf
  exact (hs.isFaithfulAt i hi).isPlain_write a

theorem absent?_eq_none (names : List String) : s.absent? names = none := by
  refine List.find?_eq_none.mpr fun f hf => ?_
  simp [hs.required_eq_false hf]

/-- What is written of a record for one field sets that field and leaves the others. -/
theorem read_field {f : Field α} (hf : f ∈ s.fields) (x a : α) :
    ∃ r, f.read (f.write x) a = .ok r ∧
      ∀ g ∈ s.fields, g.write r = if g.name = f.name then g.write x else g.write a := by
  obtain ⟨i, hi, rfl⟩ := List.getElem_of_mem hf
  obtain ⟨r, hread, hset⟩ := (hs.isFaithfulAt i hi).read_write x a
  refine ⟨r, hread, fun g hg => ?_⟩
  obtain ⟨j, hj, rfl⟩ := List.getElem_of_mem hg
  have hat (k : Nat) : (s.fields.map (·.write r))[k]? =
      ((s.fields.map (·.write a)).set i (s.fields[i].write x))[k]? :=
    congrArg (·[k]?) hset
  by_cases hname : s.fields[j].name = s.fields[i].name
  · -- names are distinct, so this is the field that is set
    have hsame : s.fields[j] = s.fields[i] :=
      List.inj_on_of_nodup_map hs.names_nodup (List.getElem_mem hj) (List.getElem_mem hi) hname
    rw [if_pos hname, hsame]
    simpa [hi] using hat i
  · have hij : i ≠ j := by
      rintro rfl
      exact hname rfl
    rw [if_neg hname]
    simpa [hj, hij] using hat j

/-- The members of `x` that are read are set, in whatever order they come; the other fields stay.
Members of other names do not matter. -/
theorem readMembers_written (x : α) {members : List (String × Value)}
    (hwritten : ∀ m ∈ members, ∀ f, s.field? m.1 = some f → m.2 = f.write x) (a : α) :
    ∃ r, s.readMembers a members = .ok r ∧
      ∀ g ∈ s.fields, g.write r =
        if g.name ∈ members.map Prod.fst then g.write x else g.write a := by
  induction members generalizing a with
  | nil => exact ⟨a, rfl, fun g _ => rfl⟩
  | cons member rest ih =>
      obtain ⟨name, value⟩ := member
      have hrest := ih fun m hm => hwritten m (List.mem_cons_of_mem _ hm)
      cases hfield : s.field? name with
      | none =>
          obtain ⟨r, hread, hr⟩ := hrest a
          refine ⟨r, by rw [readMembers, hfield, hread], fun g hg => ?_⟩
          have hname : g.name ≠ name := by
            simpa using List.find?_eq_none.mp hfield g hg
          have hmem : g.name ∈ ((name, value) :: rest).map Prod.fst ↔
              g.name ∈ rest.map Prod.fst := by
            simp [hname]
          rw [hr g hg]
          exact (if_congr hmem rfl rfl).symm
      | some f =>
          have hmem : f ∈ s.fields := List.mem_of_find?_eq_some hfield
          have hname : f.name = name := by simpa using List.find?_some hfield
          have hvalue : value = f.write x := hwritten _ List.mem_cons_self f hfield
          obtain ⟨b, hset, hb⟩ := hs.read_field hmem x a
          obtain ⟨r, hread, hr⟩ := hrest b
          refine ⟨r, ?_, fun g hg => ?_⟩
          · rw [readMembers, hfield, hvalue]
            show (f.read (f.write x) a).bind (s.readMembers · rest) = .ok r
            rw [hset]
            exact hread
          · rw [hr g hg, hb g hg, hname]
            by_cases hlater : g.name ∈ rest.map Prod.fst
            · simp [hlater]
            · by_cases hnow : g.name = name
              · simp [hnow]
              · simp [hlater, hnow]

/-- No field must be there, so the members that are read are all that an object needs. -/
theorem read_of_readMembers {members : List (String × Value)} {r : α}
    (h : s.readMembers s.blank members = .ok r) : s.read (.object members) = .ok r := by
  simp only [read, h, bind, Except.bind, hs.absent?_eq_none]
  rfl

theorem scan_of_scanMembers (flaw : Option Fault) {members : List (Name × Draft)}
    {seen : List String} {r : α} (h : s.scanMembers [] s.blank members = .ok (seen, r)) :
    s.scan (.object flaw members none) = .ok r := by
  simp only [scan, h, bind, Except.bind, hs.absent?_eq_none]
  rfl

/-- An object that has all members of a record is read as that record. -/
theorem read_object (x : α) {members : List (String × Value)}
    (hwritten : ∀ m ∈ members, ∀ f, s.field? m.1 = some f → m.2 = f.write x)
    (hall : ∀ f ∈ s.fields, f.name ∈ members.map Prod.fst) :
    s.read (.object members) = .ok x := by
  obtain ⟨r, hread, hr⟩ := hs.readMembers_written x hwritten s.blank
  have hsame : r = x := by
    apply hs.ext
    intro f hf
    rw [hr f hf, if_pos (hall f hf)]
  rw [hsame] at hread
  exact hs.read_of_readMembers hread

/-! ## Written records -/

/-- What is written under a known name is what its field writes. -/
theorem eq_write_of_mem_members {x : α} {m : String × Value} (hm : m ∈ s.members x) {f : Field α}
    (hfield : s.field? m.1 = some f) : m.2 = f.write x := by
  obtain ⟨g, hg, rfl⟩ := List.mem_map.mp hm
  have hname : f.name = g.name := by simpa using List.find?_some hfield
  have hsame : f = g :=
    List.inj_on_of_nodup_map hs.names_nodup (List.mem_of_find?_eq_some hfield) hg hname
  rw [hsame]

theorem isPlain_object (x : α) {levels : Nat} (h : 0 < levels) :
    (Value.object (s.members x)).IsPlain levels := by
  refine ⟨h, membersArePlain_iff.mpr fun m hm => ?_⟩
  obtain ⟨f, hf, rfl⟩ := List.mem_map.mp hm
  exact isPlain_of_zero (hs.isPlain_write hf x) _

theorem sortedValues_members (x : α) : sortedValues (s.members x) = s.members x := by
  rw [sortedValues_eq_map, members, List.map_map]
  apply List.map_congr_left
  intro f hf
  exact congrArg (f.name, ·) (sorted_of_zero (hs.isPlain_write hf x))

/-- A record is read back from what is written for it, also after its members were sorted. -/
theorem read_sorted (x : α) : s.read (Value.object (s.members x)).sorted = .ok x := by
  rw [Value.sorted, hs.sortedValues_members]
  refine hs.read_object x ?_ ?_
  · intro m hm f hfield
    exact hs.eq_write_of_mem_members (mem_of_mem_sortMembers hm) hfield
  · intro f hf
    apply mem_names_sortMembers
    rw [members, List.map_map]
    exact List.mem_map_of_mem (f := Field.name) hf

end IsFaithful

end Schema

end RuleDesk.Json
