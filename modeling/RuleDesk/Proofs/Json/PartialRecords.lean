import RuleDesk.Proofs.Json.Schemas
import RuleDesk.Proofs.Outcomes

/-!
# Records read from some of their members

An object may have some of the members that are written for a record and lack others, in any order,
and members of names that the schema does not have may stand among them. Such an object is read as
the record that has the written fields where they are kept and is blank elsewhere.

A text that is read in document order gives the same record. There a member of an unknown name is
passed over unseen, and a name that comes twice is refused; so the proof keeps to names that are
kept once, and reduces scanning the members of a draft to reading the members of an object.
-/

set_option autoImplicit false

namespace RuleDesk.Json

theorem draftMembers_eq_map (members : List (String × Value)) :
    draftMembers members = members.map fun m => (⟨m.1, none⟩, m.2.draft) := by
  induction members with
  | nil => rfl
  | cons member rest ih => rw [draftMembers, ih, List.map_cons]

namespace Schema

variable {α : Type}

/-! ## Kept members -/

/-- The names of the fields of a schema. -/
def names (s : Schema α) : List String :=
  s.fields.map Field.name

/-- Of the members that are written for a record, those whose names are kept. -/
def keptMembers (s : Schema α) (keep : String → Bool) (x : α) : List (String × Value) :=
  (s.members x).filter fun m => keep m.1

/-- The members of an object are the kept ones of a record, in any order, and others of names that
the schema does not have. -/
def HoldsKept (s : Schema α) (keep : String → Bool) (x : α)
    (members : List (String × Value)) : Prop :=
  ∃ extra : List (String × Value), (∀ m ∈ extra, m.1 ∉ s.names) ∧
    members.Perm (s.keptMembers keep x ++ extra)

/-- The members of a draft are the kept ones of a record, in any order, and others of names that the
schema does not have. Of these it is asked only that they keep to the grammar. -/
def HoldsKeptDrafts (s : Schema α) (keep : String → Bool) (x : α)
    (members : List (Name × Draft)) : Prop :=
  ∃ extra : List (Name × Draft),
    (∀ m ∈ extra, m.1.flaw = none ∧ m.1.text ∉ s.names ∧ m.2.isWhole = true) ∧
    members.Perm (draftMembers (s.keptMembers keep x) ++ extra)

/-- Where an object holds the kept members of a record, reading it gives the restriction of that
record. So does reading a text whose draft is that object's, or whose draft holds the kept members
itself. -/
structure Fills (s : Schema α) (restrict : (String → Bool) → α → α) : Prop where
  read_object : ∀ (keep : String → Bool) (x : α) (members : List (String × Value)),
    s.HoldsKept keep x members → s.read (.object members) = .ok (restrict keep x)
  scan_draft : ∀ (keep : String → Bool) (x : α) (members : List (String × Value)),
    s.HoldsKept keep x members →
      Document.scan s.codec ⟨(Value.object members).draft, none⟩ = .ok (restrict keep x)
  scan_object : ∀ (keep : String → Bool) (x : α) (flaw : Option Fault)
    (members : List (Name × Draft)), s.HoldsKeptDrafts keep x members →
      Document.scan s.codec ⟨.object flaw members none, none⟩ = .ok (restrict keep x)

variable {s : Schema α} {keep : String → Bool} {x : α}

theorem mem_names_of_field? {name : String} {f : Field α} (h : s.field? name = some f) :
    name ∈ s.names := by
  have hname : f.name = name := by simpa using List.find?_some h
  rw [← hname]
  exact List.mem_map_of_mem (List.mem_of_find?_eq_some h)

theorem field?_eq_none {name : String} (h : name ∉ s.names) : s.field? name = none := by
  cases hfield : s.field? name with
  | none => rfl
  | some f => exact absurd (mem_names_of_field? hfield) h

theorem name_mem_keptMembers_iff {f : Field α} (hf : f ∈ s.fields) :
    f.name ∈ (s.keptMembers keep x).map Prod.fst ↔ keep f.name = true := by
  constructor
  · intro h
    obtain ⟨m, hm, hname⟩ := List.mem_map.mp h
    rw [← hname]
    exact (List.mem_filter.mp hm).2
  · intro h
    have hmember : (f.name, f.write x) ∈ s.members x :=
      List.mem_map_of_mem (f := fun f => (f.name, f.write x)) hf
    exact List.mem_map_of_mem (f := Prod.fst) (List.mem_filter.mpr ⟨hmember, h⟩)

/-- Members of unknown names do not add to the known names among the kept ones. -/
theorem name_mem_append_iff {f : Field α} (hf : f ∈ s.fields) {unknown : List String}
    (hunknown : ∀ name ∈ unknown, name ∉ s.names) :
    f.name ∈ (s.keptMembers keep x).map Prod.fst ++ unknown ↔ keep f.name = true := by
  rw [List.mem_append, name_mem_keptMembers_iff hf]
  constructor
  · rintro (h | h)
    · exact h
    · exact absurd (List.mem_map_of_mem hf) (hunknown _ h)
  · exact .inl

/-- An object with all members of a record holds those that are kept if all are. -/
theorem holdsKept_members (x : α) : s.HoldsKept (fun _ => true) x (s.members x) := by
  refine ⟨[], fun _ hm => absurd hm List.not_mem_nil, ?_⟩
  rw [keptMembers, List.filter_true, List.append_nil]

/-- Values of unknown names do not matter, whatever they are: their drafts can be passed over. -/
theorem holdsKeptDrafts_draftMembers {members : List (String × Value)}
    (h : s.HoldsKept keep x members) : s.HoldsKeptDrafts keep x (draftMembers members) := by
  obtain ⟨extra, hextra, hperm⟩ := h
  refine ⟨draftMembers extra, ?_, ?_⟩
  · intro m hm
    rw [draftMembers_eq_map] at hm
    obtain ⟨e, he, rfl⟩ := List.mem_map.mp hm
    exact ⟨rfl, hextra e he, isWhole_draft e.2⟩
  · simp only [draftMembers_eq_map, ← List.map_append]
    exact hperm.map _

/-- A field whose view is kept or blank is written as kept or blank. -/
theorem write_of_kept {β : Type} {codec : Codec β} {name : String} {view : α → β}
    {update : β → α → α} {a b : α} (h : view a = if keep name then view x else view b) :
    (Field.of name codec view update).write a =
      if keep (Field.of name codec view update).name then
        (Field.of name codec view update).write x
      else (Field.of name codec view update).write b := by
  show codec.write (view a) = if keep name then codec.write (view x) else codec.write (view b)
  rw [h]
  exact apply_ite codec.write _ _ _

/-! ## Scanned members -/

/-- A member of a draft as a member of an object: under a known name with the value that is written
for `x`. What stands under an unknown name does not matter. -/
def readAs (s : Schema α) (x : α) (m : Name × Draft) : String × Value :=
  (m.1.text, ((s.field? m.1.text).map (·.write x)).getD .null)

/-- Whether the member of a draft has no flaw in its name and holds what is written for `x`, or can
be passed over. -/
def IsScannable (s : Schema α) (x : α) (m : Name × Draft) : Prop :=
  m.1.flaw = none ∧
    match s.field? m.1.text with
    | some f => m.2 = (f.write x).draft
    | none => m.2.isWhole = true

/-- Whether a name is one of the schema's. -/
def isKnown (s : Schema α) (name : String) : Bool :=
  (s.field? name).isSome

theorem isKnown_of_mem_names {name : String} (h : name ∈ s.names) : s.isKnown name = true := by
  obtain ⟨f, hf, rfl⟩ := List.mem_map.mp h
  exact List.find?_isSome.mpr ⟨f, hf, beq_self_eq_true f.name⟩

namespace IsFaithful

variable (hs : s.IsFaithful)

include hs

theorem nodup_keptMembers (keep : String → Bool) (x : α) :
    ((s.keptMembers keep x).map Prod.fst).Nodup := by
  have hnames : (s.members x).map Prod.fst = s.names := by
    rw [members, List.map_map]
    rfl
  have hsublist : ((s.keptMembers keep x).map Prod.fst).Sublist s.names := by
    rw [← hnames]
    exact List.filter_sublist.map Prod.fst
  exact hsublist.nodup hs.names_nodup

/-- What is written for a field sets it from a draft as it does from a value. -/
theorem scan_field {f : Field α} (hf : f ∈ s.fields) (x a : α) :
    f.scan (f.write x).draft a = unfit (f.read (f.write x) a) := by
  obtain ⟨i, hi, rfl⟩ := List.getElem_of_mem hf
  exact (hs.isFaithfulAt i hi).scan_write x a

/-- Scanning members gives what reading them gives, if no known name comes twice. -/
theorem exists_scanMembers {members : List (Name × Draft)} (seen : List String) {a r : α}
    (hscannable : ∀ m ∈ members, s.IsScannable x m)
    (hnodup : ((members.map (·.1.text)).filter s.isKnown).Nodup)
    (hseen : ∀ name ∈ (members.map (·.1.text)).filter s.isKnown, name ∉ seen)
    (hread : s.readMembers a (members.map (s.readAs x)) = .ok r) :
    ∃ seen', s.scanMembers seen a members = .ok (seen', r) := by
  induction members generalizing seen a with
  | nil =>
      cases hread
      exact ⟨seen, rfl⟩
  | cons member rest ih =>
      obtain ⟨⟨name, flaw⟩, item⟩ := member
      obtain ⟨hflaw, hitem⟩ := hscannable _ List.mem_cons_self
      have hrest : ∀ m ∈ rest, s.IsScannable x m :=
        fun m hm => hscannable m (List.mem_cons_of_mem _ hm)
      obtain rfl : flaw = none := hflaw
      cases hfield : s.field? name with
      | none =>
          -- the name is unknown, so both pass the member over
          have hwhole : item.isWhole = true := by simpa [hfield] using hitem
          have hknown : s.isKnown name = false := by rw [isKnown, hfield]; rfl
          rw [List.map_cons, List.filter_cons_of_neg (by simp [hknown])] at hnodup hseen
          rw [List.map_cons, readAs, readMembers, hfield] at hread
          obtain ⟨seen', hscan⟩ := ih _ hrest hnodup hseen hread
          refine ⟨seen', ?_⟩
          rw [scanMembers, hfield, hwhole]
          exact hscan
      | some f =>
          have hf : f ∈ s.fields := List.mem_of_find?_eq_some hfield
          have hdraft : item = (f.write x).draft := by simpa [hfield] using hitem
          have hknown : s.isKnown name = true := by rw [isKnown, hfield]; rfl
          rw [List.map_cons, List.filter_cons_of_pos hknown] at hnodup hseen
          obtain ⟨hfresh, hnodup⟩ := List.nodup_cons.mp hnodup
          -- the field is set from the draft to what the value sets it to
          rw [List.map_cons, readAs, readMembers, hfield] at hread
          obtain ⟨b, hset, hread⟩ := bind_eq_ok_iff.mp hread
          have hscanned : f.scan item a = .ok b := by
            rw [hdraft, hs.scan_field hf]
            exact congrArg unfit hset
          have hnotSeen : seen.contains name = false := by
            simpa using hseen name List.mem_cons_self
          have hseen' : ∀ n ∈ (rest.map (·.1.text)).filter s.isKnown, n ∉ name :: seen := by
            intro n hn hmem
            rcases List.mem_cons.mp hmem with rfl | hmem
            · exact hfresh hn
            · exact hseen n (List.mem_cons_of_mem _ hn) hmem
          obtain ⟨seen', hscan⟩ := ih _ hrest hnodup hseen' hread
          refine ⟨seen', ?_⟩
          rw [scanMembers, hfield]
          simp only [Option.isSome_none, Bool.false_eq_true, if_false, hnotSeen, hscanned]
          exact hscan

/-! ## Records filled -/

/-- From the kept members of a record, in whatever order, the kept fields are set. -/
theorem readMembers_kept {members : List (String × Value)} (h : s.HoldsKept keep x members) :
    ∃ r, s.readMembers s.blank members = .ok r ∧
      ∀ f ∈ s.fields, f.write r = if keep f.name then f.write x else f.write s.blank := by
  obtain ⟨extra, hextra, hperm⟩ := h
  have hwritten : ∀ m ∈ members, ∀ f, s.field? m.1 = some f → m.2 = f.write x := by
    intro m hm f hfield
    rcases List.mem_append.mp (hperm.mem_iff.mp hm) with hkept | hunknown
    · exact hs.eq_write_of_mem_members (List.mem_filter.mp hkept).1 hfield
    · exact absurd (mem_names_of_field? hfield) (hextra m hunknown)
  obtain ⟨r, hread, hr⟩ := hs.readMembers_written x hwritten s.blank
  refine ⟨r, hread, fun f hf => ?_⟩
  have hunknown : ∀ name ∈ extra.map Prod.fst, name ∉ s.names := by
    intro name hname
    obtain ⟨m, hm, rfl⟩ := List.mem_map.mp hname
    exact hextra m hm
  have hmem : f.name ∈ members.map Prod.fst ↔ keep f.name = true := by
    rw [(hperm.map Prod.fst).mem_iff, List.map_append, name_mem_append_iff hf hunknown]
  rw [hr f hf]
  exact if_congr hmem rfl rfl

/-- A kept member is known, and it is what its field writes. -/
theorem exists_field?_of_mem_keptMembers {m : String × Value} (hm : m ∈ s.keptMembers keep x) :
    ∃ f, s.field? m.1 = some f ∧ m.2 = f.write x := by
  have hmember : m ∈ s.members x := (List.mem_filter.mp hm).1
  have hknown : s.isKnown m.1 = true := by
    obtain ⟨f, hf, rfl⟩ := List.mem_map.mp hmember
    exact isKnown_of_mem_names (List.mem_map_of_mem hf)
  obtain ⟨f, hfield⟩ := Option.isSome_iff_exists.mp hknown
  exact ⟨f, hfield, hs.eq_write_of_mem_members hmember hfield⟩

/-- A draft that holds the kept members of a record reads as an object that holds them. -/
theorem holdsKept_readAs {members : List (Name × Draft)} (h : s.HoldsKeptDrafts keep x members) :
    s.HoldsKept keep x (members.map (s.readAs x)) := by
  obtain ⟨extra, hextra, hperm⟩ := h
  refine ⟨extra.map (s.readAs x), ?_, ?_⟩
  · intro m hm
    obtain ⟨d, hd, rfl⟩ := List.mem_map.mp hm
    exact (hextra d hd).2.1
  · -- the draft of a kept member reads as that member
    have hself : (draftMembers (s.keptMembers keep x)).map (s.readAs x) =
        s.keptMembers keep x := by
      rw [draftMembers_eq_map, List.map_map]
      refine (List.map_congr_left fun m hm => ?_).trans (List.map_id _)
      obtain ⟨f, hfield, hvalue⟩ := hs.exists_field?_of_mem_keptMembers hm
      simp only [Function.comp_apply, readAs, hfield, Option.map_some, Option.getD_some, id_eq,
        ← hvalue]
    have hmap := hperm.map (s.readAs x)
    rwa [List.map_append, hself] at hmap

theorem isScannable_of_holdsKeptDrafts {members : List (Name × Draft)}
    (h : s.HoldsKeptDrafts keep x members) : ∀ m ∈ members, s.IsScannable x m := by
  obtain ⟨extra, hextra, hperm⟩ := h
  intro m hm
  rcases List.mem_append.mp (hperm.mem_iff.mp hm) with hkept | hunknown
  · rw [draftMembers_eq_map] at hkept
    obtain ⟨k, hk, rfl⟩ := List.mem_map.mp hkept
    obtain ⟨f, hfield, hvalue⟩ := hs.exists_field?_of_mem_keptMembers hk
    refine ⟨rfl, ?_⟩
    simp only [hfield, hvalue]
  · obtain ⟨hflaw, hname, hwhole⟩ := hextra m hunknown
    refine ⟨hflaw, ?_⟩
    simp only [field?_eq_none hname]
    exact hwhole

/-- The known names of a draft that holds the kept members of a record are the kept ones, each
once. -/
theorem nodup_of_holdsKeptDrafts {members : List (Name × Draft)}
    (h : s.HoldsKeptDrafts keep x members) :
    ((members.map (·.1.text)).filter s.isKnown).Nodup := by
  obtain ⟨extra, hextra, hperm⟩ := h
  have hnone : (extra.map (·.1.text)).filter s.isKnown = [] := by
    refine List.filter_eq_nil_iff.mpr fun name hname => ?_
    obtain ⟨m, hm, rfl⟩ := List.mem_map.mp hname
    rw [isKnown, field?_eq_none (hextra m hm).2.1]
    exact Bool.false_ne_true
  have hnames := (hperm.map (·.1.text)).filter s.isKnown
  rw [draftMembers_eq_map, List.map_append, List.filter_append, hnone, List.append_nil,
    List.map_map] at hnames
  exact hnames.nodup_iff.mpr ((hs.nodup_keptMembers keep x).filter _)

section Restriction

variable {restrict : (String → Bool) → α → α}

/-- A restriction that agrees with its record on the kept fields, and with the blank record on the
others, is what the kept members are read as. -/
theorem readMembers_restrict
    (hrestrict : ∀ f ∈ s.fields,
      f.write (restrict keep x) = if keep f.name then f.write x else f.write s.blank)
    {members : List (String × Value)} (h : s.HoldsKept keep x members) :
    s.readMembers s.blank members = .ok (restrict keep x) := by
  obtain ⟨r, hread, hr⟩ := hs.readMembers_kept h
  have hsame : r = restrict keep x := by
    apply hs.ext
    intro f hf
    rw [hr f hf, hrestrict f hf]
  rw [← hsame]
  exact hread

/-- It is also what the members of a draft are scanned as, since known names come once there. -/
theorem scan_restrict
    (hrestrict : ∀ f ∈ s.fields,
      f.write (restrict keep x) = if keep f.name then f.write x else f.write s.blank)
    (flaw : Option Fault) {members : List (Name × Draft)}
    (h : s.HoldsKeptDrafts keep x members) :
    Document.scan s.codec ⟨.object flaw members none, none⟩ = .ok (restrict keep x) := by
  obtain ⟨seen, hscan⟩ := hs.exists_scanMembers []
    (hs.isScannable_of_holdsKeptDrafts h) (hs.nodup_of_holdsKeptDrafts h)
    (fun _ _ => List.not_mem_nil) (hs.readMembers_restrict hrestrict (hs.holdsKept_readAs h))
  have hdraft : s.codec.scan (.object flaw members none) = .ok (restrict keep x) :=
    hs.scan_of_scanMembers flaw hscan
  rw [Document.scan, hdraft]
  rfl

theorem fills
    (hrestrict : ∀ keep x, ∀ f ∈ s.fields,
      f.write (restrict keep x) = if keep f.name then f.write x else f.write s.blank) :
    s.Fills restrict where
  read_object keep x members h :=
    hs.read_of_readMembers (hs.readMembers_restrict (hrestrict keep x) h)
  scan_draft keep x members h := by
    rw [Value.draft]
    exact hs.scan_restrict (hrestrict keep x) none (holdsKeptDrafts_draftMembers h)
  scan_object keep x flaw members h :=
    hs.scan_restrict (hrestrict keep x) flaw h

end Restriction

end IsFaithful

end Schema

end RuleDesk.Json
