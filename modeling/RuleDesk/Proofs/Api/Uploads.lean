import Mathlib.Data.List.Basic
import RuleDesk.Api.Upload
import RuleDesk.Proofs.Outcomes

/-!
# Reading uploads

As long as no part is wrong, taking the parts of a form in order leaves the last file and the last
format among them. A form with one file and at most one format is therefore read alike in whatever
order its parts come.
-/

set_option autoImplicit false

namespace RuleDesk.Api

open RuleDesk.Http
open RuleDesk.Text

/-! ## What parts give -/

/-- Whether a part has a given name. -/
def isNamed (name : String) (part : Part) : Bool :=
  part.header.name == some name

/-- The file that a part uploads, if the part has a name for it. -/
def fileOf? (part : Part) : Option (String × List UInt8) :=
  if isNamed "file" part then
    (part.header.filename.filter (· != "")).map fun filename => (filename, part.data)
  else none

/-- The format that a part names. -/
def formatOf? (part : Part) : Option Format :=
  if isNamed "format" part then Vocabulary.ofWord? (textOf part) else none

/-- A part that is not wrong: a file has a name, and a format is one of the known ones. -/
structure IsFitting (part : Part) : Prop where
  file : isNamed "file" part → ∃ filename, part.header.filename = some filename ∧ filename ≠ ""
  format : isNamed "format" part → ∃ f : Format, textOf part = Vocabulary.spelling f

variable {part : Part} {parts parts' : List Part} {filename : String} {data : List UInt8}
  {format : Option Format}

theorem ofWord?_spelling_format (f : Format) :
    Vocabulary.ofWord? (Vocabulary.spelling f) = some f := by
  cases f <;> rfl

theorem fileNameOf_eq_ok_iff {h : PartHeader} :
    fileNameOf h = .ok filename ↔ h.filename = some filename ∧ filename ≠ "" := by
  unfold fileNameOf
  split
  · next hnone => simp [hnone]
  · next hempty =>
      rw [hempty]
      constructor
      · intro hok
        cases hok
      · rintro ⟨hname, hne⟩
        exact absurd (Option.some.inj hname).symm hne
  · next name hne hsome =>
      rw [hsome, Except.ok.injEq, Option.some.injEq]
      constructor
      · rintro rfl
        exact ⟨rfl, fun hempty => hne hempty⟩
      · exact And.left

theorem fileOf?_eq_some (hname : isNamed "file" part)
    (hfilename : part.header.filename = some filename) (hne : filename ≠ "") :
    fileOf? part = some (filename, part.data) := by
  simp [fileOf?, hname, hfilename, hne]

theorem formatOf?_eq_some {f : Format} (hname : isNamed "format" part)
    (htext : textOf part = Vocabulary.spelling f) : formatOf? part = some f := by
  rw [formatOf?, if_pos hname, htext, ofWord?_spelling_format]

/-- A fitting part replaces the file or the format or neither. -/
theorem UploadDraft.take_of_isFitting (h : IsFitting part) (u : UploadDraft) :
    u.take part = .ok ⟨(fileOf? part).or u.file, (formatOf? part).or u.format⟩ := by
  unfold UploadDraft.take
  split
  · next hname =>
      have hfile : isNamed "file" part := by simp [isNamed, hname]
      have hformat : ¬ isNamed "format" part := by simp [isNamed, hname]
      obtain ⟨filename, hfilename, hne⟩ := h.file hfile
      rw [fileNameOf_eq_ok_iff.mpr ⟨hfilename, hne⟩, fileOf?_eq_some hfile hfilename hne, formatOf?,
        if_neg hformat]
      rfl
  · next hname =>
      have hfile : ¬ isNamed "file" part := by simp [isNamed, hname]
      have hformat : isNamed "format" part := by simp [isNamed, hname]
      obtain ⟨f, hf⟩ := h.format hformat
      simp only [hf, ofWord?_spelling_format]
      rw [formatOf?_eq_some hformat hf, fileOf?, if_neg hfile]
      rfl
  · next hfile hformat =>
      have hfile' : ¬ isNamed "file" part := by simpa [isNamed] using hfile
      have hformat' : ¬ isNamed "format" part := by simpa [isNamed] using hformat
      rw [fileOf?, if_neg hfile', formatOf?, if_neg hformat']
      rfl

/-- Only fitting parts are taken. -/
theorem UploadDraft.isFitting_of_take {u u' : UploadDraft} (h : u.take part = .ok u') :
    IsFitting part := by
  constructor
  · intro hname
    have hfile : part.header.name = some "file" := by simpa [isNamed] using hname
    simp only [UploadDraft.take, hfile] at h
    obtain ⟨filename, hfilename, -⟩ := bind_eq_ok_iff.mp h
    exact ⟨filename, fileNameOf_eq_ok_iff.mp hfilename⟩
  · intro hname
    have hformat : part.header.name = some "format" := by simpa [isNamed] using hname
    simp only [UploadDraft.take, hformat] at h
    split at h
    · next f hword =>
        have hspelling := List.find?_some hword
        exact ⟨f, (beq_iff_eq.mp hspelling).symm⟩
    · cases h

theorem getLast?_filterMap_cons {β : Type} (give : Part → Option β) (part : Part)
    (rest : List Part) (before : Option β) :
    ((rest.filterMap give).getLast?).or ((give part).or before) =
      (((part :: rest).filterMap give).getLast?).or before := by
  cases hgive : give part with
  | none => simp [hgive]
  | some b =>
      cases hrest : (rest.filterMap give).getLast? with
      | none => simp [hgive, hrest, List.getLast?_cons]
      | some last => simp [hgive, hrest, List.getLast?_cons]

/-- Of the files and formats that fitting parts give, the last ones count. -/
theorem UploadDraft.takeAll_of_isFitting (h : ∀ part ∈ parts, IsFitting part) (u : UploadDraft) :
    u.takeAll parts = .ok
      ⟨(parts.filterMap fileOf?).getLast?.or u.file,
        (parts.filterMap formatOf?).getLast?.or u.format⟩ := by
  -- Induction over the parts, with any file and format taken before them.
  induction parts generalizing u with
  | nil => rfl
  | cons part rest ih =>
      have hfirst := UploadDraft.take_of_isFitting (h part List.mem_cons_self) u
      have hrest := ih (fun part hpart => h part (List.mem_cons_of_mem _ hpart))
        ⟨(fileOf? part).or u.file, (formatOf? part).or u.format⟩
      rw [getLast?_filterMap_cons, getLast?_filterMap_cons] at hrest
      rw [UploadDraft.takeAll, hfirst]
      exact hrest

theorem UploadDraft.isFitting_of_takeAll {u u' : UploadDraft} (h : u.takeAll parts = .ok u') :
    ∀ part ∈ parts, IsFitting part := by
  induction parts generalizing u with
  | nil => exact fun _ hpart => absurd hpart List.not_mem_nil
  | cons part rest ih =>
      obtain ⟨taken, htake, hrest⟩ := bind_eq_ok_iff.mp h
      exact List.forall_mem_cons.mpr ⟨isFitting_of_take htake, ih hrest⟩

/-- What the parts of a complete form upload: no part is wrong, and of the files and of the formats
the last ones count. -/
structure Uploads (parts : List Part) (u : Upload) : Prop where
  fits : ∀ part ∈ parts, IsFitting part
  file : (parts.filterMap fileOf?).getLast? = some (u.filename, u.data)
  format : (parts.filterMap formatOf?).getLast? = u.format

/-- Only a complete form with a file is read to its end. -/
theorem UploadDraft.finish_eq_ok_iff {draft : UploadDraft} {ending : Ending} {u : Upload} :
    draft.finish ending = .ok u ↔
      ending = .complete ∧ draft = ⟨some (u.filename, u.data), u.format⟩ := by
  obtain ⟨file, named⟩ := draft
  -- Only a form whose end was found is finished; the other endings fail, each with its message.
  cases ending with
  | complete =>
      cases file with
      | none => simp [finish]
      | some file =>
          obtain ⟨filename, data⟩ := file
          obtain ⟨filename', data', named'⟩ := u
          simp [finish, and_assoc]
  | broken => simp [finish]
  | cutOff header =>
      have herror : ∀ context, Except.error (brokenBody context) ≠ Except.ok u := by
        intro context hok
        cases hok
      simp only [finish, reduceCtorEq, false_and, iff_false]
      split
      · intro hok
        obtain ⟨name, -, hbroken⟩ := bind_eq_ok_iff.mp hok
        exact herror _ hbroken
      · exact herror _
      · exact herror _

/-- A form is read exactly if it is complete and no part is wrong, and then as what its parts
upload. -/
theorem Upload.ofMultipart_eq_ok_iff {m : Multipart} {u : Upload} :
    Upload.ofMultipart m = .ok u ↔ m.ending = .complete ∧ Uploads m.parts u := by
  rw [Upload.ofMultipart, bind_eq_ok_iff]
  constructor
  · rintro ⟨draft, htake, hfinish⟩
    have hfits := UploadDraft.isFitting_of_takeAll htake
    rw [UploadDraft.takeAll_of_isFitting hfits, Option.or_none, Option.or_none] at htake
    obtain ⟨hending, hdraft⟩ := UploadDraft.finish_eq_ok_iff.mp hfinish
    obtain ⟨hfile, hformat⟩ := UploadDraft.mk.inj ((Except.ok.inj htake).trans hdraft)
    exact ⟨hending, hfits, hfile, hformat⟩
  · rintro ⟨hending, h⟩
    refine ⟨_, UploadDraft.takeAll_of_isFitting h.fits {}, ?_⟩
    rw [h.file, h.format, Option.or_none, Option.or_none]
    exact UploadDraft.finish_eq_ok_iff.mpr ⟨hending, rfl⟩

/-! ## Forms of one file -/

/-- The parts of a form, in any order: one file with its name, at most one format, which is one of
the known ones, and whatever parts of other names or without a name. -/
structure IsImportForm (parts : List Part) (filename : String) (data : List UInt8)
    (format : Option Format) : Prop where
  file : (parts.filter (isNamed "file")).map (fun part => (part.header.filename, part.data)) =
    [(some filename, data)]
  filename_ne : filename ≠ ""
  format : (parts.filter (isNamed "format")).map textOf =
    format.toList.map Vocabulary.spelling

namespace IsImportForm

theorem perm (h : IsImportForm parts filename data format) (hperm : parts'.Perm parts) :
    IsImportForm parts' filename data format where
  file := List.perm_singleton.mp (h.file ▸ (hperm.filter _).map _)
  filename_ne := h.filename_ne
  format := by
    have hmoved := h.format ▸ (hperm.filter (isNamed "format")).map textOf
    cases format with
    | none => exact hmoved.eq_nil
    | some f => exact List.perm_singleton.mp hmoved

theorem isFitting (h : IsImportForm parts filename data format) (hpart : part ∈ parts) :
    IsFitting part where
  file hname := by
    have hmem := List.mem_map_of_mem (f := fun part : Part => (part.header.filename, part.data))
      (List.mem_filter.mpr ⟨hpart, hname⟩)
    rw [h.file, List.mem_singleton, Prod.mk.injEq] at hmem
    exact ⟨filename, hmem.1, h.filename_ne⟩
  format hname := by
    have hmem := List.mem_map_of_mem (f := textOf) (List.mem_filter.mpr ⟨hpart, hname⟩)
    rw [h.format] at hmem
    obtain ⟨f, -, hf⟩ := List.mem_map.mp hmem
    exact ⟨f, hf.symm⟩

theorem filterMap_fileOf? (h : IsImportForm parts filename data format) :
    parts.filterMap fileOf? = [(filename, data)] := by
  have hfiles : parts.filterMap fileOf? =
      ((parts.filter (isNamed "file")).map fun part => (part.header.filename, part.data)).filterMap
        (fun file => (file.1.filter (· != "")).map fun filename => (filename, file.2)) := by
    rw [List.filterMap_map, List.filterMap_filter]
    rfl
  rw [hfiles, h.file]
  simp [h.filename_ne]

theorem filterMap_formatOf? (h : IsImportForm parts filename data format) :
    parts.filterMap formatOf? = format.toList := by
  have hformats : parts.filterMap formatOf? =
      ((parts.filter (isNamed "format")).map textOf).filterMap Vocabulary.ofWord? := by
    rw [List.filterMap_map, List.filterMap_filter]
    rfl
  rw [hformats, h.format]
  cases format with
  | none => rfl
  | some f => simp [ofWord?_spelling_format]

/-- A form of one file uploads just that file, and the format that it names. -/
theorem uploads (h : IsImportForm parts filename data format) :
    Uploads parts ⟨filename, data, format⟩ where
  fits _ := h.isFitting
  file := by rw [h.filterMap_fileOf?]; rfl
  format := by
    rw [h.filterMap_formatOf?]
    cases format <;> rfl

end IsImportForm

/-! ## Formats of files -/

/-- A file name whose last characters are `.json`, in letters of either case. -/
def EndsInJson (filename : String) : Prop :=
  ∃ stem ending, filename.toList = stem ++ ending ∧ ending.map Char.toLower = ".json".toList

/-- The format in which a file is read: the one that the form names, or else the one that the name
of the file tells. -/
inductive IsReadIn (filename : String) : Option Format → Format → Prop
  | named (f : Format) : IsReadIn filename (some f) f
  | json : EndsInJson filename → IsReadIn filename none .json
  | rules : ¬ EndsInJson filename → IsReadIn filename none .rules

theorem endsInJson_iff (filename : String) :
    EndsInJson filename ↔
      endsWith ".json".toList (filename.toList.map Char.toLower) = true := by
  rw [endsWith, List.isSuffixOf_iff_suffix]
  constructor
  · rintro ⟨stem, ending, hname, hending⟩
    rw [hname, List.map_append, hending]
    exact List.suffix_append _ _
  · rintro ⟨stem, hname⟩
    obtain ⟨front, ending, hsplit, -, hending⟩ := List.map_eq_append_iff.mp hname.symm
    exact ⟨front, ending, hsplit, hending⟩

theorem isReadIn_resolvedFormat (u : Upload) : IsReadIn u.filename u.format u.resolvedFormat := by
  obtain ⟨filename, data, format⟩ := u
  cases format with
  | some f => exact .named f
  | none =>
      by_cases hjson : endsWith ".json".toList (filename.toList.map Char.toLower) = true
      · simp only [Upload.resolvedFormat, if_pos hjson]
        exact .json ((endsInJson_iff filename).mpr hjson)
      · simp only [Upload.resolvedFormat, if_neg hjson]
        exact .rules (mt (endsInJson_iff filename).mp hjson)

theorem IsReadIn.eq_resolvedFormat {u : Upload} {f : Format} (h : IsReadIn u.filename u.format f) :
    f = u.resolvedFormat := by
  obtain ⟨filename, data, named⟩ := u
  cases h with
  | named f => rfl
  | json hname => exact (if_pos ((endsInJson_iff filename).mp hname)).symm
  | rules hname => exact (if_neg (mt (endsInJson_iff filename).mpr hname)).symm

end RuleDesk.Api
