import RuleDesk.Api.Server
import RuleDesk.Proofs.Api.Uploads
import RuleDesk.Proofs.Http.Sections

/-!
# Imports into the workspace

What an import does depends on the file of its form and on the format in which the file is read, and
so the order in which the parts of the form were sent makes no difference to it.
-/

set_option autoImplicit false

namespace RuleDesk.Api

open RuleDesk.Http
open RuleDesk.Text

/-- A request to import into the workspace, small enough to be read, whose form has given parts. -/
structure IsImport (settings : Settings) (request : Request) (parts : List Part) : Prop where
  method : request.method = .post
  route : Route.ofPath? request.path = some .importInto
  fits : request.body.length ≤ settings.maxUploadBytes
  parts : ∃ boundary,
    (request.contentType.bind MediaType.ofText?).bind MediaType.formBoundary? = some boundary ∧
    Multipart.ofOctets boundary request.body = ⟨parts, .complete⟩

/-- The response to an import and the workspace after it, by what was read from the file: the rules
are added behind those that are there, or the whole file is refused. -/
def importOutcome (settings : Settings) (w : Workspace) :
    Except ProjectError Imported → Response × Workspace
  | .ok imported =>
      ({ status := 200, origin := settings.allowedOrigin, content := answer imported.toJson },
        { w with rules := w.rules ++ imported.rules })
  | .error e =>
      ({ status := 400, origin := settings.allowedOrigin,
         content := .json (Failure.validation e.longMessage).toJson },
        w)

variable {settings : Settings} {now : Timestamp} {w : Workspace} {request : Request}
  {parts parts' : List Part} {filename : String} {data : List UInt8} {format : Option Format}

theorem orFailure_eq_ok_iff {α : Type} {x : Except Failure α} {a : α} :
    orFailure x = .ok a ↔ x = .ok a := by
  cases x with
  | error f => exact iff_of_false (fun h => by cases h) (fun h => by cases h)
  | ok b =>
      show Except.ok b = Except.ok a ↔ _
      rw [Except.ok.injEq, Except.ok.injEq]

/-- A form that is small enough and complete is read as what its parts upload. -/
theorem upload_eq_ok_iff {u : Upload} :
    Context.upload { settings, now, request } = .ok u ↔
      request.body.length ≤ settings.maxUploadBytes ∧ ∃ boundary parts,
        (request.contentType.bind MediaType.ofText?).bind MediaType.formBoundary? =
          some boundary ∧
        Multipart.ofOctets boundary request.body = ⟨parts, .complete⟩ ∧ Uploads parts u := by
  unfold Context.upload
  split
  · next hnone => simp [hnone]
  · next boundary hboundary =>
      by_cases hsize : request.body.length ≤ settings.maxUploadBytes
      · have hsmall : Context.isTooLarge { settings, now, request } = false := by
          simpa [Context.isTooLarge] using hsize
        simp only [hsmall, Bool.false_eq_true, if_false, hboundary, orFailure_eq_ok_iff,
          Upload.ofMultipart_eq_ok_iff]
        constructor
        · rintro ⟨hending, huploads⟩
          exact ⟨hsize, boundary, _, rfl, congrArg (Multipart.mk _) hending, huploads⟩
        · rintro ⟨-, other, parts, hsame, hparts, huploads⟩
          obtain rfl := Option.some.inj hsame
          rw [hparts]
          exact ⟨rfl, huploads⟩
      · have hlarge : Context.isTooLarge { settings, now, request } = true := by
          simpa [Context.isTooLarge] using hsize
        simp [hlarge, hsize]

/-- Moving the octets of the body brings the parts into any order. -/
theorem IsImport.exists_reordered (h : IsImport settings request parts)
    (hperm : parts'.Perm parts) :
    ∃ body : List UInt8, body.Perm request.body ∧
      IsImport settings { request with body } parts' := by
  obtain ⟨boundary, hboundary, hparts⟩ := h.parts
  obtain ⟨body, hmoved, hparts'⟩ := Multipart.exists_reordered hparts hperm
  exact ⟨body, hmoved, h.method, h.route, hmoved.length_eq.trans_le h.fits, boundary, hboundary,
    hparts'⟩

theorem handle_importInto {c : Context} {upload : Upload} (h : c.upload = .ok upload) :
    handle c w .importInto =
      match importFile upload.resolvedFormat upload.data with
      | .ok imported => .ok (answer imported.toJson, w.extend imported.rules)
      | .error e => .error (.failure (.validation e.longMessage)) := by
  rw [handle, h]
  change (orFailure (upload.read upload.resolvedFormat) >>= fun imported =>
    .ok (answer imported.toJson, w.extend imported.rules)) = _
  rw [Upload.read]
  cases importFile upload.resolvedFormat upload.data with
  | ok imported => rfl
  | error e => rfl

/-- An import reads its file in the format that counts, and nothing else matters to it. -/
theorem IsImport.respond_eq (himport : IsImport settings request parts)
    (hform : IsImportForm parts filename data format) :
    respond settings now w request = importOutcome settings w
      (importFile (Upload.resolvedFormat ⟨filename, data, format⟩) data) := by
  obtain ⟨boundary, hboundary, hparts⟩ := himport.parts
  have hupload : Context.upload { settings, now, request } = .ok ⟨filename, data, format⟩ :=
    upload_eq_ok_iff.mpr ⟨himport.fits, boundary, parts, hboundary, hparts, hform.uploads⟩
  simp only [respond, himport.route, himport.method, handle_importInto hupload]
  cases importFile (Upload.resolvedFormat ⟨filename, data, format⟩) data with
  | ok imported => rfl
  | error e => rfl

/-- The order of the parts makes no difference to an import. The file of a form is read in the
format that the form names, or else as a project exactly if its name ends in `.json` in either case;
its rules are then added, or the file is refused. Every order of the parts is the one of some body
of the same octets, and every import whose form has the parts in another order has the same response
and leaves the same workspace. -/
theorem respond_reordered_import (himport : IsImport settings request parts)
    (hform : IsImportForm parts filename data format) :
    (∃ chosen, IsReadIn filename format chosen ∧
      respond settings now w request = importOutcome settings w (importFile chosen data)) ∧
    ∀ parts' : List Part, parts'.Perm parts →
      (∃ body : List UInt8, body.Perm request.body ∧
        IsImport settings { request with body } parts') ∧
      ∀ request', IsImport settings request' parts' →
        respond settings now w request' = respond settings now w request := by
  refine ⟨⟨_, isReadIn_resolvedFormat ⟨filename, data, format⟩, himport.respond_eq hform⟩, ?_⟩
  intro parts' hperm
  refine ⟨himport.exists_reordered hperm, ?_⟩
  intro request' himport'
  rw [himport.respond_eq hform, himport'.respond_eq (hform.perm hperm)]

theorem respond_reordered_import_note :
    let note : Part := ⟨⟨some "note", none, none⟩, []⟩
    let file : Part := ⟨⟨some "file", some "a.JSON", none⟩, toOctets "[[\"log\"]]".toList⟩
    let noteLines := ["--b", "Content-Disposition: form-data; name=note", "", ""]
    let fileLines :=
      ["--b", "Content-Disposition: form-data; name=file; filename=a.JSON", "", "[[\"log\"]]"]
    let request (lines : List String) : Request :=
      { method := .post, target := "/api/v1/workspace/import"
        contentType := some "multipart/form-data; boundary=b"
        body := (lines ++ ["--b--"]).flatMap fun line => toOctets line.toList ++ crlf }
    let noteFirst := request (noteLines ++ fileLines)
    let fileFirst := request (fileLines ++ noteLines)
    let now : Timestamp := ⟨2024, 5, 17, 9, 30, 0, 0⟩
    IsImport {} noteFirst [note, file] ∧ IsImport {} fileFirst [file, note] ∧
      respond {} now {} fileFirst = respond {} now {} noteFirst ∧
      (respond {} now {} fileFirst).2 = { rules := [{ action := .log }] } := by
  intro note file noteLines fileLines request noteFirst fileFirst now
  have hnote : IsImport {} noteFirst [note, file] :=
    ⟨by decide, by decide +kernel, by decide +kernel, "b", by decide +kernel, by decide +kernel⟩
  have hfile : IsImport {} fileFirst [file, note] :=
    ⟨by decide, by decide +kernel, by decide +kernel, "b", by decide +kernel, by decide +kernel⟩
  have hform : IsImportForm [note, file] "a.JSON" file.data none :=
    ⟨by decide +kernel, by decide, by decide +kernel⟩
  have hsame : respond {} now {} fileFirst = respond {} now {} noteFirst :=
    ((respond_reordered_import hnote hform).2 [file, note] (List.Perm.swap note file [])).2
      fileFirst hfile
  exact ⟨hnote, hfile, hsame, by decide +kernel⟩

end RuleDesk.Api
