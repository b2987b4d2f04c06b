import RuleDesk.Api.Failure
import RuleDesk.Http.Multipart
import RuleDesk.Import
import RuleDesk.Text.Charset

/-!
# Uploads

A multipart form uploads a file in its part `file` and may name the file's format in its part
`format`. The parts are taken in order: of two parts of one name the later counts, parts of other
names are passed over, and the first thing that is wrong ends the reading.
-/

set_option autoImplicit false

namespace RuleDesk.Api

open RuleDesk.Http
open RuleDesk.Text

/-- An uploaded file with its name, and the format that the form names. -/
structure Upload where
  filename : String
  data : List UInt8
  format : Option Format
  deriving DecidableEq, Repr

/-- What the parts so far have given. -/
structure UploadDraft where
  file : Option (String × List UInt8) := none
  format : Option Format := none
  deriving DecidableEq, Repr

/-- The failure of a body that breaks off, with what was being read. -/
def brokenBody (context : String) : Failure :=
  .validation s!"{context}: Error parsing `multipart/form-data` request"

/-- The name of a file part; it must not be empty. -/
def fileNameOf (h : PartHeader) : Except Failure String :=
  match h.filename with
  | none | some "" => .error (.validation "No file selected")
  | some name => .ok name

/-- The text of a part, in the charset that its content type names or else in UTF-8. -/
def textOf (part : Part) : String :=
  let label := part.header.contentType.bind (·.param? "charset")
  String.ofList (((label.bind Charset.ofLabel?).getD .utf8).decode part.data)

/-- Take one part. -/
def UploadDraft.take (u : UploadDraft) (part : Part) : Except Failure UploadDraft :=
  match part.header.name with
  | some "file" => do
      let name ← fileNameOf part.header
      return { u with file := some (name, part.data) }
  | some "format" =>
      let word := textOf part
      match Vocabulary.ofWord? word with
      | some format => .ok { u with format := some format }
      | none => .error (.validation s!"Invalid format '{word}'. Supported: rules, json")
  | _ => .ok u

/-- Take parts in order. -/
def UploadDraft.takeAll (u : UploadDraft) : List Part → Except Failure UploadDraft
  | [] => .ok u
  | part :: rest => do
      let u ← u.take part
      u.takeAll rest

/-- Take the end of the form. -/
def UploadDraft.finish (u : UploadDraft) : Ending → Except Failure Upload
  | .complete =>
      match u.file with
      | some (filename, data) => .ok ⟨filename, data, u.format⟩
      | none => .error (.validation "No file uploaded")
  | .broken => .error (brokenBody "Multipart error")
  | .cutOff header =>
      match header.name with
      | some "file" => do
          let _ ← fileNameOf header
          .error (brokenBody "Failed to read file")
      | some "format" => .error (brokenBody "Failed to read format")
      | _ => .error (brokenBody "Multipart error")

/-- The upload of a form. -/
def Upload.ofMultipart (m : Multipart) : Except Failure Upload := do
  let u ← UploadDraft.takeAll {} m.parts
  u.finish m.ending

/-- The format of an upload: the one that the form names, and else the one that the file name tells.
-/
def Upload.resolvedFormat (u : Upload) : Format :=
  match u.format with
  | some format => format
  | none =>
      if endsWith ".json".toList (u.filename.toList.map Char.toLower) then .json else .rules

/-- Read an upload as a file of a given format. -/
def Upload.read (u : Upload) (format : Format) : Except Failure Imported :=
  (importFile format u.data).mapError fun e => .validation e.longMessage

end RuleDesk.Api
