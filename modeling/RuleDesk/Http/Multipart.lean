import RuleDesk.Http.Disposition

/-!
# Multipart forms

The body of a multipart form is a sequence of parts between boundary lines. A part has header lines,
an empty line and data; the name and file name of a part stand in its content disposition, and what
its data are stands in its content type. The last boundary is marked by two dashes behind it.

A body that breaks off is kept as far as it could be read, so that whoever takes the parts in order
meets each whole part before the break.
-/

set_option autoImplicit false

namespace RuleDesk.Http

open RuleDesk.Text

/-- What the header of a part says. -/
structure PartHeader where
  name : Option String
  filename : Option String
  contentType : Option MediaType
  deriving DecidableEq, Repr

/-- A part of a form. -/
structure Part where
  header : PartHeader
  data : List UInt8
  deriving DecidableEq, Repr

/-- How a body ends: with its last boundary, between parts, or in the data of a part. -/
inductive Ending where
  | complete
  | broken
  | cutOff (header : PartHeader)
  deriving DecidableEq, Repr

/-- The parts of a body, in order, and how it ends. -/
structure Multipart where
  parts : List Part
  ending : Ending
  deriving DecidableEq, Repr

/-- Carriage return and line feed. -/
def crlf : List UInt8 := [0x0D, 0x0A]

/-! ## Part headers -/

/-- The text of a header value without flaws. -/
def headerText? (value : List Glyph) : Option String :=
  (flawless? value).map String.ofList

/-- Read the header of a part, given with the empty line behind it. -/
def PartHeader.ofOctets? (octets : List UInt8) : Option PartHeader := do
  let headers ← readHeaders? octets
  let disposition := headerValue? "content-disposition" headers
  let contentType := (headerValue? "content-type" headers).bind headerText?
  return {
    name := disposition.bind (attribute? "name")
    filename := disposition.bind (attribute? "filename")
    contentType := contentType.bind MediaType.ofText? }

/-! ## Bodies -/

/-- Nothing more to deliver. -/
def Multipart.stop (ending : Ending) : Multipart :=
  ⟨[], ending⟩

/-- A body with one more part before it. -/
def Multipart.cons (part : Part) (m : Multipart) : Multipart :=
  ⟨part :: m.parts, m.ending⟩

/-- Read from behind a boundary; `fuel` bounds the number of parts. -/
def readParts (boundary : List UInt8) : Nat → List UInt8 → Multipart
  | 0, _ => .stop .broken
  | fuel + 1, octets =>
      if octets.take 2 = [0x2D, 0x2D] then .stop .complete
      else
        match octets.dropWhile (fun b => b == 0x20 || b == 0x09) with
        | 0x0D :: 0x0A :: rest =>
            match cutAround? (crlf ++ crlf) rest with
            | none => .stop .broken
            | some (lines, rest) =>
                match PartHeader.ofOctets? (lines ++ crlf ++ crlf) with
                | none => .stop .broken
                | some header =>
                    match cutAround? (crlf ++ boundary) rest with
                    | none => .stop (.cutOff header)
                    | some (data, rest) => .cons ⟨header, data⟩ (readParts boundary fuel rest)
        | _ => .stop .broken

/-- The parts of a body with a given boundary. What stands before the first boundary is passed
over. -/
def Multipart.ofOctets (boundary : String) (octets : List UInt8) : Multipart :=
  let marker := 0x2D :: 0x2D :: toOctets boundary.toList
  match cutAround? marker octets with
  | some (_, rest) => readParts marker (octets.length + 1) rest
  | none => .stop .broken

end RuleDesk.Http
