/-!
# Media types

The value of a content type header: a type and a subtype, of which a part behind a plus sign is the
suffix, and parameters behind semicolons. A parameter's value is a token or stands in double
quotes. Names are compared in lower case.
-/

set_option autoImplicit false

namespace RuleDesk.Http

/-- A media type. -/
structure MediaType where
  type : String
  subtype : String
  suffix : Option String
  params : List (String × String)
  deriving DecidableEq, Repr

/-- A character of a token. -/
def isTokenCharacter (c : Char) : Bool :=
  c.isAlphanum || "!#$%&'*+-.^_`|~".toList.contains c

/-- A character that may stand in a header that is read as text. -/
def isHeaderCharacter (c : Char) : Bool :=
  (0x20 ≤ c.toNat && c.toNat < 0x7F) || c == '\t'

/-- Text in lower case; only ASCII letters change. -/
def lower (s : List Char) : String :=
  String.ofList (s.map Char.toLower)

/-- The value of a parameter in quotes and what follows the closing quote. The first character
counts as part of the value even if it is a quote; a tab may not stand in it. -/
def quotedValue? : List Char → Option (List Char × List Char)
  | [] => none
  | first :: rest =>
      let (more, after) := rest.span (· != '"')
      match after with
      | '"' :: after => if (first :: more).contains '\t' then none else some (first :: more, after)
      | _ => none

/-- Read parameters from behind a semicolon; `fuel` bounds their number. -/
def mediaParams? : Nat → List Char → Option (List (String × String))
  | 0, _ => none
  | fuel + 1, s =>
      match s.dropWhile (· == ' ') with
      | [] => some []
      | s =>
          let (name, rest) := s.span isTokenCharacter
          match rest with
          | '=' :: '"' :: rest =>
              if name.isEmpty then none
              else do
                let (value, rest) ← quotedValue? rest
                let more ←
                  match rest.dropWhile (· == ' ') with
                  | [] => some []
                  | ';' :: rest => mediaParams? fuel rest
                  | _ => none
                return (lower name, String.ofList value) :: more
          | '=' :: rest =>
              let (value, rest) := rest.span isTokenCharacter
              if name.isEmpty then none
              else
                match rest with
                | [] => some [(lower name, String.ofList value)]
                | ';' :: rest =>
                    if value.isEmpty then none
                    else do
                      let more ← mediaParams? fuel rest
                      return (lower name, String.ofList value) :: more
                | _ => none
          | _ => none

/-- Split a subtype at its last plus sign, if that is not its first character. -/
def splitSuffix (s : List Char) : List Char × Option (List Char) :=
  match s.reverse.span (· != '+') with
  | (suffix, '+' :: before) =>
      if before.isEmpty then (s, none) else (before.reverse, some suffix.reverse)
  | _ => (s, none)

/-- Read a media type. -/
def MediaType.ofText? (text : String) : Option MediaType :=
  let s := text.toList
  if !s.all isHeaderCharacter then none
  else
    let (type, rest) := s.span isTokenCharacter
    match rest with
    | '/' :: rest =>
        let (subtype, rest) := rest.span isTokenCharacter
        let (subtype, suffix) := splitSuffix subtype
        let params :=
          match rest with
          | [] => some []
          | ';' :: rest => if subtype.isEmpty then none else mediaParams? (s.length + 1) rest
          | _ => none
        if type.isEmpty then none
        else params.map fun params =>
          { type := lower type, subtype := lower subtype, suffix := suffix.map lower, params }
    | _ => none

/-- JSON, or a format that is written in JSON. -/
def MediaType.isJson (m : MediaType) : Bool :=
  m.type == "application" && (m.subtype == "json" || m.suffix == some "json")

/-- The first parameter of a given name. -/
def MediaType.param? (m : MediaType) (name : String) : Option String :=
  (m.params.find? (fun (other, _) => other == name)).map (·.2)

/-- The boundary of a multipart form. -/
def MediaType.formBoundary? (m : MediaType) : Option String :=
  if m.type == "multipart" && m.subtype == "form-data" then m.param? "boundary" else none

end RuleDesk.Http
