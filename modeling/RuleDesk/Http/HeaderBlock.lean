import RuleDesk.Http.MediaType
import RuleDesk.Text.Pieces
import RuleDesk.Text.Utf8

/-!
# Header blocks

Header lines with an empty line behind them. A line holds a name, a colon and a value; it ends with
a line feed, before which a carriage return may stand. A name is a token, and a value holds no
control but tabs; its octets need not be text. Of two lines with one name the later counts.
-/

set_option autoImplicit false

namespace RuleDesk.Http

open RuleDesk.Text

/-- A header line: its name in lower case, and its value without the blanks around it. -/
structure HeaderLine where
  name : String
  value : List Glyph
  deriving DecidableEq, Repr

/-- The most lines that a block may have. -/
def headerLimit : Nat := 32

/-- A space or a tab. -/
def isLineBlank (g : Glyph) : Bool :=
  g == .char ' ' || g == .char '\t'

/-- A control that may not stand in a header value. -/
def isLineControl : Glyph → Bool
  | .char c => (c.toNat < 0x20 && c != '\t') || c.toNat == 0x7F
  | .flaw _ => false

/-- Read a header line; none if it is malformed. -/
def HeaderLine.ofGlyphs? (line : List Glyph) : Option HeaderLine := do
  let (before, value) ← cutAround? [.char ':'] line
  let name ← flawless? before
  if name.isEmpty || !name.all isTokenCharacter || value.any isLineControl then none
  else some ⟨lower name, strip isLineBlank value⟩

/-- A line without the carriage return at its end. -/
def dropReturn (line : List Glyph) : List Glyph :=
  if line.getLast? = some (.char '\r') then line.dropLast else line

/-- The header lines before the first empty line; none if one is malformed or there is no empty
line. -/
def headerLines? : List (List Glyph) → Option (List HeaderLine)
  | [] => none
  | line :: rest =>
      if (dropReturn line).isEmpty then some []
      else do
        let header ← HeaderLine.ofGlyphs? (dropReturn line)
        let headers ← headerLines? rest
        return header :: headers

/-- Read a header block. -/
def readHeaders? (octets : List UInt8) : Option (List HeaderLine) := do
  let headers ← headerLines? (piecesBy (· == .char '\n') (glyphs octets))
  if headers.length ≤ headerLimit then some headers else none

/-- The value of the last line of a given name. -/
def headerValue? (name : String) (headers : List HeaderLine) : Option (List Glyph) :=
  (headers.reverse.find? (fun header => header.name == name)).map (·.value)

end RuleDesk.Http
