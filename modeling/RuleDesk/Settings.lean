import RuleDesk.Text.Numeral

/-!
# Settings

Where the server listens, how large a request may be, and which origin may read its answers. Each
setting is taken from a variable of the environment; one that is unset, or that is no number where
a number is needed, has a default.
-/

set_option autoImplicit false

namespace RuleDesk

open RuleDesk.Text

/-- The settings of the server. -/
structure Settings where
  host : String := "0.0.0.0"
  port : UInt16 := 5000
  maxUploadBytes : Nat := 2097152
  frontendUrl : String := "http://localhost:5173"
  deriving DecidableEq, Repr

namespace Settings

/-- A number of at most `limit` from a variable, or a default. -/
def number (lookup : String → Option String) (name : String) (limit default : Nat) : Nat :=
  match lookup name with
  | some text => (readNat? limit text.toList).getD default
  | none => default

/-- The settings of an environment. -/
def ofEnvironment (lookup : String → Option String) : Settings :=
  let defaults : Settings := {}
  { host := (lookup "BACKEND_HOST").getD defaults.host
    port := UInt16.ofNat (number lookup "BACKEND_PORT" 65535 defaults.port.toNat)
    maxUploadBytes :=
      number lookup "MAX_UPLOAD_BYTES" 18446744073709551615 defaults.maxUploadBytes
    frontendUrl := (lookup "FRONTEND_URL").getD defaults.frontendUrl }

/-- A character that may stand in a header value. -/
def isHeaderValueCharacter (c : Char) : Bool :=
  (0x20 ≤ c.toNat && c.toNat != 0x7F) || c == '\t'

/-- The origin that may read the answers: the one that is set, or any if that is no header value.
-/
def allowedOrigin (s : Settings) : String :=
  if s.frontendUrl.toList.all isHeaderValueCharacter then s.frontendUrl else "*"

end Settings

end RuleDesk
