import RuleDesk.Json.Value
import RuleDesk.WorkspaceError

/-!
# Failures

A request that reaches its handler and cannot be done is answered with a status, a code and a
message, in the same envelope as an answer.
-/

set_option autoImplicit false

namespace RuleDesk.Api

open RuleDesk.Json

/-- Why a request cannot be done. -/
inductive Failure where
  | notFound (message : String)
  | validation (message : String)
  | index (message : String)
  | payloadTooLarge (message : String)
  | internal (message : String)
  deriving DecidableEq, Repr

namespace Failure

/-- Whether the failure is that something is not there. -/
def isNotFound : Failure → Bool
  | notFound _ => true
  | _ => false

/-- The failure of a workspace operation. -/
def ofWorkspace : WorkspaceError → Failure
  | .input cause => validation cause.message
  | .position i n => index (WorkspaceError.position i n).message

/-- The status of the answer. -/
def status : Failure → Nat
  | notFound _ => 404
  | validation _ => 400
  | index _ => 400
  | payloadTooLarge _ => 413
  | internal _ => 500

/-- The code in the answer. -/
def code : Failure → String
  | notFound _ => "NOT_FOUND"
  | validation _ => "VALIDATION_ERROR"
  | index _ => "INDEX_ERROR"
  | payloadTooLarge _ => "PAYLOAD_TOO_LARGE"
  | internal _ => "INTERNAL_ERROR"

/-- The message in the answer; what went wrong inside does not show. -/
def message : Failure → String
  | notFound m => m
  | validation m => m
  | index m => m
  | payloadTooLarge m => m
  | internal _ => "An internal error occurred"

/-- The failure as one line of text. -/
def display : Failure → String
  | notFound m => s!"Not found: {m}"
  | validation m => s!"Validation error: {m}"
  | index m => s!"Index error: {m}"
  | payloadTooLarge m => s!"Payload too large: {m}"
  | internal m => s!"Internal error: {m}"

/-- The envelope of a failure. -/
def toJson (f : Failure) : Value :=
  .object
    [ ("data", .null),
      ("error", .object [("code", .string f.code), ("message", .string f.message)]) ]

end Failure

/-- The envelope of an answer. -/
def envelope (data : Value) : Value :=
  .object [("data", data), ("error", .null)]

end RuleDesk.Api
