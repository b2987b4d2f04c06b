import RuleDesk.Export
import RuleDesk.Json.Value

/-!
# Requests and responses

What the server is asked and what it answers, as far as the answer does not depend on the wire.
-/

set_option autoImplicit false

namespace RuleDesk.Http

/-- A request method. -/
inductive Method where
  | get
  | head
  | post
  | delete
  | options
  | other (name : String)
  deriving DecidableEq, Repr

/-- The method of a given name. -/
def Method.ofName (name : String) : Method :=
  match name with
  | "GET" => .get
  | "HEAD" => .head
  | "POST" => .post
  | "DELETE" => .delete
  | "OPTIONS" => .options
  | _ => .other name

/-- A request. The target is the path and, behind a question mark, the query; a scheme and an
authority may stand before them. -/
structure Request where
  method : Method
  target : String
  contentType : Option String := none
  body : List UInt8 := []
  deriving DecidableEq, Repr

/-- A character that may stand in a scheme. -/
def isSchemeCharacter (c : Char) : Bool :=
  c.isAlphanum || c == '+' || c == '-' || c == '.' || c == '~'

/-- A character that ends an authority. -/
def endsAuthority (c : Char) : Bool :=
  c == '/' || c == '?' || c == '#'

/-- What stands behind the scheme and the authority of a target that begins with them, and a target
that does not as it is. -/
def Request.reference (r : Request) : List Char :=
  let target := r.target.toList
  match target.dropWhile isSchemeCharacter with
  | ':' :: '/' :: '/' :: rest => rest.dropWhile (fun c => !endsAuthority c)
  | _ => target

/-- The path, without query and fragment. A target that consists of scheme and authority only has
the path of a single slash. -/
def Request.path (r : Request) : List Char :=
  match r.reference.takeWhile (fun c => c != '?' && c != '#') with
  | [] => ['/']
  | path => path

/-- The query; empty if there is none. -/
def Request.query (r : Request) : List Char :=
  match (r.reference.takeWhile (· != '#')).dropWhile (· != '?') with
  | [] => []
  | _ :: query => query

/-- The content of a response. -/
inductive Content where
  | none
  | text (body : String)
  | json (body : Json.Value)
  | file (body : Attachment)
  deriving Repr

/-- The content as far as it shows in the headers alone. -/
def Content.headersOnly : Content → Content
  | .file attachment => .file { attachment with body := "" }
  | _ => .none

/-- A response: its status, the methods that the path allows if the request's is none of them, the
origin that may read it, and its content. -/
structure Response where
  status : Nat
  allow : Option String := none
  origin : String
  content : Content := .none
  deriving Repr

end RuleDesk.Http
