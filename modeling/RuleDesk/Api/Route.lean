import RuleDesk.Http.Message
import RuleDesk.Text.Pieces

/-!
# Routes

The paths that the server knows and the methods that each of them allows. A path is matched segment
by segment, before anything in it is decoded; a literal segment goes before a parameter, and a
parameter that ends a path is not empty.
-/

set_option autoImplicit false

namespace RuleDesk.Api

open RuleDesk.Http
open RuleDesk.Text

/-- A known path, with its parameter as it was sent. -/
inductive Route where
  | health
  | build
  | validate
  | templates
  | template (name : List Char)
  | exportRules
  | exportProject
  | importRules
  | importProject
  | workspace
  | addRule
  | addTemplate (name : List Char)
  | importInto
  | selection
  | selectAll
  | toggle (index : List Char)
  | duplicate
  | deleteSelected
  | edit
  | preview (index : List Char)
  | collisions
  | text
  | exportWorkspace
  deriving DecidableEq, Repr

/-- The route of a path under the workspace. -/
def Route.ofWorkspacePath? (segments : List String) : Option Route :=
  match segments with
  | [] => some .workspace
  | ["rules"] => some .addRule
  | ["rules", index, "preview"] => some (.preview index.toList)
  | ["templates", name] => if name.isEmpty then none else some (.addTemplate name.toList)
  | ["import"] => some .importInto
  | ["selection"] => some .selection
  | ["selection", "all"] => some .selectAll
  | ["selection", index] => if index.isEmpty then none else some (.toggle index.toList)
  | ["duplicate"] => some .duplicate
  | ["delete"] => some .deleteSelected
  | ["edit"] => some .edit
  | ["collisions"] => some .collisions
  | ["text"] => some .text
  | ["export"] => some .exportWorkspace
  | _ => none

/-- The route of a path given by its segments. -/
def Route.ofSegments? (segments : List String) : Option Route :=
  match segments with
  | ["", "health", "live"] => some .health
  | "" :: "api" :: "v1" :: rest =>
      match rest with
      | ["rules", "build"] => some .build
      | ["rules", "validate"] => some .validate
      | ["templates"] => some .templates
      | ["templates", name] => if name.isEmpty then none else some (.template name.toList)
      | ["export", "rules"] => some .exportRules
      | ["export", "json"] => some .exportProject
      | ["import", "rules"] => some .importRules
      | ["import", "json"] => some .importProject
      | "workspace" :: rest => Route.ofWorkspacePath? rest
      | _ => none
  | _ => none

/-- The route of a path. -/
def Route.ofPath? (path : List Char) : Option Route :=
  Route.ofSegments? ((pieces '/' path).map String.ofList)

/-- The methods that a route allows, as they are listed to a client that used another one. -/
def Route.methods : Route → List Method
  | .health | .templates | .template _ | .workspace | .edit | .preview _ | .collisions | .text
  | .exportWorkspace => [.get, .head]
  | .selection => [.post, .delete]
  | _ => [.post]

/-- The name of a method. -/
def methodName : Method → String
  | .get => "GET"
  | .head => "HEAD"
  | .post => "POST"
  | .delete => "DELETE"
  | .options => "OPTIONS"
  | .other name => name

/-- The allowed methods as a header value. -/
def Route.allow (r : Route) : String :=
  ",".intercalate (r.methods.map methodName)

end RuleDesk.Api
