import RuleDesk.Api.Server
import RuleDesk.Workspace.InPlace

/-!
# Requests in place

The server holds one workspace, and its handlers work on that workspace where it is. Here a handler
is the sequence of its steps: it reads what the request carries, has an operation on the held
workspace performed, looks at the workspace and words the answer. Any step may fail, and what the
steps before it have done stays done: nothing is taken back for a request that fails.
-/

set_option autoImplicit false

namespace RuleDesk.Api

open RuleDesk.Http
open RuleDesk.Json
open RuleDesk.Text

/-- Why a handler on a held workspace failed. -/
inductive ServingError where
  | refused (refusal : Refusal)
  /-- A position was used that is not there, or an operation answered with something else than it
  should. No handler is meant to fail in this way. -/
  | broken
  deriving DecidableEq, Repr

/-- Steps of a handler on a held workspace, which may fail at any of them. -/
abbrev Serving (α : Type) : Type :=
  EStateM ServingError Workspace α

namespace Serving

/-! ## Single steps -/

/-- Refuse the request. -/
def refuse {α : Type} (refusal : Refusal) : Serving α :=
  throw (.refused refusal)

/-- Go on with what was read from the request, or refuse it. -/
def orRefuse {α : Type} : Except Refusal α → Serving α
  | .ok a => return a
  | .error refusal => refuse refusal

/-- Why a handler fails whose operation fails. -/
def causeOf : OperationError → ServingError
  | .refused cause => .refused (.failure (.ofWorkspace cause))
  | .unknownTemplate name => .refused (.failure (.notFound s!"Template '{name}' not found"))
  | .unreadable cause => .refused (.failure (.validation cause.longMessage))
  | .outOfRange _ => .broken

/-- Take the steps of an operation. If one of them fails, those before it stay taken. -/
def operate {α : Type} (steps : InPlace α) : Serving α := fun w =>
  match steps.run w with
  | .ok a w' => .ok a w'
  | .error e w' => .error (causeOf e) w'

end Serving

open Serving

/-! ## Handlers -/

/-- Handle a request of an allowed method for a route, step by step. -/
def handleInPlace (c : Context) : Route → Serving Content
  | .health => return .text "OK"
  | .build => do
      let r ← orRefuse (c.json Rule.schema.codec)
      return answer (.object [("rule_text", .string r.encode)])
  | .validate => do
      let r ← orRefuse (c.json Rule.schema.codec)
      return answer (reportJson r)
  | .templates => do
      let category ← orRefuse (c.parameter "category")
      return answer (Catalog.listing category)
  | .template name => do
      let name ← orRefuse (pathText name)
      let t ← orRefuse (findTemplate name)
      return answer t.toJson
  | .exportRules => do
      let rules ← orRefuse (c.json exportRequest.codec)
      orRefuse (exportFile rules .rules c.now)
  | .exportProject => do
      let rules ← orRefuse (c.json exportRequest.codec)
      orRefuse (exportFile rules .json c.now)
  | .importRules => do
      let upload ← orRefuse c.upload
      let imported ← orRefuse (orFailure (upload.read .rules))
      return answer imported.toJson
  | .importProject => do
      let upload ← orRefuse c.upload
      let imported ← orRefuse (orFailure (upload.read .json))
      return answer imported.toJson
  | .workspace => do
      let w ← get
      return answer w.view.toJson
  | .addRule => do
      let form ← orRefuse (c.json Form.schema.codec)
      let r ← orRefuse (orWorkspaceFailure form.accept)
      let .position index ← operate (InPlace.append r .enforced) | throw .broken
      return answer (ruleTextJson index r.encode)
  | .addTemplate name => do
      let name ← orRefuse (pathText name)
      let t ← orRefuse (findTemplate name)
      let .position index ← operate (InPlace.append t.rule .trusted) | throw .broken
      return answer (ruleTextJson index t.rule.encode)
  | .importInto => do
      let upload ← orRefuse c.upload
      let imported ← orRefuse (orFailure (upload.read upload.resolvedFormat))
      let _ ← operate (InPlace.extend imported.rules)
      return answer imported.toJson
  | .selection =>
      if c.request.method = .delete then do
        let _ ← operate InPlace.clearSelection
        let w ← get
        return answer (selectionJson w)
      else do
        let indices ← orRefuse (c.json selectRequest.codec)
        let _ ← operate (InPlace.select indices)
        let w ← get
        return answer (selectionJson w)
  | .selectAll => do
      let checked ← orRefuse (c.json selectAllRequest.codec)
      let _ ← operate (InPlace.selectAll checked)
      let w ← get
      return answer (selectionJson w)
  | .toggle index => do
      let index ← orRefuse (pathIndex index)
      let .flag selected ← operate (InPlace.toggle index) | throw .broken
      let w ← get
      let data :=
        [ ("index", .nat index), ("selected", .bool selected),
          ("selection", positionsJson w.selection) ]
      return answer (.object data)
  | .duplicate => do
      let .sids sids ← operate InPlace.duplicate | throw .broken
      let data :=
        [("sids", .array (sids.map fun sid => .nat sid.toNat)), ("count", .nat sids.length)]
      return answer (.object data)
  | .deleteSelected => do
      let .count removed ← operate InPlace.deleteSelected | throw .broken
      let w ← get
      return answer (.object [("removed", .nat removed), ("remaining", .nat w.length)])
  | .edit => do
      let r ← operate InPlace.editTarget
      return answer (Form.ofRule r).toJson
  | .preview index => do
      let index ← orRefuse (pathIndex index)
      let .text text ← operate (InPlace.showPreview index) | throw .broken
      return answer (ruleTextJson index text)
  | .collisions => do
      let w ← get
      return answer w.collisions.toJson
  | .text => do
      let w ← get
      return answer (.object [("count", .nat w.length), ("rule_text", .string w.text)])
  | .exportWorkspace => do
      let format ←
        match ← orRefuse (c.parameter "format") with
        | none => pure Format.rules
        | some word =>
            match Vocabulary.ofWord? word with
            | some format => pure format
            | none => refuse (.bare 400)
      let w ← get
      orRefuse (exportFile w.rules format c.now)

/-! ## Responses -/

/-- The response to a request, and the workspace that its handler leaves behind, whether it answers
or fails. A handler that breaks gives no response. -/
def respondInPlace (settings : Settings) (now : Timestamp) (w : Workspace) (request : Request) :
    Option Response × Workspace :=
  let origin := settings.allowedOrigin
  let route := Route.ofPath? request.path
  match request.method, route with
  | .options, route => (some { status := 200, allow := route.map Route.allow, origin }, w)
  | _, none => (some { status := 404, origin }, w)
  | method, some route =>
      if !route.methods.contains method then
        (some { status := 405, allow := some route.allow, origin }, w)
      else
        let shown (content : Content) : Content :=
          if method = .head then content.headersOnly else content
        match (handleInPlace { settings, now, request } route).run w with
        | .ok content w' => (some { status := 200, origin, content := shown content }, w')
        | .error (.refused (.bare status)) w' => (some { status, origin }, w')
        | .error (.refused (.failure f)) w' =>
            (some { status := f.status, origin, content := shown (.json f.toJson) }, w')
        | .error .broken w' => (none, w')

/-- The workspace that is held after some requests, each at its time, one after the other. -/
def attended (settings : Settings) (visits : List (Timestamp × Request)) : Workspace :=
  visits.foldl (fun w visit => (respondInPlace settings visit.1 w visit.2).2) .empty

end RuleDesk.Api
