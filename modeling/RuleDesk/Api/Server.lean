import RuleDesk.Api.Route
import RuleDesk.Api.Upload
import RuleDesk.Catalog
import RuleDesk.Http.Encoding
import RuleDesk.Settings
import RuleDesk.Validation.Report
import RuleDesk.Workspace.Collisions
import RuleDesk.Workspace.View

/-!
# The server

A request is routed, what it carries is read, and then it is handled. A handler gives an answer and
the workspace after it at once, or it fails, and then the workspace is taken to be the one before.
The steps that a handler takes on a held workspace are in `RuleDesk.Api.InPlace`, where a failure
takes nothing back; that they come to the same is proved.
-/

set_option autoImplicit false

namespace RuleDesk.Api

open RuleDesk.Http
open RuleDesk.Json
open RuleDesk.Text

/-- Why a request is not answered: it is refused with a bare status before it reaches its handler,
or the handler fails. -/
inductive Refusal where
  | bare (status : Nat)
  | failure (f : Failure)
  deriving DecidableEq, Repr

/-- The answer of a handler and the workspace after it. -/
abbrev Handled := Except Refusal (Content × Workspace)

/-- What a handler may look at besides the workspace. -/
structure Context where
  settings : Settings
  now : Timestamp
  request : Request
  deriving Repr

/-! ## Reading requests -/

/-- Fail with the failure of a workspace operation. -/
def orWorkspaceFailure {α : Type} (result : Except WorkspaceError α) : Except Refusal α :=
  result.mapError fun e => .failure (.ofWorkspace e)

/-- Fail with a failure. -/
def orFailure {α : Type} (result : Except Failure α) : Except Refusal α :=
  result.mapError .failure

/-- Whether the body is larger than the settings allow. -/
def Context.isTooLarge (c : Context) : Bool :=
  c.settings.maxUploadBytes < c.request.body.length

/-- Read the body as JSON. A media type that is not JSON, a body that is too large, data that do not
fit and text that breaks are refused, in this order; of the last two the one that comes first. -/
def Context.json {β : Type} (c : Context) (codec : Codec β) : Except Refusal β :=
  match c.request.contentType.bind MediaType.ofText? with
  | none => .error (.bare 415)
  | some mediaType =>
      if !mediaType.isJson then .error (.bare 415)
      else if c.isTooLarge then .error (.bare 413)
      else
        match (Document.ofGlyphs (glyphs c.request.body)).scan codec with
        | .ok b => .ok b
        | .error .mismatched => .error (.bare 422)
        | .error .malformed => .error (.bare 400)

/-- Read the body as an upload. -/
def Context.upload (c : Context) : Except Refusal Upload :=
  match (c.request.contentType.bind MediaType.ofText?).bind MediaType.formBoundary? with
  | none => .error (.bare 400)
  | some boundary =>
      if c.isTooLarge then .error (.failure (.payloadTooLarge "Request payload is too large"))
      else orFailure (Upload.ofMultipart (Multipart.ofOctets boundary c.request.body))

/-- The value of a query parameter, which must not be repeated. -/
def Context.parameter (c : Context) (name : String) : Except Refusal (Option String) :=
  match (formPairs c.request.query).filter (fun (key, _) => key == name) with
  | [] => .ok none
  | [(_, value)] => .ok (some value)
  | _ => .error (.bare 400)

/-- The text of a path parameter. -/
def pathText (segment : List Char) : Except Refusal String :=
  match decodeSegment? segment with
  | some text => .ok text
  | none => .error (.bare 400)

/-- The number of a path parameter. -/
def pathIndex (segment : List Char) : Except Refusal Nat := do
  let text ← pathText segment
  match readNat? (UInt64.size - 1) text.toList with
  | some index => return index
  | none => .error (.bare 400)

/-! ## Request bodies -/

/-- Rules to export; without any, none are meant. -/
def exportRequest : Schema (List Rule) where
  title := "ExportRequest"
  blank := []
  fields := [.of "rules" (.list Rule.schema.codec) id fun rules _ => rules]

/-- Positions to select. -/
def selectRequest : Schema (List Nat) where
  title := "SelectRequest"
  blank := []
  fields := [(Field.of "indices" (.list .position) id fun indices _ => indices).needed]

/-- Whether to select all positions. -/
def selectAllRequest : Schema Bool where
  title := "SelectAllRequest"
  blank := false
  fields := [(Field.of "checked" .flag id fun checked _ => checked).needed]

/-! ## Answers -/

/-- An answer in its envelope. -/
def answer (data : Value) : Content :=
  .json (envelope data)

/-- A validation report with the text of its rule. -/
def reportJson (r : Rule) : Value :=
  let report := Validation.report r
  .object
    [ ("is_valid", .bool report.isValid),
      ("errors", .array (report.faults.map fun f => .string f.message)),
      ("warnings", .array (report.cautions.map fun c => .string c.message)),
      ("rule_text", .string r.encode) ]

/-- The selection after an operation on it. -/
def selectionJson (w : Workspace) : Value :=
  .object [("selection", positionsJson w.selection)]

/-- The position and the text of a rule that was added or is shown. -/
def ruleTextJson (index : Nat) (text : String) : Value :=
  .object [("index", .nat index), ("rule_text", .string text)]

/-- The template of a given name. -/
def findTemplate (name : String) : Except Refusal Template :=
  match Catalog.find? name with
  | some t => .ok t
  | none => .error (.failure (.notFound s!"Template '{name}' not found"))

/-- What is wrong with an export of rule text that has no rules. -/
def noRulesMessage : String := "No rules to export"

/-- Rules as a file of a given format. -/
def exportFile (rules : List Rule) (format : Format) (now : Timestamp) : Except Refusal Content :=
  match format with
  | .rules =>
      match rulesFile? rules now with
      | some file => .ok (.file file)
      | none => .error (.failure (.validation noRulesMessage))
  | .json => .ok (.file (projectFile rules now))

/-! ## Handlers -/

/-- Handle a request of an allowed method for a route; `HEAD` is handled as `GET`. -/
def handle (c : Context) (w : Workspace) : Route → Handled
  | .health => .ok (.text "OK", w)
  | .build => do
      let r ← c.json Rule.schema.codec
      return (answer (.object [("rule_text", .string r.encode)]), w)
  | .validate => do
      let r ← c.json Rule.schema.codec
      return (answer (reportJson r), w)
  | .templates => do
      let category ← c.parameter "category"
      return (answer (Catalog.listing category), w)
  | .template name => do
      let t ← findTemplate (← pathText name)
      return (answer t.toJson, w)
  | .exportRules => do
      let rules ← c.json exportRequest.codec
      return (← exportFile rules .rules c.now, w)
  | .exportProject => do
      let rules ← c.json exportRequest.codec
      return (← exportFile rules .json c.now, w)
  | .importRules => do
      let imported ← orFailure ((← c.upload).read .rules)
      return (answer imported.toJson, w)
  | .importProject => do
      let imported ← orFailure ((← c.upload).read .json)
      return (answer imported.toJson, w)
  | .workspace => .ok (answer w.view.toJson, w)
  | .addRule => do
      let form ← c.json Form.schema.codec
      let r ← orWorkspaceFailure form.accept
      let (index, w) ← orWorkspaceFailure (w.append r .enforced)
      return (answer (ruleTextJson index r.encode), w)
  | .addTemplate name => do
      let t ← findTemplate (← pathText name)
      let (index, w) ← orWorkspaceFailure (w.append t.rule .trusted)
      return (answer (ruleTextJson index t.rule.encode), w)
  | .importInto => do
      let upload ← c.upload
      let imported ← orFailure (upload.read upload.resolvedFormat)
      return (answer imported.toJson, w.extend imported.rules)
  | .selection =>
      if c.request.method = .delete then
        let w := w.clearSelection
        .ok (answer (selectionJson w), w)
      else do
        let indices ← c.json selectRequest.codec
        let w ← orWorkspaceFailure (w.select indices)
        return (answer (selectionJson w), w)
  | .selectAll => do
      let checked ← c.json selectAllRequest.codec
      let w := w.selectAll checked
      return (answer (selectionJson w), w)
  | .toggle index => do
      let index ← pathIndex index
      let (selected, w) ← orWorkspaceFailure (w.toggle index)
      let data :=
        [ ("index", .nat index), ("selected", .bool selected),
          ("selection", positionsJson w.selection) ]
      return (answer (.object data), w)
  | .duplicate => do
      let (sids, w) ← orWorkspaceFailure w.duplicate
      let data :=
        [("sids", .array (sids.map fun sid => .nat sid.toNat)), ("count", .nat sids.length)]
      return (answer (.object data), w)
  | .deleteSelected => do
      let (removed, w) ← orWorkspaceFailure w.deleteSelected
      return (answer (.object [("removed", .nat removed), ("remaining", .nat w.length)]), w)
  | .edit => do
      let r ← orWorkspaceFailure w.editTarget
      return (answer (Form.ofRule r).toJson, w)
  | .preview index => do
      let index ← pathIndex index
      let (text, w) ← orWorkspaceFailure (w.showPreview index)
      return (answer (ruleTextJson index text), w)
  | .collisions => .ok (answer w.collisions.toJson, w)
  | .text =>
      .ok (answer (.object [("count", .nat w.length), ("rule_text", .string w.text)]), w)
  | .exportWorkspace => do
      let format ←
        match ← c.parameter "format" with
        | none => pure Format.rules
        | some word =>
            match Vocabulary.ofWord? word with
            | some format => pure format
            | none => .error (.bare 400)
      return (← exportFile w.rules format c.now, w)

/-! ## Responses -/

/-- The response to a request, and the workspace after it. -/
def respond (settings : Settings) (now : Timestamp) (w : Workspace) (request : Request) :
    Response × Workspace :=
  let origin := settings.allowedOrigin
  let route := Route.ofPath? request.path
  match request.method, route with
  | .options, route => ({ status := 200, allow := route.map Route.allow, origin }, w)
  | _, none => ({ status := 404, origin }, w)
  | method, some route =>
      if !route.methods.contains method then
        ({ status := 405, allow := some route.allow, origin }, w)
      else
        let shown (content : Content) : Content :=
          if method = .head then content.headersOnly else content
        match handle { settings, now, request } w route with
        | .ok (content, w') => ({ status := 200, origin, content := shown content }, w')
        | .error (.bare status) => ({ status, origin }, w)
        | .error (.failure f) =>
            ({ status := f.status, origin, content := shown (.json f.toJson) }, w)

/-- The responses to a sequence of requests. -/
def serve (settings : Settings) (now : Timestamp) (w : Workspace) : List Request → List Response
  | [] => []
  | request :: rest =>
      let (response, w) := respond settings now w request
      response :: serve settings now w rest

end RuleDesk.Api
