import RuleDesk.Proofs.Api.Handlers
import RuleDesk.Proofs.Api.Imports
import RuleDesk.Proofs.Text.Splitting

/-!
# What requests ask for

The method and the path of a request tell the command that it asks for, and its path or its body
carries the arguments. The paths are spelled out here, without routes, and what a body must be like
is stated without the order in which it is checked. A request asks for one command at most.
-/

set_option autoImplicit false

namespace RuleDesk.Api

open RuleDesk.Http
open RuleDesk.Json
open RuleDesk.Text

/-! ## Paths -/

/-- The path of the workspace. -/
def workspacePath : List Char :=
  "/api/v1/workspace".toList

/-- A path is the one of the workspace or goes on behind it with a slash. -/
def IsUnderWorkspace (path : List Char) : Prop :=
  path = workspacePath ∨ workspacePath ++ ['/'] <+: path

/-- A request with a given method whose path has `rest` behind the one of the workspace. -/
structure IsFor (request : Request) (method : Method) (rest : List Char) : Prop where
  method : request.method = method
  path : request.path = workspacePath ++ rest

/-! ## Arguments -/

/-- The body of a request is said to be JSON, is small enough, and is the text of a value. -/
structure CarriesJson {β : Type} (c : Context) (codec : Codec β) (b : β) : Prop where
  mediaType : ∃ mediaType, c.request.contentType.bind MediaType.ofText? = some mediaType ∧
    mediaType.isJson
  fits : c.request.body.length ≤ c.settings.maxUploadBytes
  reads : (Document.ofGlyphs (glyphs c.request.body)).scan codec = .ok b

/-- A segment of a path, as it was sent, is a number of at most 64 bits. -/
structure IsNumber (segment : List Char) (n : Nat) : Prop where
  slash : '/' ∉ segment
  reads : ∃ text, decodeSegment? segment = some text ∧
    readNat? (UInt64.size - 1) text.toList = some n

/-- A segment of a path, as it was sent, names a template. -/
structure IsTemplateName (segment : List Char) (t : Template) : Prop where
  ne : segment ≠ []
  slash : '/' ∉ segment
  finds : ∃ name, decodeSegment? segment = some name ∧ Catalog.find? name = some t

/-! ## Commands -/

/-- The command that a request asks for, with its arguments. -/
inductive Asks (c : Context) : Command → Prop
  | submit {form : Form} :
      IsFor c.request .post "/rules".toList → CarriesJson c Form.schema.codec form →
      Asks c (.submit form)
  | template {segment : List Char} {t : Template} :
      IsFor c.request .post ("/templates/".toList ++ segment) → IsTemplateName segment t →
      Asks c (.append t.rule .trusted)
  | extend {parts : List Part} {u : Upload} {format : Format} {imported : Imported} :
      IsFor c.request .post "/import".toList → IsImport c.settings c.request parts →
      Uploads parts u → IsReadIn u.filename u.format format →
      importFile format u.data = .ok imported → Asks c (.extend imported.rules)
  | select {indices : List Nat} :
      IsFor c.request .post "/selection".toList → CarriesJson c selectRequest.codec indices →
      Asks c (.select indices)
  | clearSelection : IsFor c.request .delete "/selection".toList → Asks c .clearSelection
  | selectAll {checked : Bool} :
      IsFor c.request .post "/selection/all".toList →
      CarriesJson c selectAllRequest.codec checked → Asks c (.selectAll checked)
  | toggle {segment : List Char} {index : Nat} :
      IsFor c.request .post ("/selection/".toList ++ segment) → IsNumber segment index →
      Asks c (.toggle index)
  | duplicate : IsFor c.request .post "/duplicate".toList → Asks c .duplicate
  | deleteSelected : IsFor c.request .post "/delete".toList → Asks c .deleteSelected
  | showPreview {method : Method} {segment : List Char} {index : Nat} :
      method = .get ∨ method = .head →
      IsFor c.request method ("/rules/".toList ++ segment ++ "/preview".toList) →
      IsNumber segment index → Asks c (.showPreview index)

variable {c : Context} {route : Route} {command : Command} {segment : List Char}

/-! ## Reading arguments -/

theorem json_eq_ok_iff {β : Type} {codec : Codec β} {b : β} :
    c.json codec = .ok b ↔ CarriesJson c codec b := by
  have hfits : c.isTooLarge = false ↔ c.request.body.length ≤ c.settings.maxUploadBytes := by
    simp [Context.isTooLarge]
  constructor
  · intro h
    unfold Context.json at h
    split at h
    · cases h
    · next mediaType hmedia =>
        split at h
        · cases h
        · next hjson =>
            split at h
            · cases h
            · next hsize =>
                split at h
                · next value hreads =>
                    cases h
                    exact ⟨⟨mediaType, hmedia, by simpa using hjson⟩,
                      hfits.mp (by simpa using hsize), hreads⟩
                · cases h
                · cases h
  · rintro ⟨⟨mediaType, hmedia, hjson⟩, hsize, hreads⟩
    simp only [Context.json, hmedia, hjson, hfits.mpr hsize, hreads, Bool.not_true,
      Bool.false_eq_true, if_false]

theorem pathText_eq_ok_iff {text : String} :
    pathText segment = .ok text ↔ decodeSegment? segment = some text := by
  unfold pathText
  cases decodeSegment? segment with
  | none => simp
  | some other => simp

theorem pathIndex_eq_ok_iff {n : Nat} :
    pathIndex segment = .ok n ↔ ∃ text, decodeSegment? segment = some text ∧
      readNat? (UInt64.size - 1) text.toList = some n := by
  unfold pathIndex
  rw [bind_eq_ok_iff]
  refine exists_congr fun text => and_congr pathText_eq_ok_iff ?_
  cases readNat? (UInt64.size - 1) text.toList with
  | none => exact iff_of_false (fun h => by cases h) (fun h => by cases h)
  | some other =>
      show Except.ok other = Except.ok n ↔ _
      rw [Except.ok.injEq, Option.some.injEq]

theorem findTemplate_eq_ok_iff {name : String} {t : Template} :
    findTemplate name = .ok t ↔ Catalog.find? name = some t := by
  unfold findTemplate
  cases Catalog.find? name with
  | none => simp
  | some other => simp

/-! ## Paths of routes -/

/-- The segments of the path of the workspace. -/
def workspaceSegments : List (List Char) :=
  ["".toList, "api".toList, "v1".toList, "workspace".toList]

/-- The segments behind those of the workspace, for a route that asks for a command. -/
def Route.segments : Route → List (List Char)
  | .addRule => ["rules".toList]
  | .addTemplate name => ["templates".toList, name]
  | .importInto => ["import".toList]
  | .selection => ["selection".toList]
  | .selectAll => ["selection".toList, "all".toList]
  | .toggle index => ["selection".toList, index]
  | .duplicate => ["duplicate".toList]
  | .deleteSelected => ["delete".toList]
  | .preview index => ["rules".toList, index, "preview".toList]
  | _ => []

/-- A route that asks for a command is none of those that ask for nothing. -/
theorem ne_of_command {other : Route} (hother : c.command other = .ok none)
    (hcommand : c.command route = .ok (some command)) : some other ≠ some route := by
  intro hsame
  cases hsame
  rw [hother] at hcommand
  cases hcommand

theorem segments_of_workspace_command {segments : List String}
    (h : Route.ofWorkspacePath? segments = some route)
    (hcommand : c.command route = .ok (some command)) :
    segments.map String.toList = route.segments := by
  -- The cases are in the order in which the paths are matched.
  unfold Route.ofWorkspacePath? at h
  split at h
  · exact absurd h (ne_of_command rfl hcommand)
  · cases h; rfl
  · cases h; rfl
  · split at h
    · cases h
    · cases h; rfl
  · cases h; rfl
  · cases h; rfl
  · cases h; rfl
  · split at h
    · cases h
    · cases h; rfl
  · cases h; rfl
  · cases h; rfl
  · exact absurd h (ne_of_command rfl hcommand)
  · exact absurd h (ne_of_command rfl hcommand)
  · exact absurd h (ne_of_command rfl hcommand)
  · exact absurd h (ne_of_command rfl hcommand)
  · cases h

/-- Only the paths under the workspace have routes that ask for commands. -/
theorem segments_of_command {segments : List String}
    (h : Route.ofSegments? segments = some route)
    (hcommand : c.command route = .ok (some command)) :
    segments.map String.toList = workspaceSegments ++ route.segments := by
  unfold Route.ofSegments? at h
  split at h
  · exact absurd h (ne_of_command rfl hcommand)
  · split at h
    · exact absurd h (ne_of_command rfl hcommand)
    · exact absurd h (ne_of_command rfl hcommand)
    · exact absurd h (ne_of_command rfl hcommand)
    · split at h
      · cases h
      · exact absurd h (ne_of_command rfl hcommand)
    · exact absurd h (ne_of_command rfl hcommand)
    · exact absurd h (ne_of_command rfl hcommand)
    · exact absurd h (ne_of_command rfl hcommand)
    · exact absurd h (ne_of_command rfl hcommand)
    -- what is left of the known paths is under the workspace
    · exact congrArg (workspaceSegments ++ ·) (segments_of_workspace_command h hcommand)
    · cases h
  · cases h

/-- The path of a request that asks for a command is the one of its route. -/
theorem path_of_command {path : List Char} (h : Route.ofPath? path = some route)
    (hcommand : c.command route = .ok (some command)) :
    path = joined ['/'] (workspaceSegments ++ route.segments) ∧
      ∀ segment ∈ route.segments, '/' ∉ segment := by
  have hpieces : pieces '/' path = workspaceSegments ++ route.segments := by
    rw [← segments_of_command h hcommand, List.map_map]
    simp [Function.comp_def]
  refine ⟨by rw [← hpieces, joined_pieces], fun segment hmem => ?_⟩
  exact not_mem_of_mem_pieces (s := path) (hpieces ▸ List.mem_append_right _ hmem)

theorem joined_preview (index : List Char) :
    joined ['/'] (workspaceSegments ++ Route.segments (.preview index)) =
      workspacePath ++ ("/rules/".toList ++ index ++ "/preview".toList) := by
  show workspacePath ++ ("/rules/".toList ++ (index ++ ['/'] ++ "preview".toList)) = _
  rw [List.append_assoc index]
  rfl

theorem ofPath?_of_segments {path : List Char} {segments : List (List Char)}
    (hpath : path = joined ['/'] (workspaceSegments ++ segments))
    (hslash : ∀ segment ∈ segments, '/' ∉ segment) :
    Route.ofPath? path = Route.ofWorkspacePath? (segments.map String.ofList) := by
  have hfixed : ∀ segment ∈ workspaceSegments, '/' ∉ segment := by decide
  have hpieces : pieces '/' path = workspaceSegments ++ segments := by
    rw [hpath]
    exact pieces_joined (List.cons_ne_nil _ _) (List.forall_mem_append.mpr ⟨hfixed, hslash⟩)
  rw [Route.ofPath?, hpieces]
  rfl

theorem ofPath?_template (hne : segment ≠ []) (hslash : '/' ∉ segment) :
    Route.ofPath? (workspacePath ++ ("/templates/".toList ++ segment)) =
      some (.addTemplate segment) := by
  have hpath : workspacePath ++ ("/templates/".toList ++ segment) =
      joined ['/'] (workspaceSegments ++ ["templates".toList, segment]) := rfl
  rw [ofPath?_of_segments hpath (by simpa using hslash)]
  simp [Route.ofWorkspacePath?, hne]

/-- A position is not the word that stands for all positions. -/
theorem ofPath?_toggle {index : Nat} (h : IsNumber segment index) :
    Route.ofPath? (workspacePath ++ ("/selection/".toList ++ segment)) =
      some (.toggle segment) := by
  have hpath : workspacePath ++ ("/selection/".toList ++ segment) =
      joined ['/'] (workspaceSegments ++ ["selection".toList, segment]) := rfl
  have hindex : pathIndex segment = .ok index := pathIndex_eq_ok_iff.mpr h.reads
  have hne : segment ≠ [] := by
    rintro rfl
    cases hindex
  have hall : String.ofList segment ≠ "all" := by
    intro hsegment
    obtain rfl : segment = "all".toList := by rw [← hsegment, String.toList_ofList]
    cases hindex
  rw [ofPath?_of_segments hpath (by simpa using h.slash)]
  -- The route for all positions stands before this one, and `hall` rules it out.
  simp [Route.ofWorkspacePath?, hne]

theorem ofPath?_preview (hslash : '/' ∉ segment) :
    Route.ofPath? (workspacePath ++ ("/rules/".toList ++ segment ++ "/preview".toList)) =
      some (.preview segment) := by
  rw [ofPath?_of_segments (joined_preview segment).symm (by simpa [Route.segments] using hslash)]
  simp [Route.segments, Route.ofWorkspacePath?]

/-! ## The command of a request -/

/-- The route that a request reaches: the one of its path if that allows its method. -/
def reached (request : Request) : Option Route :=
  (Route.ofPath? request.path).filter fun route => route.methods.contains request.method

/-- The command that a request asks for, as its route and its arguments are read. -/
def asked (settings : Settings) (now : Timestamp) (request : Request) : Option Command :=
  match reached request with
  | none => none
  | some route =>
      match Context.command { settings, now, request } route with
      | .ok command => command
      | .error _ => none

variable {settings : Settings} {now : Timestamp} {request : Request}

theorem asked_eq_some_iff :
    asked settings now request = some command ↔ ∃ route, reached request = some route ∧
      Context.command { settings, now, request } route = .ok (some command) := by
  unfold asked
  cases hreached : reached request with
  | none => simp
  | some route =>
      cases hcommand : Context.command { settings, now, request } route with
      | error e => simp [hcommand]
      | ok command => simp [hcommand]

/-! ## Reading gives what is asked for -/

theorem asks_of_importInto (hfor : IsFor c.request .post "/import".toList)
    (hroute : Route.ofPath? c.request.path = some .importInto)
    (hcommand : c.command .importInto = .ok (some command)) : Asks c command := by
  obtain ⟨u, hupload, hcommand⟩ := bind_eq_ok_iff.mp hcommand
  obtain ⟨hsize, boundary, parts, hboundary, hparts, huploads⟩ := upload_eq_ok_iff.mp hupload
  -- The file is read, or the import is refused and asks for nothing.
  split at hcommand
  · next imported hread =>
      cases hcommand
      exact .extend hfor ⟨hfor.method, hroute, hsize, boundary, hboundary, hparts⟩ huploads
        (isReadIn_resolvedFormat u) hread
  · cases hcommand

theorem asks_of_selection (hpath : c.request.path = workspacePath ++ "/selection".toList)
    (hmethod : c.request.method = .post ∨ c.request.method = .delete)
    (hcommand : c.command .selection = .ok (some command)) : Asks c command := by
  rcases hmethod with hpost | hdelete
  · have hkept : c.request.method ≠ .delete := by simp [hpost]
    simp only [Context.command, if_neg hkept] at hcommand
    obtain ⟨indices, hindices, hpure⟩ := bind_eq_ok_iff.mp hcommand
    cases hpure
    exact .select ⟨hpost, hpath⟩ (json_eq_ok_iff.mp hindices)
  · simp only [Context.command, if_pos hdelete] at hcommand
    cases hcommand
    exact .clearSelection ⟨hdelete, hpath⟩

/-- What is read from a request of a route is what the request asks for. -/
theorem asks_of_command (hreached : reached c.request = some route)
    (hcommand : c.command route = .ok (some command)) : Asks c command := by
  obtain ⟨hroute, hallowed⟩ := Option.filter_eq_some_iff.mp hreached
  obtain ⟨hpath, hslash⟩ := path_of_command hroute hcommand
  -- Of the routes that ask for commands, all but the selection and the preview allow POST only.
  have hpost : ∀ {rest}, route.methods = [.post] → c.request.path = workspacePath ++ rest →
      IsFor c.request .post rest := by
    intro rest hmethods hrest
    rw [hmethods] at hallowed
    exact ⟨by simpa using hallowed, hrest⟩
  cases route with
  | health | templates | template | workspace | edit | collisions | text | exportWorkspace
  | build | validate | exportRules | exportProject | importRules | importProject => cases hcommand
  | addRule =>
      obtain ⟨form, hform, hpure⟩ := bind_eq_ok_iff.mp hcommand
      cases hpure
      exact .submit (hpost rfl hpath) (json_eq_ok_iff.mp hform)
  | addTemplate segment =>
      obtain ⟨name, hname, hcommand⟩ := bind_eq_ok_iff.mp hcommand
      obtain ⟨t, hfind, hpure⟩ := bind_eq_ok_iff.mp hcommand
      cases hpure
      -- Without a name the path is no known one.
      have hne : segment ≠ [] := by
        rintro rfl
        rw [hpath] at hroute
        exact absurd hroute (by decide)
      exact .template (hpost rfl hpath) ⟨hne, hslash segment (by simp [Route.segments]),
        name, pathText_eq_ok_iff.mp hname, findTemplate_eq_ok_iff.mp hfind⟩
  | importInto => exact asks_of_importInto (hpost rfl hpath) hroute hcommand
  | selection => exact asks_of_selection hpath (by simpa [Route.methods] using hallowed) hcommand
  | selectAll =>
      obtain ⟨checked, hchecked, hpure⟩ := bind_eq_ok_iff.mp hcommand
      cases hpure
      exact .selectAll (hpost rfl hpath) (json_eq_ok_iff.mp hchecked)
  | toggle segment =>
      obtain ⟨index, hindex, hpure⟩ := bind_eq_ok_iff.mp hcommand
      cases hpure
      exact .toggle (hpost rfl hpath)
        ⟨hslash segment (by simp [Route.segments]), pathIndex_eq_ok_iff.mp hindex⟩
  | duplicate =>
      cases hcommand
      exact .duplicate (hpost rfl hpath)
  | deleteSelected =>
      cases hcommand
      exact .deleteSelected (hpost rfl hpath)
  | preview segment =>
      obtain ⟨index, hindex, hpure⟩ := bind_eq_ok_iff.mp hcommand
      cases hpure
      exact .showPreview (by simpa [Route.methods] using hallowed)
        ⟨rfl, hpath.trans (joined_preview segment)⟩
        ⟨hslash segment (by simp [Route.segments]), pathIndex_eq_ok_iff.mp hindex⟩

/-! ## What is asked for is read -/

/-- A request for a path reaches its route if the method is allowed. -/
theorem IsFor.reached_eq {request : Request} {method : Method} {rest : List Char}
    (h : IsFor request method rest) (hroute : Route.ofPath? (workspacePath ++ rest) = some route)
    (hmethod : method ∈ route.methods) : reached request = some route := by
  rw [reached, h.path, hroute, Option.filter_some, h.method, if_pos (by simpa using hmethod)]

/-- What a request asks for is read from it by the route of its path. -/
theorem command_of_asks (h : Asks c command) :
    ∃ route, reached c.request = some route ∧ c.command route = .ok (some command) := by
  cases h with
  | submit hfor hbody =>
      refine ⟨.addRule, hfor.reached_eq (by decide) (by decide), ?_⟩
      exact bind_eq_ok_iff.mpr ⟨_, json_eq_ok_iff.mpr hbody, rfl⟩
  | @template segment t hfor hname =>
      obtain ⟨name, htext, hfind⟩ := hname.finds
      have hroute := ofPath?_template hname.ne hname.slash
      refine ⟨.addTemplate segment, hfor.reached_eq hroute (by simp [Route.methods]), ?_⟩
      exact bind_eq_ok_iff.mpr ⟨name, pathText_eq_ok_iff.mpr htext,
        bind_eq_ok_iff.mpr ⟨t, findTemplate_eq_ok_iff.mpr hfind, rfl⟩⟩
  | extend hfor himport huploads hformat hread =>
      obtain ⟨boundary, hboundary, hparts⟩ := himport.parts
      obtain rfl := hformat.eq_resolvedFormat
      refine ⟨.importInto, hfor.reached_eq (by decide) (by decide), ?_⟩
      refine bind_eq_ok_iff.mpr ⟨_, upload_eq_ok_iff.mpr ⟨himport.fits, boundary, _, hboundary,
        hparts, huploads⟩, ?_⟩
      rw [hread]
      rfl
  | select hfor hbody =>
      refine ⟨.selection, hfor.reached_eq (by decide) (by decide), ?_⟩
      have hpost : c.request.method ≠ .delete := by simp [hfor.method]
      simp only [Context.command, if_neg hpost]
      exact bind_eq_ok_iff.mpr ⟨_, json_eq_ok_iff.mpr hbody, rfl⟩
  | clearSelection hfor =>
      refine ⟨.selection, hfor.reached_eq (by decide) (by decide), ?_⟩
      exact if_pos hfor.method
  | selectAll hfor hbody =>
      refine ⟨.selectAll, hfor.reached_eq (by decide) (by decide), ?_⟩
      exact bind_eq_ok_iff.mpr ⟨_, json_eq_ok_iff.mpr hbody, rfl⟩
  | @toggle segment index hfor hindex =>
      have hroute := ofPath?_toggle hindex
      refine ⟨.toggle segment, hfor.reached_eq hroute (by simp [Route.methods]), ?_⟩
      exact bind_eq_ok_iff.mpr ⟨index, pathIndex_eq_ok_iff.mpr hindex.reads, rfl⟩
  | duplicate hfor =>
      exact ⟨.duplicate, hfor.reached_eq (by decide) (by decide), rfl⟩
  | deleteSelected hfor =>
      exact ⟨.deleteSelected, hfor.reached_eq (by decide) (by decide), rfl⟩
  | @showPreview method segment index hmethod hfor hindex =>
      have hallowed : method ∈ (Route.preview segment).methods := by
        simpa [Route.methods] using hmethod
      refine ⟨.preview segment, hfor.reached_eq (ofPath?_preview hindex.slash) hallowed, ?_⟩
      exact bind_eq_ok_iff.mpr ⟨index, pathIndex_eq_ok_iff.mpr hindex.reads, rfl⟩

/-! ## Commands of requests -/

/-- The command that is read from a request is the one that it asks for. -/
theorem asks_iff : Asks { settings, now, request } command ↔
    asked settings now request = some command := by
  rw [asked_eq_some_iff]
  constructor
  · exact command_of_asks
  · rintro ⟨route, hreached, hcommand⟩
    exact asks_of_command hreached hcommand

/-- A request asks for one command at most. -/
theorem Asks.unique {other : Command} (h : Asks c command) (hother : Asks c other) :
    command = other :=
  Option.some.inj ((asks_iff.mp h).symm.trans (asks_iff.mp hother))

/-- Commands are asked for under the workspace only. -/
theorem Asks.isUnderWorkspace (h : Asks c command) : IsUnderWorkspace c.request.path := by
  have hslash : ∀ {method rest}, IsFor c.request method ('/' :: rest) →
      IsUnderWorkspace c.request.path := by
    intro method rest hfor
    rw [hfor.path]
    exact .inr ⟨rest, List.append_assoc workspacePath ['/'] rest⟩
  cases h with
  | submit hfor | template hfor | extend hfor | select hfor | clearSelection hfor | selectAll hfor
  | toggle hfor | duplicate hfor | deleteSelected hfor => exact hslash hfor
  | showPreview _ hfor => exact hslash hfor

/-- Requests to read ask for nothing but a preview. -/
theorem Asks.eq_showPreview (h : Asks c command)
    (hmethod : c.request.method = .get ∨ c.request.method = .head) :
    ∃ index, command = .showPreview index := by
  cases h with
  | submit hfor | template hfor | extend hfor | select hfor | clearSelection hfor | selectAll hfor
  | toggle hfor | duplicate hfor | deleteSelected hfor =>
      rcases hmethod with hmethod | hmethod <;> cases hfor.method.symm.trans hmethod
  | showPreview => exact ⟨_, rfl⟩

end RuleDesk.Api
