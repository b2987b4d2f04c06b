import RuleDesk.Api.Server
import RuleDesk.Proofs.Outcomes

/-!
# Refusals

Whatever a request fails of, in the reading of what it carries or in its handler, the status of the
answer says so: it is at least 400.
-/

set_option autoImplicit false

namespace RuleDesk.Api

open RuleDesk.Json

/-- The status with which a refusal is answered. -/
def Refusal.status : Refusal → Nat
  | .bare status => status
  | .failure f => f.status

/-- A computation that fails with a status of at least 400 if it fails. -/
def Refuses {α : Type} (x : Except Refusal α) : Prop :=
  ∀ refusal, x = .error refusal → 400 ≤ refusal.status

variable {α β : Type}

theorem refuses_ok (a : α) : Refuses (.ok a : Except Refusal α) := by
  intro refusal h
  cases h

theorem refuses_error {refusal : Refusal} (h : 400 ≤ refusal.status) :
    Refuses (.error refusal : Except Refusal α) := by
  intro other hother
  cases hother
  exact h

theorem refuses_failure (f : Failure) : Refuses (.error (.failure f) : Except Refusal α) := by
  have hstatus : 400 ≤ f.status := by
    cases f with
    | notFound | validation | index | payloadTooLarge | internal => simp [Failure.status]
  exact refuses_error hstatus

theorem Refuses.bind {x : Except Refusal α} {f : α → Except Refusal β} (hx : Refuses x)
    (hf : ∀ a, Refuses (f a)) : Refuses (x >>= f) := by
  intro refusal h
  rcases bind_eq_error_iff.mp h with hfirst | ⟨a, -, hsecond⟩
  · exact hx refusal hfirst
  · exact hf a refusal hsecond

/-! ## Reading requests -/

theorem refuses_orFailure (x : Except Failure α) : Refuses (orFailure x) := by
  cases x with
  | error f => exact refuses_failure f
  | ok a => exact refuses_ok a

theorem refuses_orWorkspaceFailure (x : Except WorkspaceError α) :
    Refuses (orWorkspaceFailure x) := by
  cases x with
  | error e => exact refuses_failure _
  | ok a => exact refuses_ok a

theorem refuses_json (c : Context) (codec : Codec β) : Refuses (c.json codec) := by
  unfold Context.json
  split
  · exact refuses_error (by decide)
  · split
    · exact refuses_error (by decide)
    · split
      · exact refuses_error (by decide)
      · split
        · exact refuses_ok _
        · exact refuses_error (by decide)
        · exact refuses_error (by decide)

theorem refuses_upload (c : Context) : Refuses c.upload := by
  unfold Context.upload
  split
  · exact refuses_error (by decide)
  · split
    · exact refuses_error (by decide)
    · exact refuses_orFailure _

theorem refuses_parameter (c : Context) (name : String) : Refuses (c.parameter name) := by
  unfold Context.parameter
  split
  · exact refuses_ok _
  · exact refuses_ok _
  · exact refuses_error (by decide)

theorem refuses_pathText (segment : List Char) : Refuses (pathText segment) := by
  unfold pathText
  split
  · exact refuses_ok _
  · exact refuses_error (by decide)

theorem refuses_pathIndex (segment : List Char) : Refuses (pathIndex segment) := by
  refine (refuses_pathText segment).bind ?_
  intro text
  split
  · exact refuses_ok _
  · exact refuses_error (by decide)

theorem refuses_findTemplate (name : String) : Refuses (findTemplate name) := by
  unfold findTemplate
  split
  · exact refuses_ok _
  · exact refuses_failure _

theorem refuses_exportFile (rules : List Rule) (format : Format) (now : Timestamp) :
    Refuses (exportFile rules format now) := by
  unfold exportFile
  split
  · split
    · exact refuses_ok _
    · exact refuses_failure _
  · exact refuses_ok _

/-! ## Handlers -/

theorem refuses_handle (c : Context) (w : Workspace) (route : Route) :
    Refuses (handle c w route) := by
  cases route with
  | health | workspace | collisions | text => exact refuses_ok _
  | build | validate => exact (refuses_json c _).bind fun _ => refuses_ok _
  | templates => exact (refuses_parameter c _).bind fun _ => refuses_ok _
  | template name =>
      exact (refuses_pathText name).bind fun _ =>
        (refuses_findTemplate _).bind fun _ => refuses_ok _
  | exportRules | exportProject =>
      exact (refuses_json c _).bind fun _ => (refuses_exportFile _ _ _).bind fun _ => refuses_ok _
  | importRules | importProject =>
      exact (refuses_upload c).bind fun _ => (refuses_orFailure _).bind fun _ => refuses_ok _
  | addRule =>
      exact (refuses_json c _).bind fun form =>
        (refuses_orWorkspaceFailure form.accept).bind fun _ =>
          (refuses_orWorkspaceFailure _).bind fun _ => refuses_ok _
  | addTemplate name =>
      exact (refuses_pathText name).bind fun _ => (refuses_findTemplate _).bind fun _ =>
        (refuses_orWorkspaceFailure _).bind fun _ => refuses_ok _
  | importInto =>
      exact (refuses_upload c).bind fun _ => (refuses_orFailure _).bind fun _ => refuses_ok _
  | selection =>
      show Refuses (if c.request.method = .delete then _ else _)
      split
      · exact refuses_ok _
      · exact (refuses_json c _).bind fun _ =>
          (refuses_orWorkspaceFailure _).bind fun _ => refuses_ok _
  | selectAll => exact (refuses_json c _).bind fun _ => refuses_ok _
  | toggle index | preview index =>
      exact (refuses_pathIndex index).bind fun _ =>
        (refuses_orWorkspaceFailure _).bind fun _ => refuses_ok _
  | duplicate | deleteSelected | edit =>
      exact (refuses_orWorkspaceFailure _).bind fun _ => refuses_ok _
  | exportWorkspace =>
      refine (refuses_parameter c _).bind ?_
      intro parameter
      -- The file is the same for a format that is named and for the one taken without a name.
      have hfile : ∀ format, Refuses (do
          return (← exportFile w.rules format c.now, w) : Handled) :=
        fun format => (refuses_exportFile _ _ _).bind fun _ => refuses_ok _
      cases parameter with
      | none => exact hfile .rules
      | some word =>
          dsimp only
          split
          · exact hfile _
          · exact refuses_error (by decide)

end RuleDesk.Api
