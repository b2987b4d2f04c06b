import RuleDesk.Api.InPlace
import RuleDesk.Proofs.Workspace.Atomicity

/-!
# Handlers step by step

A handler on the held workspace could fail when it has changed something already. Here it is shown
that none does: where the positions are in range, the steps of a handler come to what the handler
gives at once (`follows_handle`). A handler reads the request before its one operation, this either
succeeds or leaves the workspace as it was, and no step behind it can fail.
-/

set_option autoImplicit false

namespace RuleDesk.Api

open RuleDesk.Http
open Serving

/-- The outcome of a handler as the outcome of its steps: a refusal leaves the workspace. -/
def settled (w : Workspace) : Handled → EStateM.Result ServingError Workspace Content
  | .ok (content, w') => .ok content w'
  | .error refusal => .error (.refused refusal) w

/-- The steps come to what the handler gives at once. -/
def Follows (w : Workspace) (steps : Serving Content) (handled : Handled) : Prop :=
  steps.run w = settled w handled

variable {α β : Type} {w : Workspace} {c : Context}

/-! ## Single steps -/

theorem follows_pure (content : Content) : Follows w (pure content) (.ok (content, w)) :=
  rfl

theorem follows_refuse (refusal : Refusal) : Follows w (refuse refusal) (.error refusal) :=
  rfl

/-- Looking at the workspace changes nothing. -/
theorem follows_get {f : Workspace → Serving Content} {handled : Handled}
    (h : Follows w (f w) handled) : Follows w (get >>= f) handled :=
  h

/-- Reading the request changes nothing, also if the request is refused then. -/
theorem follows_read {x : Except Refusal α} {f : α → Serving Content} {g : α → Handled}
    (h : ∀ a, Follows w (f a) (g a)) : Follows w (orRefuse x >>= f) (x >>= g) := by
  cases x with
  | ok a => exact h a
  | error refusal => exact follows_refuse refusal

theorem follows_orRefuse (x : Except Refusal Content) :
    Follows w (orRefuse x) (x >>= fun content => .ok (content, w)) := by
  cases x with
  | ok content => exact follows_pure content
  | error refusal => exact follows_refuse refusal

/-! ## Operations -/

/-- The steps of an operation that gives `given` and leaves `left` or is refused as a whole, with
steps behind it that only word the answer. -/
theorem follows_operate {steps : InPlace α} {x : Except WorkspaceError β} (given : β → α)
    (left : β → Workspace) {f : α → Serving Content} {g : β → Content}
    (hok : ∀ b, x = .ok b → steps.run w = .ok (given b) (left b))
    (herror : ∀ cause, x = .error cause → steps.run w = .error (.refused cause) w)
    (hword : ∀ b, (f (given b)).run (left b) = .ok (g b) (left b)) :
    Follows w (operate steps >>= f) (orWorkspaceFailure x >>= fun b => .ok (g b, left b)) := by
  rw [Follows, EStateM.run_bind]
  -- An operation that is refused leaves what it found, and the steps behind it are not taken.
  cases x with
  | ok b =>
      have hrun : (operate steps).run w = .ok (given b) (left b) := by
        rw [EStateM.run, operate, hok b rfl]
      rw [hrun]
      exact hword b
  | error cause =>
      have hrun : (operate steps).run w = .error (causeOf (.refused cause)) w := by
        rw [EStateM.run, operate, herror cause rfl]
      rw [hrun]
      rfl

/-- A command is refused as a whole where the positions are in range. -/
theorem follows_command (hw : w.IsSound) (command : Command) (toAnswer : α → Answer)
    {x : Except WorkspaceError (α × Workspace)} {f : Answer → Serving Content}
    {g : α × Workspace → Content}
    (hperform : w.perform command = x >>= fun p => .ok (toAnswer p.1, p.2))
    (hword : ∀ p : α × Workspace, (f (toAnswer p.1)).run p.2 = .ok (g p) p.2) :
    Follows w (operate command.steps >>= f) (orWorkspaceFailure x >>= fun p => .ok (g p, p.2)) := by
  refine follows_operate (fun p => toAnswer p.1) Prod.snd ?_ ?_ hword
  · rintro p rfl
    rw [command.run_steps hw, hperform]
    rfl
  · rintro cause rfl
    rw [command.run_steps hw, hperform]
    rfl

/-! ## Handlers -/

/-- The method decides between the two operations on the selection. -/
theorem follows_selection :
    Follows w (handleInPlace c .selection) (handle c w .selection) := by
  by_cases hdelete : c.request.method = .delete
  · simp only [handleInPlace, handle, if_pos hdelete]
    rfl
  · simp only [handleInPlace, handle, if_neg hdelete]
    refine follows_read ?_
    intro indices
    refine follows_operate (fun _ => Answer.nothing) id ?_ ?_ fun _ => rfl
    · intro w' hselect
      rw [InPlace.run_select, Workspace.perform, hselect]
      rfl
    · intro cause hselect
      rw [InPlace.run_select, Workspace.perform, hselect]
      rfl

theorem follows_selectAll :
    Follows w (handleInPlace c .selectAll) (handle c w .selectAll) := by
  refine follows_read ?_
  intro checked
  cases checked with
  | true => rfl
  | false => rfl

/-- Looking for the rule to edit changes nothing. -/
theorem follows_edit : Follows w (handleInPlace c .edit) (handle c w .edit) := by
  refine follows_operate id (fun _ => w) ?_ ?_ fun _ => rfl
  · intro r htarget
    rw [InPlace.run_editTarget, htarget]
    rfl
  · intro cause htarget
    rw [InPlace.run_editTarget, htarget]

theorem follows_exportWorkspace :
    Follows w (handleInPlace c .exportWorkspace) (handle c w .exportWorkspace) := by
  -- The format may be named or not; either way a file of that format is all that follows.
  have hfile : ∀ format, Follows w (do
        let w ← get
        orRefuse (exportFile w.rules format c.now))
      (do return (← exportFile w.rules format c.now, w)) := by
    intro format
    apply follows_get
    exact follows_orRefuse _
  refine follows_read ?_
  intro parameter
  cases parameter with
  | none => exact hfile .rules
  | some word =>
      dsimp only
      cases (Vocabulary.ofWord? word : Option Format) with
      | some format => exact hfile format
      | none => exact follows_refuse _

/-- Where the positions are in range, the steps of a handler come to what the handler gives at once.
-/
theorem follows_handle (hw : w.IsSound) (c : Context) (route : Route) :
    Follows w (handleInPlace c route) (handle c w route) := by
  -- The routes are taken together by how they read the request; `hw` counts for operations only.
  cases route with
  | health => exact follows_pure _
  | workspace | collisions | text => exact follows_get (follows_pure _)
  | build | validate | templates => exact follows_read fun _ => follows_pure _
  | template | importRules | importProject =>
      exact follows_read fun _ => follows_read fun _ => follows_pure _
  | exportRules | exportProject => exact follows_read fun _ => follows_orRefuse _
  | exportWorkspace => exact follows_exportWorkspace
  | addRule =>
      refine follows_read fun form => follows_read fun r => ?_
      exact follows_command hw (.append r .enforced) .position rfl fun _ => rfl
  | addTemplate name =>
      refine follows_read fun text => follows_read fun t => ?_
      exact follows_command hw (.append t.rule .trusted) .position rfl fun _ => rfl
  | importInto => exact follows_read fun upload => follows_read fun imported => rfl
  | selection => exact follows_selection
  | selectAll => exact follows_selectAll
  | toggle index =>
      refine follows_read fun i => ?_
      exact follows_command hw (.toggle i) .flag rfl fun _ => rfl
  | duplicate => exact follows_command hw .duplicate .sids rfl fun _ => rfl
  | deleteSelected => exact follows_command hw .deleteSelected .count rfl fun _ => rfl
  | edit => exact follows_edit
  | preview index =>
      refine follows_read fun i => ?_
      exact follows_command hw (.showPreview i) .text rfl fun _ => rfl

/-- Where the positions are in range, a request in place is answered as it is at once, and leaves
the same workspace. -/
theorem respondInPlace_eq (hw : w.IsSound) (settings : Settings) (now : Timestamp)
    (request : Request) :
    respondInPlace settings now w request =
      (some (respond settings now w request).1, (respond settings now w request).2) := by
  -- Both responses go by the path and the method alike, so only the handlers are to be compared.
  cases hroute : Route.ofPath? request.path with
  | none => cases hmethod : request.method <;> simp only [respondInPlace, respond, hroute, hmethod]
  | some route =>
      have hrun : (handleInPlace { settings, now, request } route).run w =
          settled w (handle { settings, now, request } w route) := follows_handle hw _ route
      cases hmethod : request.method with
      | options => simp only [respondInPlace, respond, hroute, hmethod]
      | get | head | post | delete | other =>
        by_cases hallowed : route.methods.contains request.method
        · rw [hmethod] at hallowed
          simp only [respondInPlace, respond, hroute, hmethod, hrun, hallowed]
          cases handle { settings, now, request } w route with
          | ok result => rfl
          | error refusal =>
              cases refusal with
              | bare status => rfl
              | failure f => rfl
        · rw [hmethod] at hallowed
          simp only [respondInPlace, respond, hroute, hmethod, hallowed]
          rfl

end RuleDesk.Api
