import RuleDesk.Proofs.Api.Refusals
import RuleDesk.Workspace.Command

/-!
# Handlers and commands

A route of the workspace stands for a command, whose arguments are read from the request: from its
path, its body or its upload. A handler reads them first, then has the command performed, and last
words the answer, so that it changes nothing unless all of this succeeds. The handlers of the other
routes change nothing at all.
-/

set_option autoImplicit false

namespace RuleDesk.Api

open RuleDesk.Http
open RuleDesk.Json

/-! ## Commands of routes -/

/-- The command that a request for a route asks for, with the arguments that the request carries.
The routes without an operation ask for none. -/
def Context.command (c : Context) : Route → Except Refusal (Option Command)
  | .addRule => do
      let form ← c.json Form.schema.codec
      return some (.submit form)
  | .addTemplate name => do
      let t ← findTemplate (← pathText name)
      return some (.append t.rule .trusted)
  | .importInto => do
      let upload ← c.upload
      match importFile upload.resolvedFormat upload.data with
      | .ok imported => return some (.extend imported.rules)
      | .error e => .error (.failure (.validation e.longMessage))
  | .selection =>
      if c.request.method = .delete then .ok (some .clearSelection)
      else do
        let indices ← c.json selectRequest.codec
        return some (.select indices)
  | .selectAll => do
      let checked ← c.json selectAllRequest.codec
      return some (.selectAll checked)
  | .toggle index => do
      let index ← pathIndex index
      return some (.toggle index)
  | .duplicate => .ok (some .duplicate)
  | .deleteSelected => .ok (some .deleteSelected)
  | .preview index => do
      let index ← pathIndex index
      return some (.showPreview index)
  | _ => .ok none

/-- The workspace after the command that is asked for. If it fails, it is refused. -/
def performed (w : Workspace) : Option Command → Except Refusal Workspace
  | none => .ok w
  | some command => (orWorkspaceFailure (w.perform command)).map Prod.snd

variable {c : Context} {w w' : Workspace} {route : Route} {content : Content}

/-! ## Handlers that change nothing -/

/-- A handler that leaves the workspace `w` if it answers. -/
def Rests (w : Workspace) (x : Handled) : Prop :=
  ∀ content w', x = .ok (content, w') → w' = w

theorem rests_ok (content : Content) : Rests w (.ok (content, w)) := by
  intro other w' h
  cases h
  rfl

theorem rests_bind {α : Type} {x : Except Refusal α} {f : α → Handled} (h : ∀ a, Rests w (f a)) :
    Rests w (x >>= f) := by
  intro content w' hok
  obtain ⟨a, -, hrest⟩ := bind_eq_ok_iff.mp hok
  exact h a content w' hrest

theorem rests_exportWorkspace : Rests w (handle c w .exportWorkspace) := by
  refine rests_bind ?_
  intro parameter
  -- The format may be named or not; either way a file of that format is all that follows.
  have hfile : ∀ format, Rests w (do
      return (← exportFile w.rules format c.now, w) : Handled) :=
    fun format => rests_bind fun _ => rests_ok _
  cases parameter with
  | none => exact hfile .rules
  | some word =>
      dsimp only
      split
      · exact hfile _
      · intro content w' h
        cases h

/-! ## Handlers that have a command performed -/

/-- Two readings of a request go on with what the request carries. -/
theorem map_bind_eq {α : Type} {x : Except Refusal α} {f : α → Handled}
    {g : α → Except Refusal (Option Command)}
    (h : ∀ a, (f a).map Prod.snd = g a >>= performed w) :
    (x >>= f).map Prod.snd = x >>= g >>= performed w := by
  cases x with
  | error e => rfl
  | ok a => exact h a

/-- A handler that only words the answer of an operation has its command performed. -/
theorem map_answer_eq {α : Type} (command : Command) (f : α → Answer)
    {x : Except WorkspaceError (α × Workspace)} {g : α × Workspace → Content}
    (h : w.perform command = x >>= fun p => .ok (f p.1, p.2)) :
    (orWorkspaceFailure x >>= fun p => .ok (g p, p.2)).map Prod.snd =
      performed w (some command) := by
  rw [performed, h]
  cases x with
  | error e => rfl
  | ok p => rfl

/-- A rule is added by hand in two steps that can fail, which are one command. -/
theorem map_handle_addRule :
    (handle c w .addRule).map Prod.snd = c.command .addRule >>= performed w := by
  refine map_bind_eq ?_
  intro form
  show _ = performed w (some (.submit form))
  cases hform : form.accept with
  | error e =>
      simp only [performed, Workspace.perform, hform]
      rfl
  | ok r =>
      simp only [performed, Workspace.perform, hform]
      exact map_answer_eq (.append r .enforced) .position rfl

/-- Of an uploaded file, the rules that are read from it are added. -/
theorem map_handle_importInto :
    (handle c w .importInto).map Prod.snd = c.command .importInto >>= performed w := by
  refine map_bind_eq ?_
  intro upload
  rw [Upload.read]
  cases importFile upload.resolvedFormat upload.data with
  | ok imported => rfl
  | error e => rfl

/-- The method decides between the two commands on the selection. -/
theorem map_handle_selection :
    (handle c w .selection).map Prod.snd = c.command .selection >>= performed w := by
  by_cases hdelete : c.request.method = .delete
  · simp only [handle, Context.command, if_pos hdelete]
    rfl
  · simp only [handle, Context.command, if_neg hdelete]
    refine map_bind_eq ?_
    intro indices
    show _ = performed w (some (.select indices))
    simp only [performed, Workspace.perform]
    cases w.select indices with
    | error e => rfl
    | ok w₁ => rfl

/-- A handler of a route that asks for no command leaves the workspace. All others have their
command performed, whatever else they do. -/
theorem handle_cases (c : Context) (w : Workspace) (route : Route) :
    (c.command route = .ok none ∧ Rests w (handle c w route)) ∨
      (handle c w route).map Prod.snd = c.command route >>= performed w := by
  -- The routes are taken together by how many of their steps can fail.
  cases route with
  | health | workspace | collisions | text => exact .inl ⟨rfl, rests_ok _⟩
  | build | validate | templates | edit => exact .inl ⟨rfl, rests_bind fun _ => rests_ok _⟩
  | template | exportRules | exportProject | importRules | importProject =>
      exact .inl ⟨rfl, rests_bind fun _ => rests_bind fun _ => rests_ok _⟩
  | exportWorkspace => exact .inl ⟨rfl, rests_exportWorkspace⟩
  | addRule => exact .inr map_handle_addRule
  | addTemplate name =>
      refine .inr (map_bind_eq fun text => map_bind_eq fun t => ?_)
      exact map_answer_eq (.append t.rule .trusted) .position rfl
  | importInto => exact .inr map_handle_importInto
  | selection => exact .inr map_handle_selection
  | selectAll => exact .inr (map_bind_eq fun checked => rfl)
  | toggle index => exact .inr (map_bind_eq fun i => map_answer_eq (.toggle i) .flag rfl)
  | duplicate => exact .inr (map_answer_eq .duplicate .sids rfl)
  | deleteSelected => exact .inr (map_answer_eq .deleteSelected .count rfl)
  | preview index => exact .inr (map_bind_eq fun i => map_answer_eq (.showPreview i) .text rfl)

/-! ## Handlers that answer -/

theorem performed_eq_ok_iff {command : Command} :
    performed w (some command) = .ok w' ↔ ∃ a, w.perform command = .ok (a, w') := by
  rw [performed]
  cases w.perform command with
  | error e =>
      constructor
      · intro h
        cases h
      · rintro ⟨a, h⟩
        cases h
  | ok result =>
      constructor
      · intro h
        cases h
        exact ⟨result.1, rfl⟩
      · rintro ⟨a, h⟩
        cases h
        rfl

/-- A handler that answers has performed the command that its route asks for. -/
theorem performed_of_handle (h : handle c w route = .ok (content, w')) :
    ∃ command, c.command route = .ok command ∧ performed w command = .ok w' := by
  rcases handle_cases c w route with ⟨hcommand, hsame⟩ | hmap
  · exact ⟨none, hcommand, congrArg _ (hsame content w' h).symm⟩
  · rw [h] at hmap
    exact bind_eq_ok_iff.mp hmap.symm

/-- If the command succeeds for which a request asks, the handler answers. -/
theorem handle_of_perform {command : Command} {a : Answer}
    (h : c.command route = .ok (some command)) (hperform : w.perform command = .ok (a, w')) :
    ∃ content, handle c w route = .ok (content, w') := by
  rcases handle_cases c w route with ⟨hcommand, -⟩ | hmap
  · rw [h] at hcommand
    cases hcommand
  · rw [h] at hmap
    replace hmap : (handle c w route).map Prod.snd = .ok w' :=
      hmap.trans (performed_eq_ok_iff.mpr ⟨a, hperform⟩)
    cases hhandle : handle c w route with
    | error e =>
        rw [hhandle] at hmap
        cases hmap
    | ok result =>
        rw [hhandle] at hmap
        cases hmap
        exact ⟨result.1, rfl⟩

end RuleDesk.Api
