import RuleDesk.Proofs.Api.Requests
import RuleDesk.Proofs.Api.Steps
import RuleDesk.Proofs.Workspace.Runs

/-!
# Requests and commands

Seen from the workspace, the server is nothing but a run of commands: a request performs the one
command that it asks for, or it changes nothing. So what holds in every run of commands holds while
requests are served. In particular no position is ever out of range, and therefore the steps of a
handler always come to what the handler gives at once.
-/

set_option autoImplicit false

namespace RuleDesk.Api

open RuleDesk.Http
open RuleDesk.Text

/-! ## Responses -/

/-- The status says that the request was done. -/
def IsSuccess (status : Nat) : Prop :=
  200 ≤ status ∧ status < 300

variable {settings : Settings} {now : Timestamp} {w : Workspace} {request : Request}
  {route : Route}

theorem not_contains_options (route : Route) : ¬ route.methods.contains .options := by
  unfold Route.methods
  split <;> decide

theorem respond_of_reached_none (h : reached request = none) :
    (respond settings now w request).2 = w := by
  simp only [respond]
  split
  · rfl
  · rfl
  · next route hroute _ =>
      have hmethod : ¬ route.methods.contains request.method := by
        intro hcontains
        rw [reached, hroute, Option.filter_some, if_pos hcontains] at h
        cases h
      rw [if_pos (by simpa using hmethod)]

theorem respond_of_reached (settings : Settings) (now : Timestamp) (w : Workspace)
    (h : reached request = some route) :
    (∃ content w', handle { settings, now, request } w route = .ok (content, w') ∧
      (respond settings now w request).1.status = 200 ∧
      (respond settings now w request).2 = w') ∨
    (∃ refusal, handle { settings, now, request } w route = .error refusal ∧
      (respond settings now w request).1.status = refusal.status ∧
      (respond settings now w request).2 = w) := by
  obtain ⟨hroute, hmethod⟩ := Option.filter_eq_some_iff.mp h
  simp only [respond, hroute]
  split
  · next hoptions =>
      rw [hoptions] at hmethod
      exact absurd hmethod (not_contains_options route)
  · next hnone _ => cases hnone
  · next hsome _ =>
      cases hsome
      rw [if_neg (by simpa using hmethod)]
      cases hhandle : handle { settings, now, request } w route with
      | ok result => exact .inl ⟨result.1, result.2, rfl, rfl, rfl⟩
      | error refusal =>
          cases refusal with
          | bare status => exact .inr ⟨_, rfl, rfl, rfl⟩
          | failure f => exact .inr ⟨_, rfl, rfl, rfl⟩

/-! ## What a request does -/

/-- A request that asks for a command has it performed, and is done exactly if the command
succeeds. -/
theorem respond_of_asked {command : Command} (h : asked settings now request = some command) :
    (respond settings now w request).2 = w.after command ∧
      (IsSuccess (respond settings now w request).1.status ↔ w.Succeeds command) := by
  obtain ⟨route, hreached, hcommand⟩ := asked_eq_some_iff.mp h
  rcases respond_of_reached settings now w hreached with
    ⟨content, w', hhandle, hstatus, hafter⟩ | ⟨refusal, hhandle, hstatus, hafter⟩
  · obtain ⟨other, hother, hperformed⟩ := performed_of_handle hhandle
    obtain rfl : some command = other := Except.ok.inj (hcommand.symm.trans hother)
    obtain ⟨a, hok⟩ := performed_eq_ok_iff.mp hperformed
    rw [hafter, hstatus, Workspace.after_of_ok hok]
    exact ⟨rfl, iff_of_true ⟨by decide, by decide⟩ ⟨_, hok⟩⟩
  -- The handler has failed, so the command has too, since otherwise the handler would answer.
  · have hrefused : ¬ w.Succeeds command := by
      rintro ⟨⟨a, w'⟩, hok⟩
      obtain ⟨content, hdone⟩ := handle_of_perform hcommand hok
      rw [hhandle] at hdone
      cases hdone
    have hbad : 400 ≤ refusal.status := refuses_handle _ w route refusal hhandle
    rw [hafter, hstatus]
    refine ⟨?_, iff_of_false (fun hsuccess => ?_) hrefused⟩
    · rcases w.perform_cases command with ⟨a, hok, -⟩ | ⟨-, hsame⟩
      · exact absurd ⟨_, hok⟩ hrefused
      · exact hsame.symm
    · exact absurd hsuccess.2 (by omega)

theorem respond_of_not_asked (h : asked settings now request = none) :
    (respond settings now w request).2 = w := by
  cases hreached : reached request with
  | none => exact respond_of_reached_none hreached
  | some route =>
      rcases respond_of_reached settings now w hreached with
        ⟨content, w', hhandle, -, hafter⟩ | ⟨refusal, -, -, hafter⟩
      · obtain ⟨command, hcommand, hperformed⟩ := performed_of_handle hhandle
        cases command with
        | none =>
            cases hperformed
            exact hafter
        | some command =>
            rw [asked_eq_some_iff.mpr ⟨route, hreached, hcommand⟩] at h
            cases h
      · exact hafter

/-- A request leaves the workspace as it was or performs the command that it asks for. -/
theorem respond_cases (settings : Settings) (now : Timestamp) (w : Workspace) (request : Request) :
    (respond settings now w request).2 = w ∨
      ∃ command a, asked settings now request = some command ∧
        w.perform command = .ok (a, (respond settings now w request).2) := by
  cases hasked : asked settings now request with
  | none => exact .inl (respond_of_not_asked hasked)
  | some command =>
      obtain ⟨hafter, -⟩ := respond_of_asked (w := w) hasked
      rw [hafter]
      rcases w.perform_cases command with ⟨a, hok, -⟩ | ⟨-, hsame⟩
      · exact .inr ⟨command, a, rfl, hok⟩
      · exact .inl hsame

theorem respond_of_not_isSuccess (h : ¬ IsSuccess (respond settings now w request).1.status) :
    (respond settings now w request).2 = w := by
  rcases respond_cases settings now w request with hsame | ⟨command, a, hasked, hok⟩
  · exact hsame
  · exact absurd ((respond_of_asked hasked).2.mpr ⟨_, hok⟩) h

theorem respond_of_not_isUnderWorkspace (h : ¬ IsUnderWorkspace request.path) :
    (respond settings now w request).2 = w := by
  rcases respond_cases settings now w request with hsame | ⟨command, a, hasked, -⟩
  · exact hsame
  · exact absurd ((asks_iff.mpr hasked).isUnderWorkspace) h

/-- Reading changes the preview at most. -/
theorem respond_of_reading (h : request.method = .get ∨ request.method = .head) :
    (respond settings now w request).2.rules = w.rules ∧
      (respond settings now w request).2.selection = w.selection := by
  rcases respond_cases settings now w request with hsame | ⟨command, a, hasked, hok⟩
  · rw [hsame]
    exact ⟨rfl, rfl⟩
  · obtain ⟨i, rfl⟩ := (asks_iff.mpr hasked).eq_showPreview h
    generalize (respond settings now w request).2 = w' at hok
    cases Workspace.effect_of_perform hok with
    | showPreview => exact ⟨rfl, rfl⟩

/-! ## Runs of requests -/

/-- From a workspace whose positions are in range, the requests of a run perform the commands that
they ask for, one after the other. -/
theorem foldl_respondInPlace (hw : w.IsSound) (visits : List (Timestamp × Request)) :
    visits.foldl (fun w visit => (respondInPlace settings visit.1 w visit.2).2) w =
      w.run (visits.filterMap fun visit => asked settings visit.1 visit.2) := by
  -- The workspace stays sound from request to request, which is what `respondInPlace_eq` needs.
  induction visits generalizing w with
  | nil => rfl
  | cons visit rest ih =>
      rw [List.foldl_cons, respondInPlace_eq hw]
      cases hasked : asked settings visit.1 visit.2 with
      | none =>
          rw [respond_of_not_asked hasked, ih hw, List.filterMap_cons, hasked]
      | some command =>
          rw [(respond_of_asked hasked).1, ih (hw.after command), List.filterMap_cons, hasked]
          rfl

/-- While requests are served, no position of the workspace is out of range. -/
theorem isSound_attended (settings : Settings) (visits : List (Timestamp × Request)) :
    (attended settings visits).IsSound := by
  rw [attended, foldl_respondInPlace Workspace.isSound_empty]
  exact Workspace.isSound_empty.run _

/-- The steps of a command that a request asks for succeed, and the request is done, or they fail
and it is not. -/
theorem run_steps_of_asked (hw : w.IsSound) {command : Command}
    (h : asked settings now request = some command) :
    let response := (respond settings now w request).1
    let w' := (respond settings now w request).2
    (IsSuccess response.status ∧ ∃ a, command.steps.run w = .ok a w') ∨
      (¬ IsSuccess response.status ∧ ∃ e, command.steps.run w = .error e w') := by
  obtain ⟨hafter, hsuccess⟩ := respond_of_asked (w := w) h
  intro response w'
  rw [hsuccess, command.run_steps hw]
  rcases w.perform_cases command with ⟨a, hok, -⟩ | ⟨⟨cause, herror⟩, -⟩
  · refine .inl ⟨⟨_, hok⟩, a, ?_⟩
    rw [hok, InPlace.settled, ← hafter]
  · refine .inr ⟨?_, .refused cause, ?_⟩
    · rintro ⟨result, hok⟩
      rw [herror] at hok
      cases hok
    · rw [herror, InPlace.settled, ← Workspace.after_of_error herror, ← hafter]

/-- The server simulates the workspace. Whatever was requested before, the steps of a request end in
a response, the same as when the request is handled at once. They leave the workspace as it was or
as the steps of the command leave it for which the request asks. A request that asks for a command,
and it asks for one at most, is done if the steps of this command succeed, and it is not done if
they fail. Unless it is done, a request changes nothing, and neither does a request for a path that
is not under the workspace. A request to read changes neither the rules nor the selection. -/
theorem respond_simulates (settings : Settings) (visits : List (Timestamp × Request))
    (now : Timestamp) (request : Request) :
    let w := attended settings visits
    let asks := Asks { settings, now, request }
    ∃ response w',
      respondInPlace settings now w request = (some response, w') ∧
      respond settings now w request = (response, w') ∧
      (w' = w ∨ ∃ command a, asks command ∧ command.steps.run w = .ok a w') ∧
      (∀ command, asks command →
        (IsSuccess response.status ∧ ∃ a, command.steps.run w = .ok a w') ∨
          (¬ IsSuccess response.status ∧ ∃ e, command.steps.run w = .error e w')) ∧
      (∀ command other, asks command → asks other → command = other) ∧
      (¬ IsSuccess response.status → w' = w) ∧
      (¬ IsUnderWorkspace request.path → w' = w) ∧
      (request.method = .get ∨ request.method = .head →
        w'.rules = w.rules ∧ w'.selection = w.selection) := by
  intro w asks
  have hw : w.IsSound := isSound_attended settings visits
  refine ⟨(respond settings now w request).1, (respond settings now w request).2,
    respondInPlace_eq hw settings now request, rfl, ?_,
    fun _ hasks => run_steps_of_asked hw (asks_iff.mp hasks), fun _ _ => Asks.unique,
    respond_of_not_isSuccess, respond_of_not_isUnderWorkspace, respond_of_reading⟩
  -- What a command leaves at once is what its steps leave.
  rcases respond_cases settings now w request with hsame | ⟨command, a, hasked, hok⟩
  · exact .inl hsame
  · refine .inr ⟨command, a, asks_iff.mpr hasked, ?_⟩
    rw [command.run_steps hw, hok]
    rfl

/-- A template was added and selected. A position that is not there cannot be selected then; the
one that is there is previewed, and the rule and the selection stay. -/
theorem respond_simulates_template :
    let now : Timestamp := ⟨2024, 5, 1, 12, 30, 0, 0⟩
    let request (method : Method) (path : String) : Request :=
      { method, target := "/api/v1/workspace/" ++ path }
    let visits :=
      [(now, request .post "templates/SSH%20Brute%20Force"), (now, request .post "selection/0")]
    let toggle := request .post "selection/1"
    let preview := request .get "rules/0/preview"
    let w := attended {} visits
    w.length = 1 ∧ w.selection = [0] ∧
      (∃ e, (Command.toggle 1).steps.run w = .error e w) ∧
      (respondInPlace {} now w toggle).2 = w ∧
      (∃ a, (Command.showPreview 0).steps.run w = .ok a (respondInPlace {} now w preview).2) ∧
      (respondInPlace {} now w preview).2.rules = w.rules ∧
      (respondInPlace {} now w preview).2.selection = w.selection ∧
      (respondInPlace {} now w preview).2.preview = some 0 := by
  intro now request visits toggle preview w
  have hone : IsNumber "1".toList 1 := ⟨by decide, "1", by decide, by decide⟩
  have hzero : IsNumber "0".toList 0 := ⟨by decide, "0", by decide, by decide⟩
  have htoggle : Asks { settings := {}, now, request := toggle } (.toggle 1) :=
    .toggle ⟨rfl, by decide⟩ hone
  have hshow : Asks { settings := {}, now, request := preview } (.showPreview 0) :=
    .showPreview (.inl rfl) ⟨rfl, by decide⟩ hzero
  obtain ⟨refusal, left, hrefused, hrefusal, -, hsteps, -, hunchanged, -, -⟩ :=
    respond_simulates {} visits now toggle
  have hstatus : (respond {} now w toggle).1.status = 400 := by decide +kernel
  have hbad : ¬ IsSuccess refusal.status := by
    rw [hrefusal] at hstatus
    rw [hstatus]
    exact fun h => absurd h.2 (by decide)
  -- The status tells for each of the two requests whether its steps failed or were taken.
  obtain ⟨-, hfailed⟩ := (hsteps _ htoggle).resolve_left fun h => hbad h.1
  obtain ⟨shown, previewed, hshown, hpreviewed, -, hdone, -, -, -, hreading⟩ :=
    respond_simulates {} visits now preview
  obtain ⟨hrules, hselection⟩ := hreading (.inl rfl)
  have hpreview : (respond {} now w preview).2.preview = some 0 := by decide +kernel
  have hgood : (respond {} now w preview).1.status = 200 := by decide +kernel
  rw [hpreviewed] at hpreview hgood
  have hsuccess : IsSuccess shown.status := by
    rw [show shown.status = 200 from hgood]
    exact ⟨by decide, by decide⟩
  obtain ⟨-, htaken⟩ := (hdone _ hshow).resolve_right fun h => h.1 hsuccess
  have hleft : left = w := hunchanged hbad
  rw [hrefused, hshown]
  subst hleft
  exact ⟨by decide +kernel, by decide +kernel, hfailed, rfl, htaken, hrules, hselection, hpreview⟩

end RuleDesk.Api
