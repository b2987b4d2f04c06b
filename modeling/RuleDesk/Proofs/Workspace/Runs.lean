import RuleDesk.Proofs.Workspace.Effects
import RuleDesk.Proofs.Workspace.Positions

/-!
# Runs

A workspace keeps positions in two places, the selection and the preview, while commands add, copy
and delete rules in any order. Here it is shown that in every run from the empty workspace no kept
position is stale: it is a position of the list, and the rule that stands there is the one that
stood there when the position was chosen.

Two facts about single commands carry this. A command that does not succeed in deleting leaves the
rules at the front of the new list, so that every position keeps its rule. A command that does
succeed in deleting forgets all positions.
-/

set_option autoImplicit false

namespace RuleDesk

/-- The command puts a position into the selection. -/
def Command.Selects : Command → Nat → Prop
  | .select indices, i => i ∈ indices
  | .toggle j, i => i = j
  | .selectAll checked, _ => checked = true
  | _, _ => False

namespace Workspace

variable {w w' : Workspace} {c : Command} {a : Answer} {i : Nat} {t : Option String}

/-! ## Notions -/

/-- No position that the workspace keeps is out of range. -/
structure IsSound (w : Workspace) : Prop where
  ascending : w.selection.Pairwise (· < ·)
  selected : ∀ i ∈ w.selection, i < w.length
  previewed : ∀ i, w.preview = some i → i < w.length

/-- The workspace keeps the position, as selected or as previewed. -/
def Marks (w : Workspace) (i : Nat) : Prop :=
  i ∈ w.selection ∨ w.preview = some i

/-- The command does not fail. -/
def Succeeds (w : Workspace) (c : Command) : Prop :=
  ∃ result, w.perform c = .ok result

/-- The text of the previewed rule, if there is one, is `t`. -/
def Shows (w : Workspace) (t : Option String) : Prop :=
  ∀ i, w.preview = some i → ∃ r, w.rules[i]? = some r ∧ t = some r.encode

/-- The text that a command answers if it is a preview and succeeds. -/
def shownBy? (w : Workspace) (c : Command) : Option String :=
  match c, w.perform c with
  | .showPreview _, .ok (.text s, _) => some s
  | _, _ => none

/-- The text that the last successful preview of a run answers. -/
def lastShown? (w : Workspace) : List Command → Option String
  | [] => none
  | c :: rest => ((w.after c).lastShown? rest).or (w.shownBy? c)

/-- Something holds in every state of a run, the first and the last one included. -/
def Throughout (p : Workspace → Prop) (w : Workspace) : List Command → Prop
  | [] => p w
  | c :: rest => p w ∧ (w.after c).Throughout p rest

/-- The same rule stands at a position before and after a run. -/
def Stays (w : Workspace) (commands : List Command) (i : Nat) : Prop :=
  ∃ r, w.rules[i]? = some r ∧ (w.run commands).rules[i]? = some r

theorem Throughout.first {p : Workspace → Prop} {commands : List Command}
    (h : w.Throughout p commands) : p w := by
  cases commands with
  | nil => exact h
  | cons c rest => exact h.1

theorem Throughout.mono {p q : Workspace → Prop} (hpq : ∀ v, p v → q v) {commands : List Command}
    (h : w.Throughout p commands) : w.Throughout q commands := by
  induction commands generalizing w with
  | nil => exact hpq w h
  | cons c rest ih => exact ⟨hpq w h.1, ih h.2⟩

/-! ## One command -/

/-- A rule keeps its position when rules are added behind it. -/
theorem getElem?_of_isPrefix {rules rules' : List Rule} (h : rules <+: rules') {r : Rule}
    (hr : rules[i]? = some r) : rules'[i]? = some r := by
  obtain ⟨hi, rfl⟩ := List.getElem?_eq_some_iff.mp hr
  exact List.prefix_iff_getElem?.mp h i hi

/-- Only a deletion moves rules. -/
theorem Effect.prefix_rules (h : w.Effect c a w') (hc : c ≠ .deleteSelected) :
    w.rules <+: w'.rules := by
  cases h with
  | append | submit | extend | duplicate => exact List.prefix_append _ _
  | select | toggleOff | toggleOn | selectAll | clearSelection | showPreview =>
      exact List.prefix_rfl
  | deleteSelected => exact absurd rfl hc

/-- A deletion forgets all positions. -/
theorem forgets_after (h : w.Succeeds .deleteSelected) :
    (w.after .deleteSelected).selection = [] ∧ (w.after .deleteSelected).preview = none := by
  obtain ⟨⟨a, w'⟩, hok⟩ := h
  rw [after_of_ok hok]
  cases effect_of_perform hok with
  | deleteSelected => exact ⟨rfl, rfl⟩

theorem prefix_rules_after (hc : c = .deleteSelected → ¬ w.Succeeds c) :
    w.rules <+: (w.after c).rules := by
  rcases w.perform_cases c with ⟨a, hok, heffect⟩ | ⟨-, hsame⟩
  · exact heffect.prefix_rules fun hdelete => hc hdelete ⟨_, hok⟩
  · exact ⟨[], by rw [hsame, List.append_nil]⟩

/-- After a command that leaves a position marked, the rules still are where they were. -/
theorem prefix_rules_after_of_marks (h : (w.after c).Marks i) : w.rules <+: (w.after c).rules := by
  apply prefix_rules_after
  rintro rfl hsucceeds
  obtain ⟨hselection, hpreview⟩ := forgets_after hsucceeds
  rcases h with hmem | hsome
  · rw [hselection] at hmem
    exact List.not_mem_nil hmem
  · rw [hpreview] at hsome
    cases hsome

/-! ## Positions in range -/

/-- Without kept positions there is none that is out of range. -/
theorem isSound_unmarked (rules : List Rule) :
    IsSound { rules, selection := [], preview := none } where
  ascending := List.Pairwise.nil
  selected := fun _ hi => absurd hi List.not_mem_nil
  previewed := fun _ hi => by cases hi

theorem isSound_empty : empty.IsSound :=
  isSound_unmarked []

theorem IsSound.extend (h : w.IsSound) (rules : List Rule) :
    IsSound { w with rules := w.rules ++ rules } := by
  have hle : w.length ≤ (w.rules ++ rules).length := (List.prefix_append _ _).length_le
  exact
    { ascending := h.ascending
      selected := fun i hi => Nat.lt_of_lt_of_le (h.selected i hi) hle
      previewed := fun i hi => Nat.lt_of_lt_of_le (h.previewed i hi) hle }

theorem IsSound.reselect (h : w.IsSound) {selection : List Nat}
    (hascending : selection.Pairwise (· < ·)) (hlt : ∀ i ∈ selection, i < w.length) :
    IsSound { w with selection := selection } :=
  { ascending := hascending, selected := hlt, previewed := h.previewed }

theorem IsSound.deselect (h : w.IsSound) : IsSound { w with selection := [] } :=
  h.reselect List.Pairwise.nil fun _ hi => absurd hi List.not_mem_nil

theorem IsSound.of_effect (h : w.IsSound) (heffect : w.Effect c a w') : w'.IsSound := by
  cases heffect with
  | append | submit | extend => exact h.extend _
  | select hlt =>
      refine h.reselect (pairwise_positionsOf _) ?_
      intro j hj
      exact hlt j (mem_positionsOf.mp hj)
  | toggleOff =>
      refine h.reselect (h.ascending.filter _) ?_
      intro j hj
      exact h.selected j (List.mem_filter.mp hj).1
  | toggleOn hlt =>
      refine h.reselect (pairwise_insertPosition _ h.ascending) ?_
      intro j hj
      rcases mem_insertPosition.mp hj with rfl | hj
      · exact hlt
      · exact h.selected j hj
  | @selectAll checked =>
      cases checked with
      | true => exact h.reselect List.pairwise_lt_range fun i hi => List.mem_range.mp hi
      | false => exact h.deselect
  | clearSelection => exact h.deselect
  | duplicate => exact (h.extend _).deselect
  | deleteSelected => exact isSound_unmarked _
  | showPreview hr =>
      refine { ascending := h.ascending, selected := h.selected, previewed := ?_ }
      intro j hj
      cases hj
      exact (List.getElem?_eq_some_iff.mp hr).1

theorem IsSound.after (h : w.IsSound) (c : Command) : (w.after c).IsSound := by
  rcases w.perform_cases c with ⟨a, -, heffect⟩ | ⟨-, hsame⟩
  · exact h.of_effect heffect
  · rw [hsame]
    exact h

theorem IsSound.run (h : w.IsSound) (commands : List Command) : (w.run commands).IsSound := by
  induction commands generalizing w with
  | nil => exact h
  | cons c rest ih => exact ih (h.after c)

/-! ## The text of the preview -/

theorem Effect.shows (h : w.Effect c a w') (hok : w.perform c = .ok (a, w')) (hshows : w.Shows t) :
    w'.Shows ((w.shownBy? c).or t) := by
  -- Except for previews and deletions, the preview is the old one and its rule is where it was.
  have hold : (∀ j, c ≠ .showPreview j) → w'.preview = w.preview → w.rules <+: w'.rules →
      w'.Shows ((w.shownBy? c).or t) := by
    intro hc hpreview hrules i hi
    obtain ⟨r, hr, ht⟩ := hshows i (hpreview ▸ hi)
    have hnone : w.shownBy? c = none := by
      unfold shownBy?
      split
      · next j s w₁ hperform => exact absurd rfl (hc j)
      · rfl
    exact ⟨r, getElem?_of_isPrefix hrules hr, by rw [hnone, ht, Option.none_or]⟩
  cases h with
  | append | submit | extend | duplicate =>
      exact hold (fun _ hc => by cases hc) rfl (List.prefix_append _ _)
  | select | toggleOff | toggleOn | selectAll | clearSelection =>
      exact hold (fun _ hc => by cases hc) rfl List.prefix_rfl
  | deleteSelected =>
      intro i hi
      cases hi
  | showPreview hr =>
      intro i hi
      cases hi
      exact ⟨_, hr, by simp only [shownBy?, hok, Option.or]⟩

theorem Shows.after (h : w.Shows t) (c : Command) : (w.after c).Shows ((w.shownBy? c).or t) := by
  rcases w.perform_cases c with ⟨a, hok, heffect⟩ | ⟨⟨e, herror⟩, hsame⟩
  · exact heffect.shows hok h
  · have hnone : w.shownBy? c = none := by simp only [shownBy?, herror]
    rw [hsame, hnone, Option.none_or]
    exact h

theorem Shows.run (h : w.Shows t) (commands : List Command) :
    (w.run commands).Shows ((w.lastShown? commands).or t) := by
  induction commands generalizing w t with
  | nil =>
      rw [lastShown?, Option.none_or]
      exact h
  | cons c rest ih =>
      rw [lastShown?, Option.or_assoc]
      exact ih (h.after c)

/-! ## How long a position is kept -/

/-- As long as a position is kept, its rule stays. -/
theorem IsSound.stays (h : w.IsSound) {commands : List Command}
    (hmarks : w.Throughout (·.Marks i) commands) : w.Stays commands i := by
  have hlt : i < w.rules.length := by
    rcases hmarks.first with hmem | hsome
    · exact h.selected i hmem
    · exact h.previewed i hsome
  -- By induction on the run: the position is kept behind its first command, so that this command
  -- has not moved the rule, and the rest of the run does not move it by the induction hypothesis.
  induction commands generalizing w with
  | nil => exact ⟨w.rules[i], List.getElem?_eq_getElem hlt, List.getElem?_eq_getElem hlt⟩
  | cons c rest ih =>
      have hrules : w.rules <+: (w.after c).rules := prefix_rules_after_of_marks hmarks.2.first
      obtain ⟨r, hr, hlast⟩ := ih (h.after c) hmarks.2 (Nat.lt_of_lt_of_le hlt hrules.length_le)
      have hfirst : w.rules[i]? = some w.rules[i] := List.getElem?_eq_getElem hlt
      have hnext : (w.after c).rules[i]? = some w.rules[i] := getElem?_of_isPrefix hrules hfirst
      obtain rfl : w.rules[i] = r := Option.some.inj (hnext.symm.trans hr)
      exact ⟨_, hfirst, hlast⟩

/-- What holds at the end of a run and was not the case at its start was brought about by one of its
commands and not undone since. -/
theorem exists_cause {p : Workspace → Prop} {causes : Workspace → Command → Prop}
    (hstep : ∀ v c, p (v.after c) → causes v c ∨ p v) {commands : List Command}
    (h : p (w.run commands)) :
    w.Throughout p commands ∨ ∃ before c after, commands = before ++ c :: after ∧
      causes (w.run before) c ∧ (w.run (before ++ [c])).Throughout p after := by
  -- The last command that brought it about is looked for in the rest of the run first.
  induction commands generalizing w with
  | nil => exact .inl h
  | cons c rest ih =>
      rcases ih h with hrest | ⟨before, d, after, rfl, hcause, hafter⟩
      · rcases hstep w c hrest.first with hcause | hw
        · exact .inr ⟨[], c, rest, rfl, hcause, hrest⟩
        · exact .inl ⟨hw, hrest⟩
      · exact .inr ⟨c :: before, d, after, rfl, hcause, hafter⟩

theorem Effect.selects (h : w.Effect c a w') (hmem : i ∈ w'.selection) :
    c.Selects i ∨ i ∈ w.selection := by
  cases h with
  | append | submit | extend | showPreview => exact .inr hmem
  | select => exact .inl (mem_positionsOf.mp hmem)
  | toggleOff => exact .inr (List.mem_filter.mp hmem).1
  | toggleOn => exact mem_insertPosition.mp hmem
  | @selectAll checked =>
      cases checked with
      | true => exact .inl rfl
      | false => exact absurd hmem List.not_mem_nil
  | clearSelection | duplicate | deleteSelected => exact absurd hmem List.not_mem_nil

theorem selects_of_mem_after (hmem : i ∈ (w.after c).selection) :
    (w.Succeeds c ∧ c.Selects i) ∨ i ∈ w.selection := by
  rcases w.perform_cases c with ⟨a, hok, heffect⟩ | ⟨-, hsame⟩
  · exact (heffect.selects hmem).imp_left fun hselects => ⟨⟨_, hok⟩, hselects⟩
  · exact .inr (hsame ▸ hmem)

theorem Effect.previews (h : w.Effect c a w') (hsome : w'.preview = some i) :
    c = .showPreview i ∨ w.preview = some i := by
  cases h with
  | append | submit | extend | select | toggleOff | toggleOn | selectAll | clearSelection
  | duplicate => exact .inr hsome
  | deleteSelected => cases hsome
  | showPreview =>
      cases hsome
      exact .inl rfl

theorem previews_of_preview_after (hsome : (w.after c).preview = some i) :
    (w.Succeeds c ∧ c = .showPreview i) ∨ w.preview = some i := by
  rcases w.perform_cases c with ⟨a, hok, heffect⟩ | ⟨-, hsame⟩
  · exact (heffect.previews hsome).imp_left fun hpreviews => ⟨⟨_, hok⟩, hpreviews⟩
  · exact .inr (hsame ▸ hsome)

/-! ## Runs from the empty workspace -/

/-- Every selected position was selected by a command of the run, and its rule is the same since. -/
theorem exists_select {commands : List Command} (hmem : i ∈ (empty.run commands).selection) :
    ∃ before c after, commands = before ++ c :: after ∧ (empty.run before).Succeeds c ∧
      c.Selects i ∧ (empty.run (before ++ [c])).Throughout (i ∈ ·.selection) after ∧
      (empty.run (before ++ [c])).Stays after i := by
  rcases exists_cause (p := (i ∈ ·.selection)) (fun _ _ => selects_of_mem_after) hmem with
    hall | ⟨before, c, after, hsplit, ⟨hsucceeds, hselects⟩, hafter⟩
  · exact absurd hall.first List.not_mem_nil
  · exact ⟨before, c, after, hsplit, hsucceeds, hselects, hafter,
      (isSound_empty.run _).stays (hafter.mono fun _ => .inl)⟩

/-- The previewed position was previewed by a command of the run, and its rule is the same since. -/
theorem exists_preview {commands : List Command} (hsome : (empty.run commands).preview = some i) :
    ∃ before after, commands = before ++ .showPreview i :: after ∧
      (empty.run before).Succeeds (.showPreview i) ∧
      (empty.run (before ++ [.showPreview i])).Throughout (·.preview = some i) after ∧
      (empty.run (before ++ [.showPreview i])).Stays after i := by
  rcases exists_cause (p := (·.preview = some i)) (fun _ _ => previews_of_preview_after) hsome with
    hall | ⟨before, c, after, hsplit, ⟨hsucceeds, rfl⟩, hafter⟩
  · cases hall.first
  · exact ⟨before, after, hsplit, hsucceeds, hafter,
      (isSound_empty.run _).stays (hafter.mono fun _ => .inr)⟩

/-- The rules at selected positions are all there to be copied. -/
theorem IsSound.map_selection (h : w.IsSound) :
    w.selection.map (w.rules[·]?) = w.selected.map some := by
  have hall : ∀ positions : List Nat, (∀ i ∈ positions, i < w.rules.length) →
      positions.map (w.rules[·]?) = (positions.filterMap (w.rules[·]?)).map some := by
    intro positions hlt
    induction positions with
    | nil => rfl
    | cons i rest ih =>
        have hi : i < w.rules.length := hlt i List.mem_cons_self
        rw [List.map_cons, List.filterMap_cons, List.getElem?_eq_getElem hi, List.map_cons,
          ih fun j hj => hlt j (List.mem_cons_of_mem i hj)]
  exact hall w.selection h.selected

/-- No position goes stale in a run from the empty workspace: the kept positions are positions of
the list, and the text of the previewed rule is the one that the last preview answered; nothing but
a deletion that succeeds moves a rule, and such a deletion forgets all positions; so a position
stands for the rule for which it was chosen as long as it is kept. Copying finds a rule at every
selected position, and deleting never removes a position that the list does not have at that
point. -/
theorem no_stale_positions (commands : List Command) :
    let w := empty.run commands
    (∀ i ∈ w.selection, i < w.length) ∧
    (∀ i, w.preview = some i → i < w.length) ∧
    w.Shows (empty.lastShown? commands) ∧
    (∀ c, (c = .deleteSelected → ¬ w.Succeeds c) → w.rules <+: (w.after c).rules) ∧
    (w.Succeeds .deleteSelected →
      (w.after .deleteSelected).selection = [] ∧ (w.after .deleteSelected).preview = none) ∧
    (∀ i ∈ w.selection, ∃ before c after, commands = before ++ c :: after ∧
      (empty.run before).Succeeds c ∧ c.Selects i ∧
      (empty.run (before ++ [c])).Throughout (i ∈ ·.selection) after ∧
      (empty.run (before ++ [c])).Stays after i) ∧
    (∀ i, w.preview = some i → ∃ before after, commands = before ++ .showPreview i :: after ∧
      (empty.run before).Succeeds (.showPreview i) ∧
      (empty.run (before ++ [.showPreview i])).Throughout (·.preview = some i) after ∧
      (empty.run (before ++ [.showPreview i])).Stays after i) ∧
    (∀ after i, w.Throughout (·.Marks i) after → w.Stays after i) ∧
    w.selection.map (w.rules[·]?) = w.selected.map some ∧
    (∀ front i back, w.selection = front ++ i :: back → i < (removeAt w.rules back).length) := by
  intro w
  have hsound : w.IsSound := isSound_empty.run commands
  have hempty : empty.Shows none := fun i hi => by cases hi
  have hshows : w.Shows (empty.lastShown? commands) := by
    have hrun := hempty.run commands
    rwa [Option.or_none] at hrun
  refine ⟨hsound.selected, hsound.previewed, hshows, fun c => prefix_rules_after, forgets_after,
    fun i => exists_select, fun i => exists_preview, fun after i => hsound.stays,
    hsound.map_selection, ?_⟩
  intro front i back hselection
  have hascending := hsound.ascending
  have hlt := hsound.selected
  rw [hselection] at hascending hlt
  exact lt_length_removeAt hascending hlt

/-- Of two rules the second is previewed and the first is copied, and then the copy is selected.
Another copy leaves the previewed rule where it is; a deletion forgets it. -/
theorem no_stale_positions_copied :
    let w := empty.run
      [.extend [{ message := "one", sid := 7 }, { message := "two" }], .showPreview 1, .select [0],
        .duplicate, .toggle 2]
    w.selection = [2] ∧ 2 < w.length ∧ w.Stays [.duplicate] 1 ∧
      (w.after .deleteSelected).preview = none := by
  intro w
  have hselection : w.selection = [2] := by decide +kernel
  have hmem : 2 ∈ w.selection := hselection ▸ List.mem_cons_self
  have hpreview : w.preview = some 1 := by decide +kernel
  have hcopied : (w.after .duplicate).preview = some 1 := by decide +kernel
  obtain ⟨hselected, -, -, -, hdelete, -, -, hstays, -⟩ := no_stale_positions
    [.extend [{ message := "one", sid := 7 }, { message := "two" }], .showPreview 1, .select [0],
      .duplicate, .toggle 2]
  refine ⟨hselection, hselected 2 hmem, ?_, ?_⟩
  · exact hstays [.duplicate] 1 ⟨.inr hpreview, .inr hcopied⟩
  · exact (hdelete ⟨_, rfl⟩).2

end Workspace

end RuleDesk
