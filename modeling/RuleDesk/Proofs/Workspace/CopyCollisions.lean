import RuleDesk.Proofs.Workspace.Allocation
import RuleDesk.Proofs.Workspace.Collisions
import RuleDesk.Proofs.Workspace.Deletion

/-!
# Collisions of copies

A copy looks at the same traffic as its rule, since a fingerprint sees neither the identifier nor
the message, and so the two collide. Its identifier is new, so that copying adds no collision of
identifiers and takes none away. Rules that were there before keep their positions and fingerprints,
and two of them collide afterwards exactly if they did before.
-/

set_option autoImplicit false

namespace RuleDesk.Workspace

variable {w w' : Workspace}

theorem fingerprint_copyOf (r : Rule) (sid : UInt32) :
    (copyOf r sid).fingerprint = r.fingerprint :=
  Rule.fingerprint_eq_of_detection rfl

/-- Two positions are reported together exactly if their rules have the same fingerprint. -/
theorem exists_signature_iff {i j : Nat} (hne : i ≠ j) :
    (∃ group ∈ w.collisions.signatures, i ∈ group ∧ j ∈ group) ↔
      ∃ f, (w.rules.map Rule.fingerprint)[i]? = some f ∧
        (w.rules.map Rule.fingerprint)[j]? = some f :=
  (isGrouping_groupsBy _).exists_group_iff hne

/-- Rules under new and distinct identifiers change no collision of identifiers. -/
theorem collisions_sids_append {rules : List Rule} (hnodup : (rules.map (·.sid)).Nodup)
    (hnew : ∀ sid ∈ rules.map (·.sid), ∀ r ∈ w.rules, r.sid < sid)
    (hrules : w'.rules = w.rules ++ rules) : w'.collisions.sids = w.collisions.sids := by
  have hfresh : ∀ sid ∈ rules.map (·.sid), sid ∉ w.rules.map (·.sid) := by
    intro sid hsid hmem
    obtain ⟨r, hr, rfl⟩ := List.mem_map.mp hmem
    exact Std.lt_irrefl (hnew _ hsid r hr)
  refine eq_of_ascending_keys w'.pairwise_collisions_sids w.pairwise_collisions_sids ?_
  rintro ⟨sid, positions⟩
  rw [mem_collisions_sids_iff, mem_collisions_sids_iff, hrules, List.map_append]
  exact IsPositionsOf.append_fresh_iff hnodup hfresh

/-- Rules keep their collisions with each other when rules are added behind them. -/
theorem exists_signature_append_iff {rules : List Rule} (hrules : w'.rules = w.rules ++ rules)
    {i j : Nat} (hi : i < w.length) (hj : j < w.length) (hne : i ≠ j) :
    (∃ group ∈ w'.collisions.signatures, i ∈ group ∧ j ∈ group) ↔
      ∃ group ∈ w.collisions.signatures, i ∈ group ∧ j ∈ group := by
  have hold : ∀ k < w.length,
      (w'.rules.map Rule.fingerprint)[k]? = (w.rules.map Rule.fingerprint)[k]? := by
    intro k hk
    rw [hrules, List.map_append, List.getElem?_append_left]
    rw [List.length_map]
    exact hk
  rw [exists_signature_iff hne, exists_signature_iff hne, hold i hi, hold j hj]

/-- Each copy is reported together with its rule. -/
theorem IsSound.exists_signature_copy (h : w.IsSound)
    (hroom : w.topSid + w.selection.length < UInt32.size) (hrules : w'.rules = w.rules ++ w.copies)
    {k i : Nat} (hk : w.selection[k]? = some i) :
    ∃ group ∈ w'.collisions.signatures, i ∈ group ∧ w.length + k ∈ group := by
  have hi : i < w.length := h.selected i (List.mem_of_getElem? hk)
  obtain ⟨r, sid, hr, -, hcopy⟩ := h.getElem?_copies hroom hk
  have hr' : w'.rules[i]? = some r := by
    rw [hrules, List.getElem?_append_left hi]
    exact hr
  have hcopy' : w'.rules[w.length + k]? = some (copyOf r sid) := by
    rw [hrules, Workspace.length, List.getElem?_append_right (Nat.le_add_right _ _),
      Nat.add_sub_cancel_left]
    exact hcopy
  refine (exists_signature_iff (by omega)).mpr ⟨r.fingerprint, ?_, ?_⟩
  · rw [List.getElem?_map, hr']
    rfl
  · rw [List.getElem?_map, hcopy', Option.map_some, fingerprint_copyOf]

/-- After any run from the empty workspace that leaves fewer rules than there are words, a copying
that succeeds makes each copy collide with its rule and changes no other collision of rules that were
there: the shared identifiers and their positions are what they were, and two positions of old rules
are in a group of fingerprints together exactly if they were before. Operations on words copy the
same rules. -/
theorem duplicate_collides (commands : List Command)
    (hcount : (empty.run commands).length < UInt32.size) {sids : List UInt32} {w' : Workspace}
    (hok : (empty.run commands).duplicate = .ok (sids, w')) :
    let w := empty.run commands
    w.selection.Pairwise (· < ·) ∧
      (∀ k i, w.selection[k]? = some i →
        ∃ group ∈ w'.collisions.signatures, i ∈ group ∧ w.length + k ∈ group) ∧
      w'.collisions.sids = w.collisions.sids ∧
      (∀ i j, i < w.length → j < w.length → i ≠ j →
        ((∃ group ∈ w'.collisions.signatures, i ∈ group ∧ j ∈ group) ↔
          ∃ group ∈ w.collisions.signatures, i ∈ group ∧ j ∈ group)) ∧
      w.duplicateInWords = .ok (sids, w') := by
  intro w
  have hsound : w.IsSound := isSound_empty.run commands
  have hselected : w.selection.length < UInt32.size := by
    have hlength := hsound.length_unselected
    exact Nat.lt_of_le_of_lt (hlength ▸ Nat.le_add_left _ _) hcount
  have hwords : w.duplicateInWords = .ok (sids, w') := by
    rw [duplicateInWords_eq hselected, hok]
    rfl
  -- copying has one way to succeed, and it puts the copies behind the rules
  cases duplicate_eq_ok hok with
  | duplicate hne hroom =>
      have hcopied := hsound.isCopied hroom
      refine ⟨hsound.ascending, ?_, ?_, ?_, hwords⟩
      · intro k i hk
        exact hsound.exists_signature_copy hroom rfl hk
      · exact collisions_sids_append hcopied.nodup hcopied.fresh rfl
      · intro i j hi hj hij
        exact exists_signature_append_iff rfl hi hj hij

/-- Two rules share an identifier and two a fingerprint before the last and the first are copied: the
copies join the groups of their rules, and the shared identifier is the same. -/
theorem duplicate_collides_crossed :
    let w := empty.run
      [.extend [{ message := "Ping" }, { message := "Scan", content := "GET", sid := 7 },
        { message := "Ping again", sid := 7 }], .select [2, 0]]
    let w' : Workspace :=
      { w with
        rules := w.rules ++ [{ message := "Ping (copy)", sid := 1000002 },
          { message := "Ping again (copy)", sid := 1000003 }]
        selection := [] }
    w.duplicate = .ok ([1000002, 1000003], w') ∧
      (∃ group ∈ w'.collisions.signatures, 0 ∈ group ∧ 3 ∈ group) ∧
      (∃ group ∈ w'.collisions.signatures, 2 ∈ group ∧ 4 ∈ group) ∧
      w'.collisions.sids = [(7, [1, 2])] := by
  intro w w'
  have hcount : w.length < UInt32.size := by
    show 3 < UInt32.size
    decide
  have hok : w.duplicate = .ok ([1000002, 1000003], w') := rfl
  have hsids : w.collisions.sids = [(7, [1, 2])] := by decide
  obtain ⟨-, hcopies, hsame, -⟩ := duplicate_collides
    [.extend [{ message := "Ping" }, { message := "Scan", content := "GET", sid := 7 },
      { message := "Ping again", sid := 7 }], .select [2, 0]] hcount hok
  exact ⟨hok, hcopies 0 0 rfl, hcopies 1 2 rfl, hsame.trans hsids⟩

end RuleDesk.Workspace
