import Mathlib.Data.List.Sort
import RuleDesk.Proofs.Rule.Fingerprints
import RuleDesk.Proofs.Workspace.Groups

/-!
# What the collision report says

The report of a workspace is exact: it lists the identifiers that several rules have, each with all
their positions, and the classes of positions whose rules share a fingerprint, each class once. The
classes stand in the order of their first positions, so that nothing in the report depends on the
values of fingerprints.

Ordered maps find the same report, although their groups come in the order of the hash values: two
groups of different keys share no position, so sorting the groups compares first positions only.
-/

set_option autoImplicit false

namespace RuleDesk

/-! ## Entries in the order of their keys -/

/-- Entries whose keys ascend are determined by what entries there are. -/
theorem eq_of_ascending_keys {κ : Type} [LE κ] [LT κ] [Std.IsLinearOrder κ] [Std.LawfulOrderLT κ]
    {a b : List (κ × List Nat)} (ha : a.Pairwise (fun g h => g.1 < h.1))
    (hb : b.Pairwise (fun g h => g.1 < h.1)) (hmem : ∀ g, g ∈ a ↔ g ∈ b) : a = b := by
  have hirrefl : ∀ g h : κ × List Nat, g.1 < h.1 → g ≠ h := by
    rintro g h hlt rfl
    exact Std.lt_irrefl hlt
  have hperm : a.Perm b :=
    (List.perm_ext_iff_of_nodup (ha.imp (hirrefl _ _)) (hb.imp (hirrefl _ _))).mpr hmem
  exact hperm.eq_of_pairwise
    (fun _ _ _ _ hlt hgt => absurd (Std.lt_trans hlt hgt) Std.lt_irrefl) ha hb

/-- Putting groups at their places one after the other is sorting them by insertion. -/
theorem foldr_insertBySid (groups : List (UInt32 × List Nat)) :
    groups.foldr insertBySid [] = groups.insertionSort (fun a b => a.1 ≤ b.1) := by
  have hinsert : ∀ (g : UInt32 × List Nat) (rest : List (UInt32 × List Nat)),
      insertBySid g rest = rest.orderedInsert (fun a b => a.1 ≤ b.1) g := by
    intro g rest
    induction rest with
    | nil => rfl
    | cons other rest ih =>
        rw [insertBySid, List.orderedInsert, ih]
  induction groups with
  | nil => rfl
  | cons g rest ih => rw [List.foldr_cons, ih, hinsert, List.insertionSort_cons]

namespace Workspace

variable (w : Workspace)

/-- The identifiers of the report are those of the groups. -/
theorem perm_collisions_sids :
    w.collisions.sids.Perm (shared (groupsBy (w.rules.map (·.sid)))) := by
  show ((shared (groupsBy (w.rules.map (·.sid)))).foldr insertBySid []).Perm _
  rw [foldr_insertBySid]
  exact List.perm_insertionSort _ _

theorem mem_collisions_sids_iff {sid : UInt32} {positions : List Nat} :
    (sid, positions) ∈ w.collisions.sids ↔
      1 < positions.length ∧ IsPositionsOf (w.rules.map (·.sid)) sid positions := by
  rw [w.perm_collisions_sids.mem_iff, (isGrouping_groupsBy _).mem_shared_iff]

/-- No identifier is listed twice, and a smaller one comes before a larger one. -/
theorem pairwise_collisions_sids : w.collisions.sids.Pairwise (fun a b => a.1 < b.1) := by
  have htotal : Std.Total (fun a b : UInt32 × List Nat => a.1 ≤ b.1) :=
    ⟨fun a b => UInt32.le_total a.1 b.1⟩
  have htrans : IsTrans (UInt32 × List Nat) (fun a b => a.1 ≤ b.1) :=
    ⟨fun a b c => UInt32.le_trans⟩
  have hle : w.collisions.sids.Pairwise (fun a b => a.1 ≤ b.1) := by
    show ((shared (groupsBy (w.rules.map (·.sid)))).foldr insertBySid []).Pairwise _
    rw [foldr_insertBySid]
    exact List.pairwise_insertionSort _ _
  have hnodup : (w.collisions.sids.map (·.1)).Nodup := by
    rw [(w.perm_collisions_sids.map _).nodup_iff]
    exact (isGrouping_groupsBy _).nodup.sublist (List.filter_sublist.map _)
  exact hle.imp₂ (fun a b => Std.lt_of_le_of_ne) (List.pairwise_map.mp hnodup)

theorem mem_collisions_signatures_iff {group : List Nat} :
    group ∈ w.collisions.signatures ↔
      1 < group.length ∧ ∃ f, IsPositionsOf (w.rules.map Rule.fingerprint) f group :=
  (isGrouping_groupsBy _).mem_positions_iff

/-- Groups of fingerprints stand in the order of their first positions. -/
theorem pairwise_first_collisions_signatures :
    (w.collisions.signatures.filterMap List.head?).Pairwise (· < ·) := by
  have hsublist : w.collisions.signatures.Sublist
      ((groupsBy (w.rules.map Rule.fingerprint)).map (·.2)) := List.filter_sublist.map _
  exact (pairwise_firstPositions_groupsBy _).sublist (hsublist.filterMap _)

end Workspace

/-! ## The order of groups -/

theorem mayPrecede_trans (a b c : List Nat) (hab : mayPrecede a b = true)
    (hbc : mayPrecede b c = true) : mayPrecede a c = true := by
  induction a generalizing b c with
  | nil => rfl
  | cons i a ih =>
      cases b with
      | nil => cases hab
      | cons j b =>
          cases c with
          | nil => cases hbc
          | cons k c =>
              simp only [mayPrecede, Bool.or_eq_true, decide_eq_true_iff, Bool.and_eq_true,
                beq_iff_eq] at hab hbc ⊢
              rcases hab with hij | ⟨rfl, hab⟩
              · rcases hbc with hjk | ⟨rfl, -⟩
                · exact .inl (Nat.lt_trans hij hjk)
                · exact .inl hij
              · exact hbc.imp_right fun h => ⟨h.1, ih b c hab h.2⟩

theorem mayPrecede_total (a b : List Nat) : (mayPrecede a b || mayPrecede b a) = true := by
  induction a generalizing b with
  | nil => rfl
  | cons i a ih =>
      cases b with
      | nil => rfl
      | cons j b =>
          have hrest := ih b
          rcases Nat.lt_trichotomy i j with h | rfl | h
          · simp [mayPrecede, h]
          · simpa [mayPrecede] using hrest
          · simp [mayPrecede, h]

theorem mayPrecede_antisymm {a b : List Nat} (hab : mayPrecede a b = true)
    (hba : mayPrecede b a = true) : a = b := by
  induction a generalizing b with
  | nil =>
      cases b with
      | nil => rfl
      | cons j b => cases hba
  | cons i a ih =>
      cases b with
      | nil => cases hab
      | cons j b =>
          simp only [mayPrecede, Bool.or_eq_true, decide_eq_true_iff, Bool.and_eq_true,
            beq_iff_eq] at hab hba
          rcases hab with hij | ⟨rfl, hab⟩
          · rcases hba with hji | ⟨rfl, -⟩
            · exact absurd hij (Nat.lt_asymm hji)
            · exact absurd hij (Nat.lt_irrefl _)
          · rcases hba with hlt | ⟨-, hba⟩
            · exact absurd hlt (Nat.lt_irrefl _)
            · rw [ih hab hba]

/-- Groups in the order of their first positions are sorted. -/
theorem pairwise_mayPrecede {groups : List (List Nat)}
    (h : (groups.filterMap List.head?).Pairwise (· < ·)) (hne : ∀ g ∈ groups, g ≠ []) :
    groups.Pairwise (fun a b => mayPrecede a b = true) := by
  refine (List.pairwise_filterMap.mp h).imp_of_mem ?_
  intro a b ha hb hlt
  obtain ⟨i, a', rfl⟩ := List.exists_cons_of_ne_nil (hne a ha)
  obtain ⟨j, b', rfl⟩ := List.exists_cons_of_ne_nil (hne b hb)
  simp [mayPrecede, hlt i rfl j rfl]

/-! ## Ordered maps -/

namespace CollisionMaps

variable {hash : Rule → String} {rules : List Rule} {maps : CollisionMaps}

/-- Both maps group the positions of the rules, and their keys ascend. -/
structure IsExact (hash : Rule → String) (rules : List Rule) (maps : CollisionMaps) : Prop where
  bySid : IsGrouping (rules.map (·.sid)) maps.bySid
  byHash : IsGrouping (rules.map hash) maps.byHash
  sids_ascend : maps.bySid.Pairwise (fun a b => a.1 < b.1)
  hashes_ascend : maps.byHash.Pairwise (fun a b => a.1 < b.1)

theorem isExact_nil (hash : Rule → String) : IsExact hash [] {} where
  bySid := isGrouping_nil
  byHash := isGrouping_nil
  sids_ascend := List.Pairwise.nil
  hashes_ascend := List.Pairwise.nil

/-- Entering the next rule keeps both maps exact. -/
theorem IsExact.enter (h : IsExact hash rules maps) (r : Rule) :
    IsExact hash (rules ++ [r]) (maps.enter hash (r, rules.length)) := by
  have hsid : Adds r.sid (rules.map (·.sid)).length maps.bySid
      (addInOrder r.sid rules.length maps.bySid) := by
    rw [List.length_map]
    exact adds_addInOrder h.sids_ascend
  have hhash : Adds (hash r) (rules.map hash).length maps.byHash
      (addInOrder (hash r) rules.length maps.byHash) := by
    rw [List.length_map]
    exact adds_addInOrder h.hashes_ascend
  refine ⟨?_, ?_, pairwise_addInOrder h.sids_ascend, pairwise_addInOrder h.hashes_ascend⟩
  · rw [List.map_append]
    exact h.bySid.adds hsid
  · rw [List.map_append]
    exact h.byHash.adds hhash

theorem isExact_foldl (hash : Rule → String) (rules : List Rule) :
    IsExact hash rules (rules.zipIdx.foldl (CollisionMaps.enter hash) {}) := by
  induction rules using List.reverseRecOn with
  | nil => exact isExact_nil hash
  | append_singleton rules r ih =>
      rw [List.zipIdx_append, List.foldl_append, Nat.zero_add]
      exact ih.enter r

end CollisionMaps

/-! ## Rules that share a value -/

section Sharing

variable {κ μ : Type} {rules : List Rule} {f : Rule → κ} {g : Rule → μ} {group : List Nat}

/-- The positions of a value depend only on which rules share one. -/
theorem IsPositionsOf.of_sharing (hsame : ∀ r ∈ rules, ∀ s ∈ rules, f r = f s ↔ g r = g s)
    {s : Rule} (hs : s ∈ rules) (h : IsPositionsOf (rules.map f) (f s) group) :
    IsPositionsOf (rules.map g) (g s) group where
  ascending := h.ascending
  mem_iff i := by
    rw [h.mem_iff, List.getElem?_map, List.getElem?_map, Option.map_eq_some_iff,
      Option.map_eq_some_iff]
    refine exists_congr fun r => and_congr_right fun hr => ?_
    exact hsame r (List.mem_of_getElem? hr) s hs

theorem exists_isPositionsOf_of_sharing
    (hsame : ∀ r ∈ rules, ∀ s ∈ rules, f r = f s ↔ g r = g s) (hne : group ≠ [])
    (h : ∃ key, IsPositionsOf (rules.map f) key group) :
    ∃ key, IsPositionsOf (rules.map g) key group := by
  obtain ⟨key, h⟩ := h
  obtain ⟨i, rest, rfl⟩ := List.exists_cons_of_ne_nil hne
  have hi := (h.mem_iff i).mp List.mem_cons_self
  rw [List.getElem?_map, Option.map_eq_some_iff] at hi
  obtain ⟨s, hs, rfl⟩ := hi
  exact ⟨g s, h.of_sharing hsame (List.mem_of_getElem? hs)⟩

/-- Two values that the same rules share give the same groups. -/
theorem IsGrouping.perm_of_sharing (hsame : ∀ r ∈ rules, ∀ s ∈ rules, f r = f s ↔ g r = g s)
    {groups : List (κ × List Nat)} {groups' : List (μ × List Nat)}
    (h : IsGrouping (rules.map f) groups) (h' : IsGrouping (rules.map g) groups') :
    ((shared groups).map (·.2)).Perm ((shared groups').map (·.2)) := by
  refine (List.perm_ext_iff_of_nodup h.nodup_positions h'.nodup_positions).mpr ?_
  intro group
  rw [h.mem_positions_iff, h'.mem_positions_iff]
  refine and_congr_right fun hlength => ?_
  have hne : group ≠ [] := List.ne_nil_of_length_pos (Nat.lt_of_succ_lt hlength)
  constructor
  · exact exists_isPositionsOf_of_sharing hsame hne
  · exact exists_isPositionsOf_of_sharing (fun r hr s hs => (hsame r hr s hs).symm) hne

end Sharing

/-! ## The report -/

namespace Workspace

/-- Ordered maps find the collisions, with any hash that tells apart the rules that fingerprints
tell apart. -/
theorem collisionsByMaps_eq (w : Workspace) {hash : Rule → String}
    (hsame : ∀ r ∈ w.rules, ∀ s ∈ w.rules, hash r = hash s ↔ r.fingerprint = s.fingerprint) :
    w.collisionsByMaps hash = w.collisions := by
  have hmaps : CollisionMaps.IsExact hash w.rules (w.collisionMaps hash) :=
    CollisionMaps.isExact_foldl hash w.rules
  have hsids : (w.collisionsByMaps hash).sids = w.collisions.sids := by
    -- identifiers ascend in both lists, so it is enough that the same groups are listed
    refine eq_of_ascending_keys (hmaps.sids_ascend.filter _) w.pairwise_collisions_sids ?_
    rintro ⟨sid, positions⟩
    rw [w.mem_collisions_sids_iff]
    exact hmaps.bySid.mem_shared_iff
  have hsignatures : (w.collisionsByMaps hash).signatures = w.collisions.signatures := by
    -- the groups are the same, and both lists are sorted by first positions
    have hperm : (w.collisionsByMaps hash).signatures.Perm w.collisions.signatures :=
      (List.mergeSort_perm _ _).trans
        (hmaps.byHash.perm_of_sharing hsame (isGrouping_groupsBy (w.rules.map Rule.fingerprint)))
    have hsorted := List.pairwise_mergeSort mayPrecede_trans mayPrecede_total
      ((shared (w.collisionMaps hash).byHash).map (·.2))
    have hsorted' := pairwise_mayPrecede w.pairwise_first_collisions_signatures fun group hgroup =>
      List.ne_nil_of_length_pos
        (Nat.lt_of_succ_lt (w.mem_collisions_signatures_iff.mp hgroup).1)
    exact hperm.eq_of_pairwise (fun _ _ _ _ => mayPrecede_antisymm) hsorted hsorted'
  exact congrArg₂ CollisionReport.mk hsids hsignatures

theorem isEmpty_collisions_iff (w : Workspace) :
    w.collisions.isEmpty = true ↔
      (w.rules.map (·.sid)).Nodup ∧ (w.rules.map Rule.fingerprint).Nodup := by
  have hsids : w.collisions.sids = [] ↔ (w.rules.map (·.sid)).Nodup := by
    rw [← (isGrouping_groupsBy _).shared_eq_nil_iff, ← List.isEmpty_iff, ← List.isEmpty_iff,
      w.perm_collisions_sids.isEmpty_eq]
  have hsignatures : w.collisions.signatures = [] ↔ (w.rules.map Rule.fingerprint).Nodup := by
    rw [← (isGrouping_groupsBy _).shared_eq_nil_iff]
    exact List.map_eq_nil_iff
  rw [CollisionReport.isEmpty, Bool.and_eq_true, List.isEmpty_iff, List.isEmpty_iff, hsids,
    hsignatures]

/-- The report of any workspace is exact. An identifier is listed exactly if it stands at two
positions, and it is listed once, with all positions at which it stands. The groups of fingerprints
are the classes of two or more positions at which one fingerprint stands; no two of them share a
position, and they come in the order of their first positions. Nothing is reported exactly if all
identifiers and all fingerprints are distinct. Ordered maps find the same report, and they do so
with any hash that tells apart the rules that fingerprints tell apart, however its values are
ordered. -/
theorem collisions_exact (w : Workspace) :
    let sids := w.rules.map (·.sid)
    let fingerprints := w.rules.map Rule.fingerprint
    let report := w.collisions
    (∀ sid, (∃ positions, (sid, positions) ∈ report.sids) ↔
        ∃ i j : Nat, i < j ∧ sids[i]? = some sid ∧ sids[j]? = some sid) ∧
      (∀ sid positions, (sid, positions) ∈ report.sids → IsPositionsOf sids sid positions) ∧
      report.sids.Pairwise (fun a b => a.1 < b.1) ∧
      (∀ group, group ∈ report.signatures ↔
        1 < group.length ∧ ∃ f, IsPositionsOf fingerprints f group) ∧
      report.signatures.Pairwise List.Disjoint ∧
      (report.signatures.filterMap List.head?).Pairwise (· < ·) ∧
      (report.isEmpty = true ↔ sids.Nodup ∧ fingerprints.Nodup) ∧
      ∀ hash : Rule → String,
        (∀ r ∈ w.rules, ∀ s ∈ w.rules, hash r = hash s ↔ r.fingerprint = s.fingerprint) →
          w.collisionsByMaps hash = report := by
  intro sids fingerprints report
  refine ⟨?_, ?_, w.pairwise_collisions_sids, fun group => w.mem_collisions_signatures_iff,
    (isGrouping_groupsBy _).pairwise_disjoint, w.pairwise_first_collisions_signatures,
    w.isEmpty_collisions_iff, fun hash => w.collisionsByMaps_eq⟩
  · intro sid
    rw [← (isGrouping_groupsBy sids).exists_mem_shared_iff]
    exact exists_congr fun positions => w.perm_collisions_sids.mem_iff
  · intro sid positions hmem
    exact (w.mem_collisions_sids_iff.mp hmem).2

/-- Three rules that look at the same traffic, two of them under one identifier. A hash whose values
have nothing in common with fingerprints finds the same. -/
theorem collisions_exact_reworded :
    let w : Workspace :=
      { rules := [{ message := "Ping" }, { message := "Ping again", sid := 7 },
          { message := "Ping, dropped", action := .drop, sid := 7 }] }
    w.collisions.sids = [(7, [1, 2])] ∧ w.collisions.signatures = [[0, 1, 2]] ∧
      w.collisionsByMaps (·.content) = w.collisions ∧ w.collisions.isEmpty = false := by
  intro w
  let f := Rule.fingerprint { message := "Ping" }
  have hkind : ∀ r ∈ w.rules, r.content = "" ∧ r.fingerprint = f := by
    intro r hr
    simp only [w, List.mem_cons, List.not_mem_nil, or_false] at hr
    obtain rfl | rfl | rfl := hr
    · exact ⟨rfl, rfl⟩
    · exact ⟨rfl, Rule.fingerprint_eq_of_detection rfl⟩
    · exact ⟨rfl, Rule.fingerprint_eq_of_detection rfl⟩
  have hsame : ∀ r ∈ w.rules, ∀ s ∈ w.rules,
      r.content = s.content ↔ r.fingerprint = s.fingerprint := by
    intro r hr s hs
    exact iff_of_true ((hkind r hr).1.trans (hkind s hs).1.symm)
      ((hkind r hr).2.trans (hkind s hs).2.symm)
  have hkeys : w.rules.map Rule.fingerprint = [f, f, f] :=
    List.map_eq_replicate_iff.mpr fun r hr => (hkind r hr).2
  have hgroups : groupsBy [f, f, f] = [(f, [0, 1, 2])] := by simp [groupsBy, addToGroup]
  have hsids : w.collisions.sids = [(7, [1, 2])] := by decide
  have hsignatures : w.collisions.signatures = [[0, 1, 2]] := by
    rw [collisions, hkeys, hgroups]
    rfl
  obtain ⟨-, -, -, -, -, -, -, hmaps⟩ := collisions_exact w
  refine ⟨hsids, hsignatures, hmaps _ hsame, ?_⟩
  rw [CollisionReport.isEmpty, hsids]
  rfl

end Workspace

end RuleDesk
