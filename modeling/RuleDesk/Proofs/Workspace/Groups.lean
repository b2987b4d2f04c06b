import Mathlib.Data.List.Induction
import Mathlib.Data.List.Nodup
import RuleDesk.Workspace.CollisionMaps

/-!
# Groups of positions

The positions of a list are grouped by the keys that stand there. A grouping is complete and exact:
each key of the list has one group, and that group has all positions of the key and no other
(`IsGrouping`). Adding one position keeps this, whether the position joins a group or opens one
(`IsGrouping.adds`), and wherever the new group is put; so it holds of groups in the order in which
keys first occur (`isGrouping_groupsBy`) and of maps whose keys ascend.

The groups of more than one position are then the classes of positions that share a key.
-/

set_option autoImplicit false

namespace RuleDesk

variable {κ : Type}

/-! ## The positions of a key -/

/-- The positions at which a key stands in a list, ascending. -/
structure IsPositionsOf (keys : List κ) (key : κ) (positions : List Nat) : Prop where
  ascending : positions.Pairwise (· < ·)
  mem_iff : ∀ i, i ∈ positions ↔ keys[i]? = some key

theorem getElem?_append_eq_some_iff {front back : List κ} {key : κ} {i : Nat} :
    (front ++ back)[i]? = some key ↔
      front[i]? = some key ∨ front.length ≤ i ∧ back[i - front.length]? = some key := by
  rcases Nat.lt_or_ge i front.length with hlt | hle
  · rw [List.getElem?_append_left hlt, or_iff_left fun h => Nat.not_le_of_lt hlt h.1]
  · rw [List.getElem?_append_right hle, List.getElem?_eq_none hle, and_iff_right hle]
    simp

namespace IsPositionsOf

variable {keys : List κ} {key other : κ} {positions : List Nat} {i : Nat}

theorem nodup (h : IsPositionsOf keys key positions) : positions.Nodup :=
  h.ascending.imp Nat.ne_of_lt

theorem lt_length (h : IsPositionsOf keys key positions) (hi : i ∈ positions) : i < keys.length :=
  (List.getElem?_eq_some_iff.mp ((h.mem_iff i).mp hi)).1

/-- A key has one list of positions only. -/
theorem unique {a b : List Nat} (ha : IsPositionsOf keys key a) (hb : IsPositionsOf keys key b) :
    a = b := by
  have hperm : a.Perm b := (List.perm_ext_iff_of_nodup ha.nodup hb.nodup).mpr fun i =>
    (ha.mem_iff i).trans (hb.mem_iff i).symm
  exact hperm.eq_of_pairwise (fun _ _ _ _ hij hji => absurd hij (Nat.lt_asymm hji)) ha.ascending
    hb.ascending

/-- Different keys share no position. -/
theorem eq_of_mem {a b : List Nat} (ha : IsPositionsOf keys key a) (hb : IsPositionsOf keys other b)
    (hi : i ∈ a) (hi' : i ∈ b) : key = other := by
  have hkey := (ha.mem_iff i).mp hi
  rw [(hb.mem_iff i).mp hi'] at hkey
  exact (Option.some.inj hkey).symm

theorem nil_of_not_mem (h : key ∉ keys) : IsPositionsOf keys key [] where
  ascending := List.Pairwise.nil
  mem_iff _ := iff_of_false List.not_mem_nil fun hi => h (List.mem_of_getElem? hi)

theorem concat_self (h : IsPositionsOf keys key positions) :
    IsPositionsOf (keys ++ [key]) key (positions ++ [keys.length]) where
  ascending := by
    refine List.pairwise_append.mpr ⟨h.ascending, List.pairwise_singleton _ _, ?_⟩
    intro i hi j hj
    obtain rfl := List.mem_singleton.mp hj
    exact h.lt_length hi
  mem_iff i := by
    rw [List.mem_append, List.mem_singleton, h.mem_iff, getElem?_append_eq_some_iff,
      List.getElem?_singleton]
    refine or_congr_right ⟨?_, ?_⟩
    · rintro rfl
      simp
    · rintro ⟨hle, hlast⟩
      split at hlast
      · next hzero => exact Nat.le_antisymm (Nat.le_of_sub_eq_zero hzero) hle
      · cases hlast

/-- Keys that are added and are not the key leave its positions as they are. -/
theorem append_iff {more : List κ} (hnew : key ∉ more) :
    IsPositionsOf (keys ++ more) key positions ↔ IsPositionsOf keys key positions := by
  have hstands : ∀ i : Nat, (keys ++ more)[i]? = some key ↔ keys[i]? = some key := by
    intro i
    rw [getElem?_append_eq_some_iff, or_iff_left fun h => hnew (List.mem_of_getElem? h.2)]
  constructor
  · rintro ⟨hascending, hmem⟩
    exact ⟨hascending, fun i => (hmem i).trans (hstands i)⟩
  · rintro ⟨hascending, hmem⟩
    exact ⟨hascending, fun i => (hmem i).trans (hstands i).symm⟩

/-- A key has several positions if it stands at two of them. -/
theorem one_lt_length_iff (h : IsPositionsOf keys key positions) :
    1 < positions.length ↔ ∃ i j : Nat, i < j ∧ keys[i]? = some key ∧ keys[j]? = some key := by
  constructor
  · intro hlength
    match positions, h, hlength with
    | i :: j :: rest, h, _ =>
        have hij : i < j := (List.pairwise_cons.mp h.ascending).1 j List.mem_cons_self
        exact ⟨i, j, hij, (h.mem_iff i).mp List.mem_cons_self,
          (h.mem_iff j).mp (List.mem_cons_of_mem i List.mem_cons_self)⟩
  · rintro ⟨i, j, hij, hi, hj⟩
    have hmem := (h.mem_iff i).mpr hi
    have hmem' := (h.mem_iff j).mpr hj
    match positions with
    | [] => exact absurd hmem List.not_mem_nil
    | [k] =>
        rw [List.mem_singleton.mp hmem, List.mem_singleton.mp hmem'] at hij
        exact absurd hij (Nat.lt_irrefl k)
    | k :: l :: rest => exact Nat.succ_lt_succ (Nat.succ_pos rest.length)

/-- Keys that are new and distinct are not shared, so adding them leaves the shared keys and their
positions as they are. -/
theorem append_fresh_iff {fresh : List κ} (hnodup : fresh.Nodup)
    (hnew : ∀ k ∈ fresh, k ∉ keys) :
    1 < positions.length ∧ IsPositionsOf (keys ++ fresh) key positions ↔
      1 < positions.length ∧ IsPositionsOf keys key positions := by
  by_cases hfresh : key ∈ fresh
  · have hbehind : ∀ i : Nat, (keys ++ fresh)[i]? = some key →
        keys.length ≤ i ∧ fresh[i - keys.length]? = some key := by
      intro i hi
      exact (getElem?_append_eq_some_iff.mp hi).resolve_left fun hold =>
        hnew key hfresh (List.mem_of_getElem? hold)
    constructor
    · rintro ⟨hlength, h⟩
      -- the key would stand at two places among the new ones
      obtain ⟨i, j, hij, hi, hj⟩ := h.one_lt_length_iff.mp hlength
      obtain ⟨hle, hi⟩ := hbehind i hi
      obtain ⟨-, hj⟩ := hbehind j hj
      have hlt := (List.getElem?_eq_some_iff.mp hj).1
      exact absurd (hi.trans hj.symm) (List.nodup_iff_getElem?_ne_getElem?.mp hnodup _ _
        (by omega) hlt)
    · rintro ⟨hlength, h⟩
      obtain ⟨i, -, -, hi, -⟩ := h.one_lt_length_iff.mp hlength
      exact absurd (List.mem_of_getElem? hi) (hnew key hfresh)
  · exact and_congr_right fun _ => append_iff hfresh

end IsPositionsOf

/-! ## Adding a position -/

/-- A position is added to the groups: it joins the group of its key, or it opens a group for a key
that has none. -/
inductive Adds (key : κ) (position : Nat) :
    List (κ × List Nat) → List (κ × List Nat) → Prop where
  | joins (front back : List (κ × List Nat)) (positions : List Nat) :
      Adds key position (front ++ (key, positions) :: back)
        (front ++ (key, positions ++ [position]) :: back)
  | opens (front back : List (κ × List Nat)) (h : ∀ g ∈ front ++ back, g.1 ≠ key) :
      Adds key position (front ++ back) (front ++ (key, [position]) :: back)

theorem Adds.cons {key : κ} {position : Nat} {groups groups' : List (κ × List Nat)}
    (h : Adds key position groups groups') {g : κ × List Nat} (hne : g.1 ≠ key) :
    Adds key position (g :: groups) (g :: groups') := by
  cases h with
  | joins front back positions => exact .joins (g :: front) back positions
  | opens front back hnew =>
      refine .opens (g :: front) back ?_
      intro g' hg'
      rcases List.mem_cons.mp hg' with rfl | hg'
      · exact hne
      · exact hnew g' hg'

theorem adds_addToGroup [DecidableEq κ] (key : κ) (position : Nat)
    (groups : List (κ × List Nat)) : Adds key position groups (addToGroup key position groups) := by
  induction groups with
  | nil => exact .opens [] [] fun g hg => absurd hg List.not_mem_nil
  | cons g rest ih =>
      obtain ⟨other, positions⟩ := g
      rw [addToGroup]
      split
      · next h =>
          subst h
          exact .joins [] rest positions
      · next h => exact ih.cons (Ne.symm h)

section Ordered

variable [DecidableEq κ] [LT κ] [DecidableLT κ] {key : κ} {position : Nat} {groups : List (κ × List Nat)}

theorem mem_keys_addInOrder {k : κ}
    (hk : k ∈ (addInOrder key position groups).map (·.1)) :
    k = key ∨ k ∈ groups.map (·.1) := by
  induction groups with
  | nil => exact .inl (List.mem_singleton.mp hk)
  | cons g rest ih =>
      obtain ⟨other, positions⟩ := g
      rw [addInOrder] at hk
      split at hk
      · exact List.mem_cons.mp hk
      · split at hk
        · exact .inr hk
        · rcases List.mem_cons.mp hk with rfl | hk
          · exact .inr List.mem_cons_self
          · exact (ih hk).imp_right (List.mem_cons_of_mem other)

variable [LE κ] [Std.IsLinearOrder κ] [Std.LawfulOrderLT κ]

/-- In a map whose keys ascend, the group of a key is found or opened at its place. -/
theorem adds_addInOrder (h : groups.Pairwise (fun a b => a.1 < b.1)) :
    Adds key position groups (addInOrder key position groups) := by
  induction groups with
  | nil => exact .opens [] [] fun g hg => absurd hg List.not_mem_nil
  | cons g rest ih =>
      obtain ⟨other, positions⟩ := g
      obtain ⟨hother, hrest⟩ := List.pairwise_cons.mp h
      rw [addInOrder]
      split
      · next hlt =>
          -- all keys from here on are larger
          refine .opens [] ((other, positions) :: rest) ?_
          rintro g' hg' rfl
          rcases List.mem_cons.mp hg' with rfl | hg'
          · exact Std.lt_irrefl hlt
          · exact Std.lt_irrefl (Std.lt_trans hlt (hother g' hg'))
      · split
        · next heq =>
            subst heq
            exact .joins [] rest positions
        · next hne => exact (ih hrest).cons (Ne.symm hne)

theorem pairwise_addInOrder (h : groups.Pairwise (fun a b => a.1 < b.1)) :
    (addInOrder key position groups).Pairwise (fun a b => a.1 < b.1) := by
  induction groups with
  | nil => exact List.pairwise_singleton _ _
  | cons g rest ih =>
      obtain ⟨other, positions⟩ := g
      obtain ⟨hother, hrest⟩ := List.pairwise_cons.mp h
      rw [addInOrder]
      split
      · next hlt =>
          refine List.pairwise_cons.mpr ⟨?_, h⟩
          intro g' hg'
          rcases List.mem_cons.mp hg' with rfl | hg'
          · exact hlt
          · exact Std.lt_trans hlt (hother g' hg')
      · next hnot =>
          split
          · exact List.pairwise_cons.mpr ⟨hother, hrest⟩
          · next hne =>
              refine List.pairwise_cons.mpr ⟨?_, ih hrest⟩
              intro g' hg'
              rcases mem_keys_addInOrder (List.mem_map_of_mem hg') with hkey | hmem
              · have hle : other ≤ key := Std.not_lt.mp hnot
                exact hkey ▸ Std.lt_of_le_of_ne hle (Ne.symm hne)
              · obtain ⟨g'', hg'', hkey⟩ := List.mem_map.mp hmem
                exact hkey ▸ hother g'' hg''

end Ordered

/-! ## Groupings -/

/-- Each key of a list has one group, and the group has the positions of the key. -/
structure IsGrouping (keys : List κ) (groups : List (κ × List Nat)) : Prop where
  nodup : (groups.map (·.1)).Nodup
  covers : ∀ key ∈ keys, key ∈ groups.map (·.1)
  ne_nil : ∀ g ∈ groups, g.2 ≠ []
  exact : ∀ g ∈ groups, IsPositionsOf keys g.1 g.2

theorem isGrouping_nil : IsGrouping ([] : List κ) [] where
  nodup := List.nodup_nil
  covers _ hkey := absurd hkey List.not_mem_nil
  ne_nil _ hg := absurd hg List.not_mem_nil
  exact _ hg := absurd hg List.not_mem_nil

namespace IsGrouping

variable {keys : List κ} {key : κ} {groups groups' : List (κ × List Nat)} {positions : List Nat}

/-- The groups around the one to which a position is added stay as they are, and the position is
behind all others of its key. -/
theorem insert {front back : List (κ × List Nat)}
    (hkeys : ((front ++ (key, positions) :: back).map (·.1)).Nodup)
    (hcovers : ∀ k ∈ keys, k ≠ key → k ∈ (front ++ back).map (·.1))
    (hne : ∀ g ∈ front ++ back, g.2 ≠ [])
    (hexact : ∀ g ∈ front ++ back, IsPositionsOf keys g.1 g.2)
    (hkey : IsPositionsOf keys key positions) :
    IsGrouping (keys ++ [key]) (front ++ (key, positions ++ [keys.length]) :: back) := by
  have hmem : ∀ g, g ∈ front ++ (key, positions ++ [keys.length]) :: back ↔
      g = (key, positions ++ [keys.length]) ∨ g ∈ front ++ back := by
    intro g
    rw [List.mem_append, List.mem_cons, List.mem_append]
    exact or_left_comm
  have hother : ∀ g ∈ front ++ back, key ≠ g.1 := by
    intro g hg hsame
    have hmem : g.1 ∈ (front ++ back).map (·.1) := List.mem_map_of_mem hg
    rw [List.map_append, List.map_cons, List.nodup_middle, ← List.map_append] at hkeys
    exact (List.nodup_cons.mp hkeys).1 (hsame ▸ hmem)
  refine ⟨?_, ?_, ?_, ?_⟩
  · rw [List.map_append, List.map_cons] at hkeys ⊢
    exact hkeys
  · intro k hk
    by_cases hsame : k = key
    · exact List.mem_map.mpr ⟨_, (hmem _).mpr (.inl rfl), hsame.symm⟩
    · have hold : k ∈ keys := by
        rcases List.mem_append.mp hk with hk | hk
        · exact hk
        · exact absurd (List.mem_singleton.mp hk) hsame
      obtain ⟨g, hg, rfl⟩ := List.mem_map.mp (hcovers k hold hsame)
      exact List.mem_map_of_mem ((hmem g).mpr (.inr hg))
  · intro g hg
    rcases (hmem g).mp hg with rfl | hg
    · exact List.concat_ne_nil _ _
    · exact hne g hg
  · intro g hg
    rcases (hmem g).mp hg with rfl | hg
    · exact hkey.concat_self
    · refine (IsPositionsOf.append_iff fun hmem => ?_).mpr (hexact g hg)
      exact hother g hg (List.mem_singleton.mp hmem).symm

/-- Adding the next position keeps a grouping. -/
theorem adds (h : IsGrouping keys groups) (hadds : Adds key keys.length groups groups') :
    IsGrouping (keys ++ [key]) groups' := by
  cases hadds with
  | joins front back positions =>
      have hin : ∀ g ∈ front ++ back, g ∈ front ++ (key, positions) :: back := by
        intro g hg
        exact ((List.sublist_cons_self _ back).append_left front).subset hg
      refine insert h.nodup ?_ (fun g hg => h.ne_nil g (hin g hg))
        (fun g hg => h.exact g (hin g hg)) (h.exact (key, positions) List.mem_append_cons_self)
      intro k hk hne
      have hmem := h.covers k hk
      rw [List.map_append, List.map_cons, List.mem_append, List.mem_cons, or_left_comm] at hmem
      rw [List.map_append, List.mem_append]
      exact hmem.resolve_left hne
  | opens front back hnew =>
      have hkey : key ∉ (front ++ back).map (·.1) := by
        intro hmem
        obtain ⟨g, hg, rfl⟩ := List.mem_map.mp hmem
        exact hnew g hg rfl
      have hnone : IsPositionsOf keys key [] := .nil_of_not_mem fun hmem => hkey (h.covers key hmem)
      refine insert ?_ (fun k hk _ => h.covers k hk) h.ne_nil h.exact hnone
      rw [List.map_append, List.map_cons, List.nodup_middle, ← List.map_append]
      exact List.nodup_cons.mpr ⟨hkey, h.nodup⟩

/-- The groups of a grouping are the keys that stand somewhere with their positions. -/
theorem mem_iff (h : IsGrouping keys groups) :
    (key, positions) ∈ groups ↔ positions ≠ [] ∧ IsPositionsOf keys key positions := by
  constructor
  · intro hg
    exact ⟨h.ne_nil _ hg, h.exact _ hg⟩
  · rintro ⟨hne, hpositions⟩
    obtain ⟨i, rest, rfl⟩ := List.exists_cons_of_ne_nil hne
    have hkey : key ∈ keys := List.mem_of_getElem? ((hpositions.mem_iff i).mp List.mem_cons_self)
    obtain ⟨⟨k, found⟩, hg, rfl⟩ := List.mem_map.mp (h.covers key hkey)
    rwa [hpositions.unique (h.exact _ hg)]

/-! ## Shared keys -/

theorem mem_shared_iff (h : IsGrouping keys groups) :
    (key, positions) ∈ shared groups ↔
      1 < positions.length ∧ IsPositionsOf keys key positions := by
  rw [shared, List.mem_filter, decide_eq_true_iff, h.mem_iff]
  constructor
  · rintro ⟨⟨-, hpositions⟩, hlength⟩
    exact ⟨hlength, hpositions⟩
  · rintro ⟨hlength, hpositions⟩
    exact ⟨⟨List.ne_nil_of_length_pos (Nat.lt_of_succ_lt hlength), hpositions⟩, hlength⟩

theorem mem_positions_iff (h : IsGrouping keys groups) {group : List Nat} :
    group ∈ (shared groups).map (·.2) ↔
      1 < group.length ∧ ∃ key, IsPositionsOf keys key group := by
  rw [List.mem_map]
  constructor
  · rintro ⟨⟨key, positions⟩, hg, rfl⟩
    obtain ⟨hlength, hpositions⟩ := h.mem_shared_iff.mp hg
    exact ⟨hlength, key, hpositions⟩
  · rintro ⟨hlength, key, hpositions⟩
    exact ⟨(key, group), h.mem_shared_iff.mpr ⟨hlength, hpositions⟩, rfl⟩

/-- A key is shared exactly if it stands at two positions. -/
theorem exists_mem_shared_iff (h : IsGrouping keys groups) :
    (∃ positions, (key, positions) ∈ shared groups) ↔
      ∃ i j : Nat, i < j ∧ keys[i]? = some key ∧ keys[j]? = some key := by
  constructor
  · rintro ⟨positions, hg⟩
    obtain ⟨hlength, hpositions⟩ := h.mem_shared_iff.mp hg
    exact hpositions.one_lt_length_iff.mp hlength
  · rintro ⟨i, j, hij, hi, hj⟩
    obtain ⟨⟨k, positions⟩, hg, rfl⟩ := List.mem_map.mp (h.covers key (List.mem_of_getElem? hi))
    have hpositions := h.exact _ hg
    exact ⟨positions, h.mem_shared_iff.mpr
      ⟨hpositions.one_lt_length_iff.mpr ⟨i, j, hij, hi, hj⟩, hpositions⟩⟩

/-- Two positions are in a group together exactly if the same key stands at both. -/
theorem exists_group_iff (h : IsGrouping keys groups) {i j : Nat} (hne : i ≠ j) :
    (∃ group ∈ (shared groups).map (·.2), i ∈ group ∧ j ∈ group) ↔
      ∃ key, keys[i]? = some key ∧ keys[j]? = some key := by
  constructor
  · rintro ⟨group, hgroup, hi, hj⟩
    obtain ⟨-, key, hpositions⟩ := h.mem_positions_iff.mp hgroup
    exact ⟨key, (hpositions.mem_iff i).mp hi, (hpositions.mem_iff j).mp hj⟩
  · rintro ⟨key, hi, hj⟩
    have hordered : ∃ i j : Nat, i < j ∧ keys[i]? = some key ∧ keys[j]? = some key := by
      rcases Nat.lt_or_gt_of_ne hne with hlt | hgt
      · exact ⟨i, j, hlt, hi, hj⟩
      · exact ⟨j, i, hgt, hj, hi⟩
    obtain ⟨positions, hg⟩ := h.exists_mem_shared_iff.mpr hordered
    have hpositions := (h.mem_shared_iff.mp hg).2
    exact ⟨positions, List.mem_map_of_mem hg, (hpositions.mem_iff i).mpr hi,
      (hpositions.mem_iff j).mpr hj⟩

theorem pairwise_disjoint (h : IsGrouping keys groups) :
    ((shared groups).map (·.2)).Pairwise List.Disjoint := by
  have hkeys : groups.Pairwise (fun a b => a.1 ≠ b.1) := List.pairwise_map.mp h.nodup
  refine List.pairwise_map.mpr ((hkeys.imp_of_mem ?_).filter _)
  intro a b ha hb hne i hi hi'
  exact hne ((h.exact a ha).eq_of_mem (h.exact b hb) hi hi')

theorem nodup_positions (h : IsGrouping keys groups) : ((shared groups).map (·.2)).Nodup := by
  refine h.pairwise_disjoint.imp_of_mem ?_
  rintro group _ hgroup - hdisjoint rfl
  -- a group that is disjoint from itself is empty
  have hlength := (h.mem_positions_iff.mp hgroup).1
  obtain ⟨i, hi⟩ := List.exists_mem_of_length_pos (Nat.lt_of_succ_lt hlength)
  exact hdisjoint hi hi

/-- No key is shared exactly if the keys are distinct. -/
theorem shared_eq_nil_iff (h : IsGrouping keys groups) : shared groups = [] ↔ keys.Nodup := by
  rw [List.nodup_iff_getElem?_ne_getElem?]
  constructor
  · intro hnil i j hij hj hsame
    have hkey : keys[j]? = some keys[j] := List.getElem?_eq_getElem hj
    obtain ⟨positions, hg⟩ := h.exists_mem_shared_iff.mpr ⟨i, j, hij, hsame.trans hkey, hkey⟩
    rw [hnil] at hg
    exact List.not_mem_nil hg
  · intro hdistinct
    apply List.eq_nil_iff_forall_not_mem.mpr
    rintro ⟨key, positions⟩ hg
    obtain ⟨i, j, hij, hi, hj⟩ := h.exists_mem_shared_iff.mp ⟨positions, hg⟩
    exact hdistinct i j hij (List.getElem?_eq_some_iff.mp hj).1 (hi.trans hj.symm)

end IsGrouping

/-! ## Keys in the order of their first positions -/

section FirstPositions

variable {keys : List κ} {groups : List (κ × List Nat)}

/-- The first positions of groups. -/
def firstPositions (groups : List (κ × List Nat)) : List Nat :=
  (groups.map (·.2)).filterMap List.head?

theorem IsGrouping.lt_of_mem_firstPositions (h : IsGrouping keys groups) {i : Nat}
    (hi : i ∈ firstPositions groups) : i < keys.length := by
  obtain ⟨group, hgroup, hfirst⟩ := List.mem_filterMap.mp hi
  obtain ⟨g, hg, rfl⟩ := List.mem_map.mp hgroup
  exact (h.exact g hg).lt_length (List.mem_of_mem_head? hfirst)

variable [DecidableEq κ]

theorem groupsBy_concat (keys : List κ) (key : κ) :
    groupsBy (keys ++ [key]) = addToGroup key keys.length (groupsBy keys) := by
  rw [groupsBy, List.zipIdx_append, List.foldl_append, Nat.zero_add]
  rfl

theorem isGrouping_groupsBy (keys : List κ) : IsGrouping keys (groupsBy keys) := by
  induction keys using List.reverseRecOn with
  | nil => exact isGrouping_nil
  | append_singleton keys key ih =>
      rw [groupsBy_concat]
      exact ih.adds (adds_addToGroup key keys.length _)

/-- A position that joins a group leaves its first position, and one that opens a group is the last
first position. -/
theorem firstPositions_addToGroup (hne : ∀ g ∈ groups, g.2 ≠ []) (key : κ) (position : Nat) :
    firstPositions (addToGroup key position groups) = firstPositions groups ∨
      firstPositions (addToGroup key position groups) = firstPositions groups ++ [position] := by
  induction groups with
  | nil => exact .inr rfl
  | cons g rest ih =>
      obtain ⟨other, positions⟩ := g
      obtain ⟨first, more, rfl⟩ := List.exists_cons_of_ne_nil (hne _ List.mem_cons_self)
      have hstep : ∀ groups : List (κ × List Nat),
          firstPositions ((other, first :: more) :: groups) = first :: firstPositions groups :=
        fun groups => rfl
      rw [addToGroup]
      split
      · exact .inl rfl
      · rw [hstep, hstep]
        rcases ih fun g hg => hne g (List.mem_cons_of_mem _ hg) with h | h
        · exact .inl (congrArg (first :: ·) h)
        · exact .inr (congrArg (first :: ·) h)

/-- Groups in the order in which their keys first occur are in the order of their first positions. -/
theorem pairwise_firstPositions_groupsBy (keys : List κ) :
    (firstPositions (groupsBy keys)).Pairwise (· < ·) := by
  induction keys using List.reverseRecOn with
  | nil => exact List.Pairwise.nil
  | append_singleton keys key ih =>
      have hgrouping := isGrouping_groupsBy keys
      rw [groupsBy_concat]
      rcases firstPositions_addToGroup hgrouping.ne_nil key keys.length with h | h
      · rw [h]
        exact ih
      · rw [h]
        refine List.pairwise_append.mpr ⟨ih, List.pairwise_singleton _ _, ?_⟩
        intro i hi j hj
        obtain rfl := List.mem_singleton.mp hj
        exact hgrouping.lt_of_mem_firstPositions hi

end FirstPositions

end RuleDesk
