import Mathlib.Tactic.Common
import RuleDesk.Json.Value

/-!
# Sorted members

Sorting the members of an object by name loses no name and makes no member up. Under each name the
last member of that name stays.
-/

set_option autoImplicit false

namespace RuleDesk.Json

/-! ## Members -/

section Members

variable {name : String} {value : Value} {members : List (String × Value)}

theorem mem_insertMember {m : String × Value} (h : m ∈ insertMember name value members) :
    m = (name, value) ∨ m ∈ members := by
  induction members with
  | nil => exact .inl (List.mem_singleton.mp h)
  | cons member rest ih =>
      obtain ⟨other, old⟩ := member
      rw [insertMember] at h
      split at h
      · rcases List.mem_cons.mp h with hnew | hrest
        · exact .inl hnew
        · exact .inr (List.mem_cons_of_mem _ hrest)
      · split at h
        · exact List.mem_cons.mp h
        · rcases List.mem_cons.mp h with hold | hrest
          · exact .inr (hold ▸ List.mem_cons_self)
          · exact (ih hrest).imp_right (List.mem_cons_of_mem _)

/-- The first member of a name is the inserted one, or the one that was there before. -/
theorem find?_insertMember (key : String) :
    (insertMember name value members).find? (fun m => m.1 == key) =
      if name = key then some (name, value) else members.find? (fun m => m.1 == key) := by
  induction members with
  | nil =>
      by_cases hkey : name = key
      · simp [insertMember, hkey]
      · simp [insertMember, hkey]
  | cons member rest ih =>
      obtain ⟨other, old⟩ := member
      rw [insertMember]
      by_cases hsame : name = other
      · subst hsame
        by_cases hkey : name = key
        · simp [hkey]
        · simp [hkey]
      · rw [if_neg hsame]
        split
        · by_cases hkey : name = key
          · simp [hkey]
          · simp [hkey]
        · -- the inserted member comes later, and the one passed over has another name
          rw [List.find?_cons, List.find?_cons, ih]
          by_cases hkey : name = key
          · have hother : (other == key) = false := by
              rw [beq_eq_false_iff_ne, ← hkey]
              exact Ne.symm hsame
            simp [hkey, hother]
          · simp [hkey]

theorem mem_of_mem_sortMembers {m : String × Value} (h : m ∈ sortMembers members) :
    m ∈ members := by
  have hfold (before after : List (String × Value)) :
      m ∈ after.foldl (fun sorted m => insertMember m.1 m.2 sorted) before →
        m ∈ before ∨ m ∈ after := by
    induction after generalizing before with
    | nil => exact .inl
    | cons next rest ih =>
        intro hmem
        rcases ih _ hmem with hbefore | hrest
        · rcases mem_insertMember hbefore with hnext | hold
          · exact .inr (hnext ▸ List.mem_cons_self)
          · exact .inl hold
        · exact .inr (List.mem_cons_of_mem _ hrest)
  exact (hfold [] members h).resolve_left List.not_mem_nil

/-- Of the members of one name the last stays. -/
theorem find?_sortMembers (key : String) :
    (sortMembers members).find? (fun m => m.1 == key) =
      members.reverse.find? (fun m => m.1 == key) := by
  have hfold (before after : List (String × Value)) :
      (after.foldl (fun sorted m => insertMember m.1 m.2 sorted) before).find?
          (fun m => m.1 == key) =
        (after.reverse.find? (fun m => m.1 == key)).or (before.find? (fun m => m.1 == key)) := by
    induction after generalizing before with
    | nil => rfl
    | cons next rest ih =>
        rw [List.foldl_cons, ih, find?_insertMember, List.reverse_cons, List.find?_append,
          Option.or_assoc]
        by_cases hkey : next.1 = key
        · subst hkey
          simp
        · simp [hkey]
  rw [sortMembers]
  exact (hfold [] members).trans (Option.or_none)

theorem member?_sortMembers (key : String) :
    (Value.object (sortMembers members)).member? key =
      (members.reverse.find? (fun m => m.1 == key)).map Prod.snd :=
  congrArg (Option.map Prod.snd) (find?_sortMembers key)

/-- Sorting loses no name. -/
theorem mem_names_sortMembers {key : String} (h : key ∈ members.map Prod.fst) :
    key ∈ (sortMembers members).map Prod.fst := by
  obtain ⟨m, hm, rfl⟩ := List.mem_map.mp h
  have hfound : ((sortMembers members).find? (fun n => n.1 == m.1)).isSome = true := by
    rw [find?_sortMembers, List.find?_isSome]
    exact ⟨m, List.mem_reverse.mpr hm, beq_self_eq_true m.1⟩
  obtain ⟨n, hn⟩ := Option.isSome_iff_exists.mp hfound
  have hname : n.1 = m.1 := by simpa using List.find?_some hn
  exact hname ▸ List.mem_map_of_mem (List.mem_of_find?_eq_some hn)

end Members

/-! ## Values -/

mutual

/-- A value with the members of its objects sorted. -/
def Value.sorted : Value → Value
  | .array items => .array (sortedItems items)
  | .object members => .object (sortMembers (sortedValues members))
  | scalar => scalar

/-- The items of an array, each sorted. -/
def sortedItems : List Value → List Value
  | [] => []
  | item :: rest => item.sorted :: sortedItems rest

/-- The members of an object in the order they have, with the value of each sorted. -/
def sortedValues : List (String × Value) → List (String × Value)
  | [] => []
  | (name, value) :: rest => (name, value.sorted) :: sortedValues rest

end

theorem sortedItems_eq_map (items : List Value) : sortedItems items = items.map Value.sorted := by
  induction items with
  | nil => rfl
  | cons item rest ih => rw [sortedItems, ih, List.map_cons]

theorem sortedValues_eq_map (members : List (String × Value)) :
    sortedValues members = members.map fun m => (m.1, m.2.sorted) := by
  induction members with
  | nil => rfl
  | cons member rest ih => rw [sortedValues, ih, List.map_cons]

end RuleDesk.Json
