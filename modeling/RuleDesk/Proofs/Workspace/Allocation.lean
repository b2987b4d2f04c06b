import Mathlib.Data.List.Nodup
import RuleDesk.Proofs.Workspace.Runs
import RuleDesk.Workspace.Allocation

/-!
# Identifiers of copies

The copies of the selected rules get the identifiers that follow the largest one in use. They are
there if and only if the last of them is a word, and then they are all new: no two copies share one,
and no rule that was there before has one of them.

Numbering the copies by operations on words comes to the same. Each operation gives the word of the
exact result, or nothing if there is none; and as long as the selection can be counted in a word,
the only operations without a result are those at which running out of identifiers is refused. The
list of identifiers has a word for each selected rule, so pairing the two loses none.
-/

set_option autoImplicit false

namespace RuleDesk

/-! ## Words -/

namespace Word

variable {a b word : UInt32}

theorem ofNat?_of_lt {n : Nat} (h : n < UInt32.size) : ofNat? n = some (UInt32.ofNat n) :=
  if_pos h

theorem ofNat?_of_le {n : Nat} (h : UInt32.size ≤ n) : ofNat? n = none :=
  if_neg (Nat.not_lt_of_le h)

/-- A sum of words is the word of the exact sum. -/
theorem sum?_eq (a b : UInt32) : sum? a b = ofNat? (a.toNat + b.toNat) := by
  have ha : a.toNat < UInt32.size := a.toNat_lt
  have hb : b.toNat < UInt32.size := b.toNat_lt
  have hsum : (a + b).toNat = (a.toNat + b.toNat) % UInt32.size := UInt32.toNat_add a b
  by_cases hfits : a.toNat + b.toNat < UInt32.size
  · -- the sum is exact, so it is not less than a summand
    rw [Nat.mod_eq_of_lt hfits] at hsum
    have hle : ¬ a + b < a := by
      rw [UInt32.lt_iff_toNat_lt]
      omega
    rw [ofNat?_of_lt hfits, sum?, if_neg hle, ← hsum, UInt32.ofNat_toNat]
  · have hwrapped : (a + b).toNat = a.toNat + b.toNat - UInt32.size := by
      rw [hsum, Nat.mod_eq_sub_mod (Nat.le_of_not_lt hfits)]
      exact Nat.mod_eq_of_lt (by omega)
    have hlt : a + b < a := by
      rw [UInt32.lt_iff_toNat_lt]
      omega
    rw [ofNat?_of_le (Nat.le_of_not_lt hfits), sum?, if_pos hlt]

theorem sum?_ofNat {m n : Nat} (hm : m < UInt32.size) (hn : n < UInt32.size) :
    sum? (UInt32.ofNat m) (UInt32.ofNat n) = ofNat? (m + n) := by
  rw [sum?_eq, UInt32.toNat_ofNat_of_lt' hm, UInt32.toNat_ofNat_of_lt' hn]

/-- A difference of words is the word of the exact difference. -/
theorem difference?_of_le (h : b ≤ a) :
    difference? a b = some (UInt32.ofNat (a.toNat - b.toNat)) := by
  have hnot : ¬ a < b := UInt32.not_lt.mpr h
  rw [difference?, if_neg hnot, ← UInt32.toNat_sub_of_le a b h, UInt32.ofNat_toNat]

theorem difference?_one {n : Nat} (hpos : 0 < n) (hn : n < UInt32.size) :
    difference? (UInt32.ofNat n) 1 = some (UInt32.ofNat (n - 1)) := by
  have hword : (UInt32.ofNat n).toNat = n := UInt32.toNat_ofNat_of_lt' hn
  have hle : 1 ≤ UInt32.ofNat n := by
    rw [UInt32.le_iff_toNat_le, hword]
    exact hpos
  rw [difference?_of_le hle, hword]
  rfl

/-- Steps that all stay below the size of words give consecutive words. -/
theorem ascend?_eq {steps : Nat} (h : word.toNat + steps < UInt32.size) :
    ascend? word steps = some ((List.range' word.toNat (steps + 1)).map UInt32.ofNat) := by
  induction steps generalizing word with
  | zero =>
      rw [ascend?, List.range'_one, List.map_singleton, UInt32.ofNat_toNat]
  | succ steps ih =>
      have hstep : word.toNat + 1 < UInt32.size := by omega
      have hnext : (UInt32.ofNat (word.toNat + 1)).toNat = word.toNat + 1 :=
        UInt32.toNat_ofNat_of_lt' hstep
      have hrest := @ih (UInt32.ofNat (word.toNat + 1)) (by omega)
      have hsum : sum? word 1 = some (UInt32.ofNat (word.toNat + 1)) := by
        rw [sum?_eq]
        exact ofNat?_of_lt hstep
      rw [hnext] at hrest
      rw [ascend?, hsum, List.range'_succ, List.map_cons, UInt32.ofNat_toNat]
      show (ascend? (UInt32.ofNat (word.toNat + 1)) steps >>= fun words => some (word :: words)) = _
      rw [hrest]
      rfl

/-- Counting from the first word to the last never steps beyond the last, not even if that is the
largest word of all. -/
theorem through?_eq {first last : Nat} (hle : first ≤ last) (hlast : last < UInt32.size) :
    through? (UInt32.ofNat first) (UInt32.ofNat last) =
      some ((List.range' first (last - first + 1)).map UInt32.ofNat) := by
  have hfirst' : (UInt32.ofNat first).toNat = first := UInt32.toNat_ofNat_of_lt' (by omega)
  have hlast' : (UInt32.ofNat last).toNat = last := UInt32.toNat_ofNat_of_lt' hlast
  have hnot : ¬ UInt32.ofNat last < UInt32.ofNat first := by
    rw [UInt32.lt_iff_toNat_lt, hfirst', hlast']
    exact Nat.not_lt_of_le hle
  rw [through?, if_neg hnot, ascend?_eq (by omega), hfirst', hlast']

end Word

namespace Workspace

variable {w w' : Workspace}

/-! ## The largest identifier -/

theorem toNat_foldl_max (words : List UInt32) (start : UInt32) :
    (words.foldl max start).toNat = (words.map UInt32.toNat).foldl max start.toNat := by
  induction words generalizing start with
  | nil => rfl
  | cons word rest ih => rw [List.foldl_cons, ih, UInt32.toNat_max, List.map_cons, List.foldl_cons]

/-- The largest of some words is the word of the largest number. -/
theorem toNat_largest (words : List UInt32) :
    (words.max?.getD 0).toNat = (words.map UInt32.toNat).max?.getD 0 := by
  cases words with
  | nil => rfl
  | cons word rest => exact toNat_foldl_max rest word

/-- The top identifier is the largest one in use, or the floor. -/
theorem topSid_eq (w : Workspace) :
    w.topSid = max ((w.rules.map (·.sid.toNat)).max?.getD 0) sidFloor.toNat := by
  have hfold : w.topSid = (w.rules.map (·.sid.toNat)).foldl max sidFloor.toNat := by
    rw [topSid, List.foldl_map]
  rw [hfold, List.foldl_max]
  cases (w.rules.map (·.sid.toNat)).max? with
  | none => rfl
  | some largest => exact Nat.max_comm _ _

theorem toNat_topWord (w : Workspace) : w.topWord.toNat = w.topSid := by
  rw [topWord, UInt32.toNat_max, toNat_largest, topSid_eq, List.map_map]
  rfl

theorem nextWord?_eq (w : Workspace) : w.nextWord? = Word.ofNat? (w.topSid + 1) := by
  rw [nextWord?, Word.sum?_eq, toNat_topWord]
  rfl

theorem toNat_sid_le_topSid {r : Rule} (hr : r ∈ w.rules) : r.sid.toNat ≤ w.topSid := by
  have hmem : r.sid.toNat ∈ w.rules.map (·.sid.toNat) :=
    List.mem_map_of_mem (f := (·.sid.toNat)) hr
  rw [topSid_eq]
  cases hmax : (w.rules.map (·.sid.toNat)).max? with
  | none => exact absurd (List.max?_eq_none_iff.mp hmax) (List.ne_nil_of_mem hmem)
  | some largest =>
      have hle := (List.max?_eq_some_iff.mp hmax).2 _ hmem
      exact Nat.le_trans hle (Nat.le_max_left _ _)

/-! ## Copying in words -/

/-- If there is room for all copies, there are as many words through the last identifier as rules
are selected. -/
theorem through?_freshSids (hpos : 0 < w.selection.length)
    (hroom : w.topSid + w.selection.length < UInt32.size) :
    Word.through? (UInt32.ofNat (w.topSid + 1)) (UInt32.ofNat (w.topSid + w.selection.length)) =
      some w.freshSids := by
  have hlength : w.topSid + w.selection.length - (w.topSid + 1) + 1 = w.selection.length := by
    omega
  rw [Word.through?_eq (by omega) hroom, hlength]
  rfl

/-- If a word can count the selection, operations on words copy it as it is copied without them. -/
theorem duplicateInWords_eq (hcount : w.selection.length < UInt32.size) :
    w.duplicateInWords = w.duplicate.mapError .refused := by
  by_cases hne : w.selection = []
  · rw [duplicate_of_unselected hne, duplicateInWords, hne]
    rfl
  have hpos : 0 < w.selection.length := List.length_pos_iff.mpr hne
  have hselected : ¬ w.selection.isEmpty := fun h => hne (List.isEmpty_iff.mp h)
  unfold duplicateInWords
  rw [if_neg hselected, Word.ofNat?_of_lt hcount, nextWord?_eq]
  by_cases hnext : w.topSid + 1 < UInt32.size
  · have hsum : w.topSid + 1 + (w.selection.length - 1) = w.topSid + w.selection.length := by omega
    have hlast : Word.sum? (UInt32.ofNat (w.topSid + 1)) (UInt32.ofNat (w.selection.length - 1)) =
        Word.ofNat? (w.topSid + w.selection.length) := by
      rw [Word.sum?_ofNat hnext (by omega), hsum]
    simp only [CopyFailure.unlessWrapped, Word.ofNat?_of_lt hnext, Word.difference?_one hpos hcount,
      hlast, bind, Except.bind]
    by_cases hroom : w.topSid + w.selection.length < UInt32.size
    · simp only [duplicate_of_room hne hroom, Word.ofNat?_of_lt hroom,
        through?_freshSids hpos hroom]
      rfl
    · have hroom := Nat.le_of_not_lt hroom
      simp only [duplicate_of_exhausted hne hroom, Word.ofNat?_of_le hroom]
      rfl
  · -- not even the first identifier is left
    have hnext := Nat.le_of_not_lt hnext
    rw [duplicate_of_exhausted hne (by omega), Word.ofNat?_of_le hnext]
    rfl

/-! ## Copies -/

theorem map_toNat_freshSids (hroom : w.topSid + w.selection.length < UInt32.size) :
    w.freshSids.map UInt32.toNat = List.range' (w.topSid + 1) w.selection.length := by
  rw [freshSids, List.map_map]
  refine (List.map_congr_left fun n hn => ?_).trans (List.map_id _)
  obtain ⟨-, hlt⟩ := List.mem_range'_1.mp hn
  exact UInt32.toNat_ofNat_of_lt' (by omega)

/-- Each selected position has a rule, and there is an identifier for it. -/
theorem IsSound.getElem?_copies (h : w.IsSound)
    (hroom : w.topSid + w.selection.length < UInt32.size) {k i : Nat}
    (hk : w.selection[k]? = some i) :
    ∃ r sid, w.rules[i]? = some r ∧ sid.toNat = w.topSid + 1 + k ∧
      w.copies[k]? = some (copyOf r sid) := by
  obtain ⟨hlt, -⟩ := List.getElem?_eq_some_iff.mp hk
  obtain ⟨r, hr⟩ : ∃ r, w.rules[i]? = some r :=
    ⟨_, List.getElem?_eq_getElem (h.selected i (List.mem_of_getElem? hk))⟩
  have hselected : w.selected[k]? = some r := by
    have hmap := congrArg (·[k]?) h.map_selection
    simpa [hk, hr] using hmap.symm
  have hnumber : (w.freshSids.map UInt32.toNat)[k]? = some (w.topSid + 1 + k) := by
    rw [map_toNat_freshSids hroom, List.getElem?_range' hlt, Nat.one_mul]
  rw [List.getElem?_map] at hnumber
  obtain ⟨sid, hsid, hnumber⟩ := Option.map_eq_some_iff.mp hnumber
  refine ⟨r, sid, hr, hnumber, ?_⟩
  simp only [copies, List.getElem?_zipWith, hselected, hsid]

theorem IsSound.length_selected (h : w.IsSound) : w.selected.length = w.selection.length := by
  have hlength := congrArg List.length h.map_selection
  rw [List.length_map, List.length_map] at hlength
  exact hlength.symm

/-- No identifier and no selected rule is left over. -/
theorem IsSound.map_sid_copies (h : w.IsSound) : w.copies.map (·.sid) = w.freshSids := by
  have hlength : w.freshSids.length = w.selected.length := by
    rw [h.length_selected, freshSids, List.length_map, List.length_range']
  have hpairs : w.copies = (w.selected.zip w.freshSids).map fun p => copyOf p.1 p.2 := by
    rw [List.map_zip_eq_zipWith]
    rfl
  rw [hpairs, List.map_map]
  exact List.map_snd_zip (Nat.le_of_eq hlength)

theorem IsSound.length_copies (h : w.IsSound) : w.copies.length = w.selection.length := by
  have hlength := congrArg List.length h.map_sid_copies
  rwa [List.length_map, freshSids, List.length_map, List.length_range'] at hlength

/-- The workspace `w'` is `w` with a copy of each selected rule behind the other rules, in the order
of their positions and under the identifiers that follow the number `top`. These are `sids`; they
are new and distinct. The selection is cleared, and the preview is the same. -/
structure IsCopied (w : Workspace) (top : Nat) (sids : List UInt32) (w' : Workspace) : Prop where
  rules_eq : ∃ copies : List Rule, w'.rules = w.rules ++ copies ∧
    copies.length = w.selection.length ∧
    ∀ k i, w.selection[k]? = some i → ∃ r sid, w.rules[i]? = some r ∧ sid.toNat = top + 1 + k ∧
      copies[k]? = some { r with sid := sid, message := r.message ++ " (copy)" }
  ascending : w.selection.Pairwise (· < ·)
  sids_eq : sids.map UInt32.toNat = List.range' (top + 1) w.selection.length
  nodup : sids.Nodup
  fresh : ∀ sid ∈ sids, ∀ r ∈ w.rules, r.sid < sid
  selection_eq : w'.selection = []
  preview_eq : w'.preview = w.preview

/-- Where there is room for them, the copies are what they should be. -/
theorem IsSound.isCopied (h : w.IsSound)
    (hroom : w.topSid + w.selection.length < UInt32.size) :
    w.IsCopied w.topSid (w.copies.map (·.sid))
      { w with rules := w.rules ++ w.copies, selection := [] } := by
  have hnumbers := map_toNat_freshSids hroom
  rw [h.map_sid_copies]
  refine ⟨⟨w.copies, rfl, h.length_copies, ?_⟩, h.ascending, hnumbers, ?_, ?_, rfl, rfl⟩
  · intro k i hk
    exact h.getElem?_copies hroom hk
  · apply List.Nodup.of_map UInt32.toNat
    rw [hnumbers]
    exact List.nodup_range'
  · intro sid hsid r hr
    have hmem : sid.toNat ∈ w.freshSids.map UInt32.toNat := List.mem_map_of_mem hsid
    rw [hnumbers] at hmem
    have hbehind := (List.mem_range'_1.mp hmem).1
    have htop := toNat_sid_le_topSid hr
    rw [UInt32.lt_iff_toNat_lt]
    omega

/-- In every run from the empty workspace that selects fewer rules than there are words, copying
succeeds if and only if rules are selected and the identifiers that follow the largest one in use,
or the floor, are enough for them; and then the copies are what they should be. Operations on words
find the same copies, and none of them wraps. -/
theorem duplicate_allocates (commands : List Command)
    (hcount : (empty.run commands).selection.length < UInt32.size) :
    let w := empty.run commands
    let n := w.selection.length
    let top := max ((w.rules.map (·.sid.toNat)).max?.getD 0) 1000000
    ((∃ result, w.duplicate = .ok result) ↔ 1 ≤ n ∧ top + n ≤ UInt32.size - 1) ∧
      (∀ sids w', w.duplicate = .ok (sids, w') → w.IsCopied top sids w') ∧
      w.duplicateInWords = w.duplicate.mapError .refused := by
  intro w n top
  have hsound : w.IsSound := isSound_empty.run commands
  have htop : top = w.topSid := w.topSid_eq.symm
  rw [htop]
  refine ⟨?_, ?_, duplicateInWords_eq hcount⟩
  · constructor
    · rintro ⟨⟨sids, w'⟩, hok⟩
      cases duplicate_eq_ok hok with
      | duplicate hne hroom =>
          have hpos : 0 < n := List.length_pos_iff.mpr hne
          omega
    · rintro ⟨hpos, hroom⟩
      have hne : w.selection ≠ [] := List.length_pos_iff.mp hpos
      exact ⟨_, duplicate_of_room hne (by omega)⟩
  · intro sids w' hok
    cases duplicate_eq_ok hok with
    | duplicate hne hroom => exact hsound.isCopied hroom

/-- Two identifiers are left and two rules are selected, the one behind first: their copies get both
identifiers, in the order of the rules. -/
theorem duplicate_allocates_last_two :
    let w := empty.run
      [.extend [{ message := "Ping" }, { message := "Scan", sid := 4294967293 },
        { message := "Login" }], .showPreview 1, .select [2, 0]]
    let w' : Workspace :=
      { w with
        rules := w.rules ++ [{ message := "Ping (copy)", sid := 4294967294 },
          { message := "Login (copy)", sid := 4294967295 }]
        selection := [] }
    w.IsCopied 4294967293 [4294967294, 4294967295] w' ∧
      w.duplicateInWords = .ok ([4294967294, 4294967295], w') := by
  intro w w'
  have hcount : w.selection.length < UInt32.size := by
    show 2 < UInt32.size
    decide
  have hok : w.duplicate = .ok ([4294967294, 4294967295], w') := rfl
  obtain ⟨-, hcopied, hwords⟩ := duplicate_allocates
    [.extend [{ message := "Ping" }, { message := "Scan", sid := 4294967293 },
      { message := "Login" }], .showPreview 1, .select [2, 0]] hcount
  refine ⟨hcopied _ _ hok, ?_⟩
  rw [hwords, hok]
  rfl

end Workspace

end RuleDesk
