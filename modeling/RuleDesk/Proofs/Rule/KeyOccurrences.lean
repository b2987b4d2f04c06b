import RuleDesk.Proofs.Rule.FreeTexts
import RuleDesk.Proofs.Rule.OptionLists
import RuleDesk.Proofs.Text.Occurrences

/-!
# Occurrences of keys

How often the key of a free text stands in an option list is known from the rule: once as the key,
and as often as it stands in the six texts, since no other clause holds it. Reading makes no
occurrence out of nothing: a clause that is read from a piece has its key and its value side by
side in the piece.
-/

set_option autoImplicit false

namespace RuleDesk

open RuleDesk.Text

/-- How often the key of a field stands in the text of a clause with a given free text. -/
def FreeText.load (f : FreeText) (written : FreeText × String) : Nat :=
  occurrences f.key written.1.key + occurrences f.key written.2.toList

namespace FreeText

variable (f : FreeText)

/-- A character that is not plain separates the occurrences of a key. -/
theorem occurrences_append {x : Char} (hx : isPlain x = false) (s t : List Char) :
    occurrences f.key (s ++ x :: t) = occurrences f.key s + occurrences f.key t :=
  occurrences_append_cons f.key_ne_nil (not_mem_of_isPlain f.isPlain_key hx) s t

theorem occurrences_cons {x : Char} (hx : isPlain x = false) (s : List Char) :
    occurrences f.key (x :: s) = occurrences f.key s := by
  have h := f.occurrences_append hx [] s
  rw [List.nil_append] at h
  rw [h, occurrences, Nat.zero_add]

theorem occurrences_concat {x : Char} (hx : isPlain x = false) (s : List Char) :
    occurrences f.key (s ++ [x]) = occurrences f.key s :=
  f.occurrences_append hx s []

/-! ## Clauses without a free text -/

theorem occurrences_numeral (n : Nat) : occurrences f.key (numeral n) = 0 := by
  -- every key has a letter, and a numeral has none
  have hletter : f.key.any (fun x => !isAsciiDigit x) = true := by
    cases f <;> decide
  obtain ⟨x, hx, hdigit⟩ := List.any_eq_true.mp hletter
  apply occurrences_eq_zero hx
  intro hmem
  rw [isAsciiDigit_of_mem_numeral hmem] at hdigit
  exact Bool.noConfusion hdigit

theorem occurrences_flow (s : FlowSet) : occurrences f.key s.chars = 0 := by
  have hword : ∀ o : FlowOption, occurrences f.key (spelled o) = 0 := by
    intro o
    cases f <;> cases o <;> decide
  have hjoined := occurrences_joined f.key_ne_nil
    (not_mem_of_isPlain f.isPlain_key (show isPlain ',' = false by decide)) (s.toList.map spelled)
  apply hjoined.trans
  simp [Function.comp_def, hword]

theorem occurrences_thresholdPart (p : ThresholdPart) : occurrences f.key p.chars = 0 := by
  have hkeyed : ∀ key value : List Char, occurrences f.key key = 0 →
      occurrences f.key value = 0 → occurrences f.key (key ++ ' ' :: value) = 0 := by
    intro key value hkey hvalue
    rw [f.occurrences_append (by decide), hkey, hvalue]
  cases p with
  | type value =>
      refine hkeyed "type".toList _ ?_ ?_
      · cases f <;> decide
      · cases value with
        | none => rfl
        | some t => cases f <;> cases t <;> decide
  | track value =>
      refine hkeyed "track".toList _ ?_ ?_
      · cases f <;> decide
      · cases value with
        | none => rfl
        | some t => cases f <;> cases t <;> decide
  | count value =>
      refine hkeyed "count".toList _ ?_ (f.occurrences_numeral _)
      cases f <;> decide
  | seconds value =>
      refine hkeyed "seconds".toList _ ?_ (f.occurrences_numeral _)
      cases f <;> decide

theorem occurrences_threshold (parts : List ThresholdPart) :
    occurrences f.key (joined [',', ' '] (parts.map ThresholdPart.chars)) = 0 := by
  induction parts with
  | nil => rfl
  | cons p ps ih =>
      cases ps with
      | nil => exact f.occurrences_thresholdPart p
      | cons q ps =>
          rw [List.map_cons, List.map_cons, joined_cons_cons, List.append_assoc]
          show occurrences f.key (p.chars ++ ',' :: ' ' :: joined [',', ' '] _) = 0
          rw [f.occurrences_append (by decide), f.occurrences_cons (by decide),
            f.occurrences_thresholdPart, Nat.zero_add]
          exact ih

/-! ## The clauses of a rule -/

theorem occurrences_text (o : TextOption) (v : String) :
    occurrences f.key (Clause.text o v).chars =
      occurrences f.key (spelled o) + occurrences f.key v.toList := by
  cases ho : o.isQuoted with
  | true =>
      rw [Clause.chars_quoted ho, f.occurrences_append (by decide), List.cons_append,
        f.occurrences_cons (by decide), f.occurrences_concat (by decide)]
  | false => rw [Clause.chars_bare ho, f.occurrences_append (by decide)]

theorem occurrences_content (negated : Bool) (v : String) :
    occurrences f.key (Clause.content negated v).chars =
      occurrences f.key content.key + occurrences f.key v.toList := by
  rw [Clause.chars_content, f.occurrences_append (by decide), List.cons_append,
    f.occurrences_cons (by decide), f.occurrences_concat (by decide)]
  cases negated with
  | false => rfl
  | true => exact congrArg _ (f.occurrences_cons (by decide) v.toList)

/-- A clause of a rule holds a key as often as its free text loads it. -/
theorem occurrences_of_mem_clauses {r : Rule} {c : Clause} (hc : c ∈ r.clauses) :
    occurrences f.key c.chars = (c.freeText?.map f.load).getD 0 := by
  rcases Rule.cases_of_mem_clauses hc with
    ⟨o, ho, -, rfl⟩ | rfl | ⟨o, v, rfl⟩ | ⟨-, rfl⟩ | rfl | rfl
  · obtain ⟨g, hg⟩ := exists_ofOption? ho
    rw [f.occurrences_text, Clause.freeText?, hg, ← key_of_ofOption? hg]
    rfl
  · have hkey : occurrences f.key (spelled TextOption.flow) = 0 := by
      cases f <;> decide
    rw [f.occurrences_text, hkey, FlowSet.text, String.toList_ofList, f.occurrences_flow]
    rfl
  · have hkey : occurrences f.key (spelled o) = 0 := by
      cases f <;> cases o <;> decide
    show occurrences f.key (spelled o ++ ':' :: numeral v.toNat) = 0
    rw [f.occurrences_append (by decide), hkey, f.occurrences_numeral]
  · exact f.occurrences_content r.negated r.content
  · cases f <;> decide
  · have hkey : occurrences f.key "threshold".toList = 0 := by
      cases f <;> decide
    show occurrences f.key ("threshold".toList ++ ':' :: joined [',', ' '] (List.map _ _)) = 0
    rw [f.occurrences_append (by decide), hkey, f.occurrences_threshold]

/-- The option list of a rule holds a key as often as its free texts load it. -/
theorem occurrences_spaced (r : Rule) :
    occurrences f.key (OptionList.spaced r.clauses) = (r.freeTexts.map f.load).sum := by
  have hload : ∀ c ∈ r.clauses, occurrences f.key c.chars = (c.freeText?.map f.load).getD 0 :=
    fun c hc => f.occurrences_of_mem_clauses hc
  unfold Rule.freeTexts
  -- from here only the load of each clause matters, not that a rule has written them
  generalize r.clauses = cs at hload
  induction cs with
  | nil => rfl
  | cons c cs ih =>
      have hc := hload c List.mem_cons_self
      have hcs := ih fun d hd => hload d (List.mem_cons_of_mem c hd)
      rw [OptionList.spaced_cons, f.occurrences_append (by decide), f.occurrences_cons (by decide),
        hc, hcs, List.filterMap_cons]
      cases c.freeText? with
      | none => exact Nat.zero_add _
      | some written => rfl

end FreeText

/-! ## Reading a piece -/

/-- A clause with a free text has its key for a name, and its text comes out of its value with every
semicolon of it. -/
theorem Clause.freeText?_of_ofKey? {key value : List Char} {d : Clause} {f : FreeText} {v : String}
    (h : Clause.ofKey? key value = some d) (hset : d.freeText? = some (f, v)) :
    key = f.key ∧ v.toList <:+: value ∧ v.toList.count ';' = value.count ';' := by
  unfold ofKey? at h
  split at h
  · next o ho =>
      obtain rfl := Option.some.inj h
      cases hg : FreeText.ofOption? o with
      | none => exact absurd hset (by simp [freeText?, hg])
      | some g =>
          simp only [freeText?, hg, Option.map_some, Option.some.injEq, Prod.mk.injEq] at hset
          obtain ⟨rfl, rfl⟩ := hset
          rw [FreeText.key_of_ofOption? hg, String.toList_ofList]
          exact ⟨eq_spelled_of_ofWord? ho, List.infix_refl value, rfl⟩
  · split at h
    · obtain ⟨n, -, rfl⟩ := Option.map_eq_some_iff.mp h
      exact absurd hset (by simp [freeText?])
    · split at h
      · next hkey =>
          split at h
          · next rest =>
              obtain rfl := Option.some.inj h
              simp only [freeText?, Option.some.injEq, Prod.mk.injEq] at hset
              obtain ⟨rfl, rfl⟩ := hset
              rw [String.toList_ofList, count_strip (by decide), List.count_cons_of_ne (by decide)]
              exact ⟨hkey, (isInfix_strip _ rest).trans (List.suffix_cons '!' rest).isInfix, rfl⟩
          · obtain rfl := Option.some.inj h
            simp only [freeText?, Option.some.injEq, Prod.mk.injEq] at hset
            obtain ⟨rfl, rfl⟩ := hset
            rw [String.toList_ofList]
            exact ⟨hkey, List.infix_refl value, rfl⟩
      · split at h
        · obtain rfl := Option.some.inj h
          exact absurd hset (by simp [freeText?])
        · split at h
          · obtain rfl := Option.some.inj h
            exact absurd hset (by simp [freeText?])
          · exact absurd h (by simp)

theorem isInfix_unquote (s : List Char) : unquote s <:+: s :=
  (isInfix_strip _ _).trans (isInfix_strip _ s)

/-- The free text that a piece is read as, with its field. -/
def readFreeText? (piece : List Char) : Option (FreeText × String) :=
  (Clause.read? piece).bind Clause.freeText?

/-- The key and the text that are read from a piece stand in it, one behind the other. -/
theorem exists_of_readFreeText? {piece : List Char} {f : FreeText} {v : String}
    (h : readFreeText? piece = some (f, v)) :
    ∃ front back, front ++ back <:+: piece ∧ f.key <:+: front ∧ v.toList <:+: back := by
  obtain ⟨d, hd, hset⟩ := Option.bind_eq_some_iff.mp h
  have hpiece : trim piece <:+: piece := isInfix_strip isBlank piece
  simp only [Clause.read?] at hd
  split at hd
  · next key value hcut =>
      obtain ⟨hkey, hvalue, -⟩ := Clause.freeText?_of_ofKey? hd hset
      have htrim : trim value <:+: value := isInfix_strip isBlank value
      refine ⟨key, ':' :: value, ?_, ?_, ?_⟩
      · rw [← eq_append_of_cutAt? hcut]
        exact hpiece
      · rw [← hkey]
        exact isInfix_strip isBlank key
      · exact (hvalue.trans (isInfix_unquote _)).trans
          (htrim.trans (List.suffix_cons ':' value).isInfix)
  · obtain ⟨hkey, hvalue, -⟩ := Clause.freeText?_of_ofKey? hd hset
    refine ⟨trim piece, [], ?_, hkey ▸ List.infix_refl (trim piece), hvalue⟩
    rw [List.append_nil]
    exact hpiece

/-- A piece holds a key at least as often as the free text that is read from it loads it. -/
theorem FreeText.load_le_of_readFreeText? (f : FreeText) {piece : List Char}
    {written : FreeText × String} (h : readFreeText? piece = some written) :
    f.load written ≤ occurrences f.key piece := by
  obtain ⟨g, v⟩ := written
  obtain ⟨front, back, hpiece, hkey, hvalue⟩ := exists_of_readFreeText? h
  calc f.load (g, v)
      ≤ occurrences f.key front + occurrences f.key back :=
        Nat.add_le_add (occurrences_le_of_isInfix hkey) (occurrences_le_of_isInfix hvalue)
    _ ≤ occurrences f.key (front ++ back) := add_occurrences_le_append f.key front back
    _ ≤ occurrences f.key piece := occurrences_le_of_isInfix hpiece

/-- Distinct free texts are read from distinct pieces, so together they weigh no more. -/
theorem FreeText.sum_load_le (f : FreeText) {pieces : List (List Char)}
    {texts : List (FreeText × String)} (hnodup : texts.Nodup)
    (h : ∀ t ∈ texts, t ∈ pieces.filterMap readFreeText?) :
    (texts.map f.load).sum ≤ (pieces.map (occurrences f.key)).sum := by
  induction pieces generalizing texts with
  | nil =>
      cases texts with
      | nil => exact Nat.le_refl _
      | cons t texts => exact absurd (h t List.mem_cons_self) List.not_mem_nil
  | cons p ps ih =>
      rw [List.map_cons, List.sum_cons]
      cases hp : readFreeText? p with
      | none =>
          have hrest := ih hnodup fun t ht => by
            have hmem := h t ht
            rwa [List.filterMap_cons_none hp] at hmem
          omega
      | some t =>
          have hweight := f.load_le_of_readFreeText? hp
          -- the piece accounts for one text at most, and the others are read from the rest
          have hrest := ih (hnodup.erase t) fun u hu => by
            have hmem := h u (List.mem_of_mem_erase hu)
            rw [List.filterMap_cons_some hp] at hmem
            rcases List.mem_cons.mp hmem with rfl | hmem
            · exact absurd hu hnodup.not_mem_erase
            · exact hmem
          have hsplit : (texts.map f.load).sum ≤ f.load t + ((texts.erase t).map f.load).sum := by
            by_cases ht : t ∈ texts
            · have hperm := ((List.perm_cons_erase ht).map f.load).sum_nat
              rw [hperm, List.map_cons, List.sum_cons]
            · rw [List.erase_of_not_mem ht]
              omega
          omega

end RuleDesk
