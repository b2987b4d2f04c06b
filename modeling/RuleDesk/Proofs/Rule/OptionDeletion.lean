import RuleDesk.Proofs.Rule.OptionLists

/-!
# Deleting options

Of the options with a given key all but the last are deleted from the text of an option list
(`OptionList.onlyLast`). All pieces of a list but its last one are closed, and the last one is never
deleted. So what is left is cut into the pieces that were kept (`OptionList.cut_onlyLast`), and the
clauses of what is left are the clauses that were kept (`OptionList.clauses_onlyLast`).
-/

set_option autoImplicit false

namespace RuleDesk

open RuleDesk.Text

/-! ## Keeping the last -/

section KeepLast

variable {α β : Type} {p : α → Bool}

/-- The items of a list without those that satisfy `p` and have another such item behind them. -/
def keepLast (p : α → Bool) : List α → List α
  | [] => []
  | a :: rest => if p a && rest.any p then keepLast p rest else a :: keepLast p rest

theorem keepLast_cons_of_any {a : α} {rest : List α} (ha : p a = true) (h : rest.any p = true) :
    keepLast p (a :: rest) = keepLast p rest := by
  rw [keepLast, ha, h]
  rfl

theorem keepLast_cons_of_neg {a : α} (ha : p a = false) (rest : List α) :
    keepLast p (a :: rest) = a :: keepLast p rest := by
  rw [keepLast, ha]
  rfl

theorem keepLast_cons_of_none {rest : List α} (h : rest.any p = false) (a : α) :
    keepLast p (a :: rest) = a :: keepLast p rest := by
  rw [keepLast, h, Bool.and_false]
  rfl

theorem keepLast_eq_self {s : List α} (h : s.any p = false) : keepLast p s = s := by
  induction s with
  | nil => rfl
  | cons a rest ih =>
      obtain ⟨ha, hrest⟩ := Bool.or_eq_false_iff.mp (List.any_cons.symm.trans h)
      rw [keepLast_cons_of_neg ha, ih hrest]

theorem any_keepLast (s : List α) : (keepLast p s).any p = s.any p := by
  induction s with
  | nil => rfl
  | cons a rest ih =>
      rw [keepLast]
      split
      · next h =>
          obtain ⟨ha, hrest⟩ := Bool.and_eq_true_iff.mp h
          rw [ih, hrest, List.any_cons, ha, Bool.true_or]
      · rw [List.any_cons, List.any_cons, ih]

theorem keepLast_sublist (s : List α) : (keepLast p s).Sublist s := by
  induction s with
  | nil => exact List.Sublist.refl []
  | cons a rest ih =>
      rw [keepLast]
      split
      · exact ih.cons a
      · exact ih.cons_cons a

/-- The last item stays. -/
theorem exists_keepLast_concat (front : List α) (last : α) :
    ∃ kept : List α, keepLast p (front ++ [last]) = kept ++ [last] ∧ kept.Sublist front := by
  induction front with
  | nil => exact ⟨[], keepLast_cons_of_none rfl last, List.Sublist.refl []⟩
  | cons a front ih =>
      obtain ⟨kept, hkept, hsub⟩ := ih
      rw [List.cons_append, keepLast, hkept]
      split
      · exact ⟨kept, rfl, hsub.cons a⟩
      · exact ⟨a :: kept, rfl, hsub.cons_cons a⟩

/-- Of items that all satisfy `p`, the last one is kept. -/
theorem keepLast_true (s : List α) : keepLast (fun _ => true) s = s.getLast?.toList := by
  induction s with
  | nil => rfl
  | cons a rest ih =>
      cases rest with
      | nil => rfl
      | cons b rest =>
          rw [keepLast_cons_of_any rfl (by simp), ih]
          rfl

/-- Keeping the last goes along with reading, if an item satisfies `p` exactly if it is read as one
that satisfies `q`. -/
theorem filterMap_keepLast {f : α → Option β} {q : β → Bool} (h : ∀ a, p a = (f a).any q)
    (s : List α) : (keepLast p s).filterMap f = keepLast q (s.filterMap f) := by
  have hany : ∀ t : List α, t.any p = (t.filterMap f).any q := by
    intro t
    induction t with
    | nil => rfl
    | cons a t ih =>
        rw [List.any_cons, List.filterMap_cons, h, ih]
        cases f a with
        | none => rfl
        | some b => rfl
  induction s with
  | nil => rfl
  | cons a rest ih =>
      rw [keepLast, h, hany]
      cases hf : f a with
      | none =>
          -- an item that is not read is kept, and nothing is seen of it
          rw [List.filterMap_cons_none hf, ← ih]
          show List.filterMap f (a :: keepLast p rest) = _
          rw [List.filterMap_cons_none hf]
      | some b =>
          rw [List.filterMap_cons_some hf, keepLast, Option.any_some]
          split
          · exact ih
          · rw [List.filterMap_cons_some hf, ih]

end KeepLast

/-! ## Deleting options -/

namespace OptionList

/-- The key of an option: what stands before its first colon, trimmed. -/
def optionKey (option : List Char) : List Char :=
  match cutAt? ':' (trim option) with
  | some (key, _) => trim key
  | none => trim option

/-- Whether an option has a given key. -/
def hasKey (key option : List Char) : Bool :=
  optionKey option == key

/-- The body without the options that have a given key, except the last of them. -/
def onlyLast (key body : List Char) : List Char :=
  joined [';'] (keepLast (hasKey key) (cut false none body))

/-- What is left of a list is cut into the options that were kept. -/
theorem cut_onlyLast (key body : List Char) :
    cut false none (onlyLast key body) = keepLast (hasKey key) (cut false none body) := by
  obtain ⟨front, last, hcut⟩ :=
    (List.eq_nil_or_concat' (cut false none body)).resolve_left (cut_ne_nil _ _ _)
  -- the last piece may end inside quotes, so it matters that it stays in its place
  obtain ⟨hfront, hlast⟩ := isClosed_of_cut_concat hcut
  obtain ⟨kept, hkept, hsub⟩ := exists_keepLast_concat (p := hasKey key) front last
  rw [onlyLast, hcut, hkept]
  exact cut_joined (fun piece hpiece => hfront piece (hsub.subset hpiece)) hlast

/-- Something is left of a list that is not empty. -/
theorem onlyLast_ne_nil {key body : List Char} (hkey : key ≠ []) (hbody : body ≠ []) :
    onlyLast key body ≠ [] := by
  intro hempty
  have hcut := cut_onlyLast key body
  rw [hempty] at hcut
  -- nothing that is left has the key, and so nothing had it and nothing was deleted
  have hnone : (cut false none body).any (hasKey key) = false := by
    rw [← any_keepLast, ← hcut]
    have hblank : hasKey key [] = false := beq_eq_false_iff_ne.mpr hkey.symm
    simp [cut, hblank]
  rw [onlyLast, keepLast_eq_self hnone, joined_cut] at hempty
  exact hbody hempty

theorem onlyLast_oneLine {key body : List Char} (h : '\n' ∉ body) : '\n' ∉ onlyLast key body := by
  intro hmem
  rcases mem_joined hmem with hsep | ⟨piece, hpiece, hc⟩
  · exact absurd (List.mem_singleton.mp hsep) (by decide)
  · exact h (mem_of_mem_cut ((keepLast_sublist _).subset hpiece) hc)

end OptionList

/-! ## Keys of clauses -/

namespace Clause

/-- What is read behind a key is a clause with this key. -/
theorem key_of_ofKey? {key value : List Char} {c : Clause} (h : ofKey? key value = some c) :
    c.key = key := by
  unfold ofKey? at h
  split at h
  · next o ho =>
      obtain rfl := Option.some.inj h
      exact (eq_spelled_of_ofWord? ho).symm
  · split at h
    · next o ho =>
        obtain ⟨n, -, rfl⟩ := Option.map_eq_some_iff.mp h
        exact (eq_spelled_of_ofWord? ho).symm
    · split at h
      · next hkey =>
          split at h
          · obtain rfl := Option.some.inj h
            exact hkey.symm
          · obtain rfl := Option.some.inj h
            exact hkey.symm
      · split at h
        · next hkey =>
            obtain rfl := Option.some.inj h
            exact hkey.symm
        · split at h
          · next hkey =>
              obtain rfl := Option.some.inj h
              exact hkey.symm
          · cases h

theorem exists_read?_eq (option : List Char) :
    ∃ value, read? option = ofKey? (OptionList.optionKey option) value := by
  simp only [read?, OptionList.optionKey]
  cases cutAt? ':' (trim option) with
  | none => exact ⟨[], rfl⟩
  | some parts => exact ⟨unquote (trim parts.2), rfl⟩

/-- If every value behind a key makes a clause, an option has this key exactly if it is read as a
clause with this key. -/
theorem hasKey_eq_any {key : List Char} (hkey : ∀ value, ∃ c, ofKey? key value = some c)
    (option : List Char) :
    OptionList.hasKey key option = (read? option).any fun c => c.key == key := by
  obtain ⟨value, hread⟩ := exists_read?_eq option
  rw [hread, OptionList.hasKey]
  by_cases hsame : OptionList.optionKey option = key
  · obtain ⟨c, hc⟩ := hkey value
    rw [hsame, hc, Option.any_some, key_of_ofKey? hc]
  · have hother : (OptionList.optionKey option == key) = false := beq_eq_false_iff_ne.mpr hsame
    rw [hother]
    cases hc : ofKey? (OptionList.optionKey option) value with
    | none => rfl
    | some c => rw [Option.any_some, key_of_ofKey? hc, hother]

end Clause

/-- Deleting options by their key deletes the clauses with this key. -/
theorem OptionList.clauses_onlyLast {key : List Char}
    (hkey : ∀ value, ∃ c, Clause.ofKey? key value = some c) (body : List Char) :
    clauses (onlyLast key body) = keepLast (fun c => c.key == key) (clauses body) := by
  rw [clauses_eq, clauses_eq, cut_onlyLast]
  exact filterMap_keepLast (Clause.hasKey_eq_any hkey) _

end RuleDesk
