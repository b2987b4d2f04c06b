import Mathlib.Data.List.Basic
import RuleDesk.Proofs.Rule.Survival

/-!
# Option lists read back

Options are written with a semicolon behind each and a space between them. Options that are closed
are then cut off one after the other, whatever follows, and each is read by itself
(`OptionList.clauses_written`). A rule writes the texts of its clauses in this way. With one more
space in front, which reading ignores, its text is uniform: each clause has a space before it and a
semicolon behind it.
-/

set_option autoImplicit false

namespace RuleDesk.OptionList

open RuleDesk.Text

/-! ## Texts of options -/

/-- The text of options with a semicolon behind each. -/
def terminated (options : List (List Char)) : List Char :=
  options.flatMap fun option => option ++ [';']

/-- The text of a list of options: a semicolon after each, and a space between them. -/
def written (options : List (List Char)) : List Char :=
  joined [';', ' '] options ++ [';']

/-- The text of a list of clauses with a space before each. -/
def spaced (cs : List Clause) : List Char :=
  cs.flatMap fun c => ' ' :: c.chars ++ [';']

theorem chars_eq_written (cs : List Clause) : chars cs = written (cs.map Clause.chars) := rfl

theorem terminated_cons (option : List Char) (options : List (List Char)) :
    terminated (option :: options) = option ++ ';' :: terminated options := by
  simp [terminated]

/-- The space between two options belongs to the second of them. -/
theorem written_cons (first : List Char) (rest : List (List Char)) :
    written (first :: rest) = terminated (first :: rest.map (' ' :: ·)) := by
  induction rest generalizing first with
  | nil => simp [written, terminated, joined]
  | cons next rest ih =>
      have hrest := ih next
      rw [terminated_cons] at hrest
      rw [terminated_cons, List.map_cons, terminated_cons, List.cons_append, ← hrest, written,
        written, joined_cons_cons, List.append_assoc, List.append_assoc]
      rfl

theorem spaced_eq_terminated (cs : List Clause) :
    spaced cs = terminated (cs.map fun c => ' ' :: c.chars) := by
  simp [spaced, terminated, List.flatMap_map]

theorem spaced_cons (c : Clause) (cs : List Clause) :
    spaced (c :: cs) = (' ' :: c.chars) ++ ';' :: spaced cs := by
  simp [spaced]

theorem spaced_append (a b : List Clause) : spaced (a ++ b) = spaced a ++ spaced b :=
  List.flatMap_append

theorem cons_chars {cs : List Clause} (h : cs ≠ []) : ' ' :: chars cs = spaced cs := by
  obtain ⟨c, cs, rfl⟩ := List.exists_cons_of_ne_nil h
  rw [chars_eq_written, List.map_cons, written_cons, terminated_cons, spaced_cons,
    spaced_eq_terminated, List.map_map]
  rfl

/-! ## Reading the pieces -/

/-- A last piece that is empty has no effect, dropped or not. -/
theorem filterMap_dropEmptyLast {β : Type} {f : List Char → Option β} (h : f [] = none)
    (ps : List (List Char)) : (dropEmptyLast ps).filterMap f = ps.filterMap f := by
  induction ps with
  | nil => rfl
  | cons p ps ih =>
      cases ps with
      | nil =>
          rw [dropEmptyLast]
          split
          · next hp =>
              rw [List.isEmpty_iff] at hp
              rw [hp, List.filterMap_cons, h]
          · rfl
      | cons q ps =>
          rw [dropEmptyLast, List.filterMap_cons, List.filterMap_cons, ih]
          exact fun hnil => absurd hnil (List.cons_ne_nil q ps)

theorem dropEmptyLast_concat_nil (ps : List (List Char)) : dropEmptyLast (ps ++ [[]]) = ps := by
  rw [dropEmptyLast_concat, if_pos rfl]

theorem clauses_eq (body : List Char) :
    clauses body = (cut false none body).filterMap Clause.read? :=
  filterMap_dropEmptyLast (by decide) _

/-! ## Spaces before options -/

/-- A space before a body is a space before its first piece. -/
theorem cut_space {body piece : List Char} {more : List (List Char)}
    (h : cut false none body = piece :: more) :
    cut false none (' ' :: body) = (' ' :: piece) :: more := by
  have hne : some ' ' ≠ some '\\' := by decide
  have hspace : cut (false ^^ togglesQuote none ' ') (some ' ') body = piece :: more :=
    (cut_of_ne hne false body).trans h
  rw [cut, if_neg (by decide), hspace]

/-- A space before a body is ignored. -/
theorem filterMap_cut_space (body : List Char) :
    (cut false none (' ' :: body)).filterMap Clause.read? = clauses body := by
  rw [clauses_eq]
  obtain ⟨piece, more, hp⟩ := exists_cut_eq_cons false none body
  rw [hp, cut_space hp, List.filterMap_cons, List.filterMap_cons,
    Clause.read?_cons_of_isBlank (by decide)]

theorem isClosed_space (s : List Char) :
    isClosed false none (' ' :: s) = isClosed false none s := by
  rw [isClosed_cons_of_isInert (by decide)]
  exact isClosed_of_ne (by decide) false s

theorem isClosed_of_mem_map_space {options : List (List Char)}
    (h : ∀ o ∈ options, isClosed false none o = true) :
    ∀ o ∈ options.map (' ' :: ·), isClosed false none o = true := by
  intro o ho
  obtain ⟨option, hoption, rfl⟩ := List.mem_map.mp ho
  rw [isClosed_space]
  exact h option hoption

/-! ## Closed options -/

/-- Closed texts are cut off one after the other, whatever follows. -/
theorem cut_terminated {options : List (List Char)}
    (h : ∀ o ∈ options, isClosed false none o = true) (rest : List Char) :
    cut false none (terminated options ++ rest) = options ++ cut false none rest := by
  induction options with
  | nil => rfl
  | cons o options ih =>
      have ho := h o List.mem_cons_self
      have hoptions := ih fun p hp => h p (List.mem_cons_of_mem o hp)
      rw [terminated_cons, List.append_assoc]
      show cut false none (o ++ ';' :: (terminated options ++ rest)) = _
      rw [cut_append_of_isClosed ho, cut_of_ne (by decide), hoptions]
      rfl

/-- Closed clauses are cut off one after the other, whatever follows. -/
theorem cut_spaced {cs : List Clause} (h : ∀ c ∈ cs, isClosed false none c.chars = true)
    (rest : List Char) :
    cut false none (spaced cs ++ rest) =
      cs.map (fun c => ' ' :: c.chars) ++ cut false none rest := by
  rw [spaced_eq_terminated]
  apply cut_terminated
  intro o ho
  obtain ⟨c, hc, rfl⟩ := List.mem_map.mp ho
  rw [isClosed_space]
  exact h c hc

theorem cut_written {first : List Char} {rest : List (List Char)}
    (h : ∀ o ∈ first :: rest, isClosed false none o = true) :
    cut false none (written (first :: rest)) = first :: rest.map (' ' :: ·) ++ [[]] := by
  obtain ⟨hfirst, hrest⟩ := List.forall_mem_cons.mp h
  have hcut := cut_terminated
    (List.forall_mem_cons.mpr ⟨hfirst, isClosed_of_mem_map_space hrest⟩) []
  rw [List.append_nil] at hcut
  rw [written_cons, hcut]
  rfl

/-- The tokens of a written list are its options, with a space before each but the first. -/
theorem split_written {first : List Char} {rest : List (List Char)}
    (h : ∀ o ∈ first :: rest, isClosed false none o = true) :
    split (written (first :: rest)) = first :: rest.map (' ' :: ·) := by
  rw [split, cut_written h, dropEmptyLast_concat_nil]

/-- Each option of a written list is read by itself. -/
theorem clauses_written {options : List (List Char)}
    (h : ∀ o ∈ options, isClosed false none o = true) :
    clauses (written options) = options.filterMap Clause.read? := by
  cases options with
  | nil => decide
  | cons first rest =>
      have hspace : rest.filterMap (Clause.read? ∘ (' ' :: ·)) = rest.filterMap Clause.read? :=
        List.filterMap_congr fun o _ => Clause.read?_cons_of_isBlank (by decide) o
      rw [clauses, split_written h, List.filterMap_cons, List.filterMap_cons, List.filterMap_map,
        hspace]

/-- Clauses that survive are read back from their list, without the parts that have no value. -/
theorem clauses_chars {cs : List Clause} (hwritten : ∀ c ∈ cs, c.IsWritten)
    (h : ∀ c ∈ cs, c.survives = true) : clauses (chars cs) = cs.map Clause.reread := by
  have hclosed : ∀ o ∈ cs.map Clause.chars, isClosed false none o = true := by
    intro o ho
    obtain ⟨c, hc, rfl⟩ := List.mem_map.mp ho
    exact Clause.isClosed_of_survives (h c hc)
  rw [chars_eq_written, clauses_written hclosed, List.filterMap_map]
  apply List.filterMap_eq_map_iff_forall_eq_some.mpr
  intro c hc
  exact Clause.read?_of_survives (hwritten c hc) (h c hc)

end RuleDesk.OptionList
