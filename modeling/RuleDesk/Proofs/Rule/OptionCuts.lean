import RuleDesk.Proofs.Text.Splitting
import RuleDesk.Proofs.Text.Stripping
import RuleDesk.Rule.OptionList

/-!
# Cuts of an option list

An option is cut out of a list as it was written exactly if its text is closed: read from outside
quotes it has no semicolon outside quotes and ends outside quotes. A closed text is a piece of its
own whatever follows it, so a list of closed options is cut back into its options.
-/

set_option autoImplicit false

namespace RuleDesk.OptionList

open RuleDesk.Text

/-- Whether a text has no semicolon outside quotes and ends outside quotes. `inside` and `before`
say how its reading begins. -/
def isClosed (inside : Bool) (before : Option Char) : List Char → Bool
  | [] => !inside
  | c :: rest =>
      !(c == ';' && !inside) && isClosed (inside ^^ togglesQuote before c) (some c) rest

/-! ## Pieces -/

theorem exists_cut_eq_cons (inside : Bool) (before : Option Char) (body : List Char) :
    ∃ piece more, cut inside before body = piece :: more :=
  List.exists_cons_of_ne_nil (cut_ne_nil inside before body)

/-- Unless it cuts, a character goes to the front of the first piece of what follows. -/
theorem cut_cons (inside : Bool) (before : Option Char) (c : Char) (rest : List Char) :
    cut inside before (c :: rest) =
      if c == ';' && !inside then [] :: cut false (some c) rest
      else (cut (inside ^^ togglesQuote before c) (some c) rest).modifyHead (c :: ·) := by
  rw [cut]
  split
  · rfl
  · obtain ⟨piece, more, hp⟩ :=
      exists_cut_eq_cons (inside ^^ togglesQuote before c) (some c) rest
    rw [hp]
    rfl

/-- What becomes of the last piece: it is dropped exactly if it is empty. -/
theorem dropEmptyLast_concat (front : List (List Char)) (last : List Char) :
    dropEmptyLast (front ++ [last]) = if last = [] then front else front ++ [last] := by
  induction front with
  | nil => cases last <;> rfl
  | cons piece front ih =>
      have hne : front ++ [last] ≠ [] := by simp
      rw [List.cons_append, dropEmptyLast, ih]
      · split <;> rfl
      · exact fun hnil => absurd hnil hne

/-- Joining the pieces with a semicolon gives the body back. -/
theorem joined_cut (inside : Bool) (before : Option Char) (body : List Char) :
    joined [';'] (cut inside before body) = body := by
  -- every character may change where the reading stands, so both parts of it are general
  induction body generalizing inside before with
  | nil => rfl
  | cons c rest ih =>
      rw [cut_cons]
      split
      · next hc =>
          simp only [Bool.and_eq_true, beq_iff_eq] at hc
          obtain ⟨piece, more, hp⟩ := exists_cut_eq_cons false (some c) rest
          rw [hp, joined_cons_cons, ← hp, ih, hc.1]
          rfl
      · rw [joined_modifyHead_cons (cut_ne_nil _ _ _), ih]

theorem mem_of_mem_cut {inside : Bool} {before : Option Char} {body piece : List Char} {c : Char}
    (hpiece : piece ∈ cut inside before body) (hc : c ∈ piece) : c ∈ body := by
  rw [← joined_cut inside before body]
  exact mem_joined_of_mem hpiece hc

/-- The first piece is the whole body, or it ends at a semicolon behind which the reading goes on
outside quotes. -/
theorem eq_append_of_cut {inside : Bool} {before : Option Char} {body piece : List Char}
    {more : List (List Char)} (h : cut inside before body = piece :: more) :
    (body = piece ∧ more = []) ∨
      ∃ rest, body = piece ++ ';' :: rest ∧ more = cut false (some ';') rest := by
  induction body generalizing inside before piece with
  | nil =>
      simp only [cut, List.cons.injEq] at h
      exact Or.inl ⟨h.1, h.2.symm⟩
  | cons c rest ih =>
      rw [cut] at h
      split at h
      · next hc =>
          simp only [Bool.and_eq_true, beq_iff_eq] at hc
          obtain ⟨rfl, -⟩ := hc
          simp only [List.cons.injEq] at h
          obtain ⟨rfl, rfl⟩ := h
          exact Or.inr ⟨rest, rfl, rfl⟩
      · obtain ⟨first, others, hp⟩ :=
          exists_cut_eq_cons (inside ^^ togglesQuote before c) (some c) rest
        simp only [hp, List.cons.injEq] at h
        obtain ⟨rfl, rfl⟩ := h
        obtain ⟨hrest, hnil⟩ | ⟨tail, hrest, hmore⟩ := ih hp
        · exact Or.inl ⟨congrArg (c :: ·) hrest, hnil⟩
        · exact Or.inr ⟨tail, congrArg (c :: ·) hrest, hmore⟩

/-- A closed text before a semicolon is a piece of its own. -/
theorem cut_append_of_isClosed {inside : Bool} {before : Option Char} {s : List Char}
    (h : isClosed inside before s = true) (rest : List Char) :
    cut inside before (s ++ ';' :: rest) = s :: cut false (some ';') rest := by
  induction s generalizing inside before with
  | nil =>
      have hinside : inside = false := by simpa [isClosed] using h
      simp [cut, hinside]
  | cons c s ih =>
      simp only [isClosed, Bool.and_eq_true, Bool.not_eq_true'] at h
      rw [List.cons_append, cut, h.1, ih h.2]
      rfl

/-- Only a closed text is a piece of its own. -/
theorem isClosed_of_cut {inside : Bool} {before : Option Char} {s rest : List Char}
    {more : List (List Char)} (h : cut inside before (s ++ ';' :: rest) = s :: more) :
    isClosed inside before s = true := by
  induction s generalizing inside before with
  | nil =>
      cases inside with
      | false => rfl
      | true =>
          -- inside quotes the semicolon does not end the piece, which is then not empty
          rw [List.nil_append, cut] at h
          simp only [Bool.not_true, Bool.and_false, Bool.false_eq_true, if_false] at h
          split at h <;> simp at h
  | cons c s ih =>
      rw [List.cons_append, cut] at h
      split at h
      · simp at h
      · next hc =>
          obtain ⟨first, others, hp⟩ :=
            exists_cut_eq_cons (inside ^^ togglesQuote before c) (some c) (s ++ ';' :: rest)
          simp only [hp, List.cons.injEq, true_and] at h
          obtain ⟨rfl, rfl⟩ := h
          rw [Bool.not_eq_true] at hc
          rw [isClosed, hc, ih hp]
          rfl

/-! ## The character before -/

theorem togglesQuote_of_ne {before : Option Char} (h : before ≠ some '\\') (c : Char) :
    togglesQuote before c = togglesQuote none c := by
  have hbefore : (before != some '\\') = true := bne_iff_ne.mpr h
  rw [togglesQuote, togglesQuote, hbefore]
  rfl

/-- Only a backslash before a body matters to its cuts. -/
theorem cut_of_ne {before : Option Char} (h : before ≠ some '\\') (inside : Bool)
    (body : List Char) : cut inside before body = cut inside none body := by
  cases body with
  | nil => rfl
  | cons c rest => rw [cut, cut, togglesQuote_of_ne h]

theorem isClosed_of_ne {before : Option Char} (h : before ≠ some '\\') (inside : Bool)
    (s : List Char) : isClosed inside before s = isClosed inside none s := by
  cases s with
  | nil => rfl
  | cons c rest => rw [isClosed, isClosed, togglesQuote_of_ne h]

/-! ## Cutting and joining -/

/-- All pieces but the last are closed, and the last is not cut. -/
theorem isClosed_of_cut_concat {body last : List Char} {front : List (List Char)}
    (h : cut false none body = front ++ [last]) :
    (∀ piece ∈ front, isClosed false none piece = true) ∧ cut false none last = [last] := by
  induction front generalizing body with
  | nil =>
      refine ⟨fun piece hpiece => absurd hpiece List.not_mem_nil, ?_⟩
      rcases eq_append_of_cut h with ⟨rfl, -⟩ | ⟨rest, -, hmore⟩
      · exact h
      · exact absurd hmore.symm (cut_ne_nil _ _ _)
  | cons piece front ih =>
      rcases eq_append_of_cut h with ⟨-, hnil⟩ | ⟨rest, rfl, hmore⟩
      · exact absurd hnil (List.append_ne_nil_of_right_ne_nil front (List.cons_ne_nil last []))
      · rw [cut_of_ne (by decide)] at hmore
        obtain ⟨hfront, hlast⟩ := ih hmore.symm
        refine ⟨?_, hlast⟩
        intro q hq
        rcases List.mem_cons.mp hq with rfl | hq
        · exact isClosed_of_cut h
        · exact hfront q hq

/-- Closed pieces and one that is not cut are cut out of their joined text again. -/
theorem cut_joined {front : List (List Char)} {last : List Char}
    (hfront : ∀ piece ∈ front, isClosed false none piece = true)
    (hlast : cut false none last = [last]) :
    cut false none (joined [';'] (front ++ [last])) = front ++ [last] := by
  induction front with
  | nil => exact hlast
  | cons piece front ih =>
      have hrest := ih fun q hq => hfront q (List.mem_cons_of_mem piece hq)
      obtain ⟨next, more, hmore⟩ := List.exists_cons_of_ne_nil
        (List.append_ne_nil_of_right_ne_nil front (List.cons_ne_nil last []))
      rw [List.cons_append, hmore, joined_cons_cons, List.append_assoc]
      show cut false none (piece ++ ';' :: joined [';'] (next :: more)) = _
      rw [cut_append_of_isClosed (hfront piece List.mem_cons_self), cut_of_ne (by decide), ← hmore,
        hrest]

/-! ## Texts that are closed -/

/-- A character that neither cuts nor opens or closes quoted text. -/
def isInert (c : Char) : Bool :=
  !(c == ';') && !(c == '"')

theorem isClosed_cons_of_isInert {c : Char} (h : isInert c = true) (inside : Bool)
    (before : Option Char) (s : List Char) :
    isClosed inside before (c :: s) = isClosed inside (some c) s := by
  simp only [isInert, Bool.and_eq_true, Bool.not_eq_true'] at h
  rw [isClosed, togglesQuote, h.1, h.2]
  simp

theorem isClosed_of_inert {s : List Char} (h : ∀ c ∈ s, isInert c = true)
    (before : Option Char) : isClosed false before s = true := by
  induction s generalizing before with
  | nil => rfl
  | cons c s ih =>
      rw [isClosed_cons_of_isInert (h c List.mem_cons_self)]
      exact ih (fun d hd => h d (List.mem_cons_of_mem _ hd)) (some c)

theorem isInert_iff (c : Char) : isInert c = true ↔ c ≠ ';' ∧ c ≠ '"' := by
  simp [isInert]

theorem isClosed_of_not_mem {s : List Char} (hcut : ';' ∉ s) (hquote : '"' ∉ s) :
    isClosed false none s = true := by
  apply isClosed_of_inert
  intro c hc
  exact (isInert_iff c).mpr ⟨fun hcs => hcut (hcs ▸ hc), fun hcs => hquote (hcs ▸ hc)⟩

/-- What stands before a colon does not matter if it is inert. -/
theorem isClosed_inert_append {key : List Char} (h : ∀ c ∈ key, isInert c = true)
    (before : Option Char) (s : List Char) :
    isClosed false before (key ++ ':' :: s) = isClosed false none s := by
  induction key generalizing before with
  | nil =>
      rw [List.nil_append, isClosed_cons_of_isInert (by decide)]
      exact isClosed_of_ne (by decide) false s
  | cons c key ih =>
      rw [List.cons_append, isClosed_cons_of_isInert (h c List.mem_cons_self)]
      exact ih (fun d hd => h d (List.mem_cons_of_mem _ hd)) (some c)

theorem isClosed_inside_append {s : List Char} (h : '"' ∉ s) (before : Option Char) :
    isClosed true before (s ++ ['"']) = (s.getLast?.or before != some '\\') := by
  induction s generalizing before with
  | nil =>
      show (true && !(true ^^ (true && before != some '\\'))) = (before != some '\\')
      simp
  | cons c s ih =>
      have hc : (c == '"') = false :=
        beq_eq_false_iff_ne.mpr fun hcs => h (hcs ▸ List.mem_cons_self)
      have hs := ih (fun hmem => h (List.mem_cons_of_mem _ hmem)) (some c)
      have hlast : (c :: s).getLast?.or before = s.getLast?.or (some c) := by
        rw [List.getLast?_cons]
        cases s.getLast? <;> rfl
      rw [List.cons_append, isClosed, togglesQuote, hc, hlast, ← hs]
      simp

/-- Quoted text without a quote in it is closed unless a backslash stands before its end. -/
theorem isClosed_quoted_iff {s : List Char} (h : '"' ∉ s) :
    isClosed false none ('"' :: s ++ ['"']) = true ↔ s.getLast? ≠ some '\\' := by
  have hopen : isClosed false none ('"' :: s ++ ['"']) =
      isClosed true (some '"') (s ++ ['"']) := rfl
  rw [hopen, isClosed_inside_append h]
  cases s.getLast? <;> simp

end RuleDesk.OptionList
