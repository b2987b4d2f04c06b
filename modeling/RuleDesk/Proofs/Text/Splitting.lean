import Mathlib.Tactic.Common
import RuleDesk.Text.Pieces

/-!
# Laws of splitting

Cutting a text at a separator is cutting what stands before it and what stands behind it. From this
one equation follow the pieces of a joined list and the words of a line.
-/

set_option autoImplicit false

namespace RuleDesk.Text

/-! ## Pieces -/

/-- The pieces of a text around a separator are those of its two parts. -/
theorem piecesBy_append_cons {α : Type} {p : α → Bool} {c : α} (hc : p c = true) (s t : List α) :
    piecesBy p (s ++ c :: t) = piecesBy p s ++ piecesBy p t := by
  induction s with
  | nil => simp [piecesBy, hc]
  | cons d s ih =>
      rw [List.cons_append, piecesBy, piecesBy, ih]
      split
      · rfl
      · -- only the first piece of the front part grows
        cases hp : piecesBy p s with
        | nil => exact absurd hp (piecesBy_ne_nil p s)
        | cons piece more => rfl

theorem piecesBy_of_forall_not {α : Type} {p : α → Bool} {s : List α}
    (h : ∀ c ∈ s, p c = false) : piecesBy p s = [s] := by
  induction s with
  | nil => rfl
  | cons c s ih =>
      have hs := ih fun d hd => h d (List.mem_cons_of_mem _ hd)
      simp [piecesBy, h c List.mem_cons_self, hs]

theorem pieces_append_cons (sep : Char) (s t : List Char) :
    pieces sep (s ++ sep :: t) = pieces sep s ++ pieces sep t :=
  piecesBy_append_cons (p := (· == sep)) (beq_self_eq_true sep) s t

theorem pieces_of_not_mem {sep : Char} {s : List Char} (h : sep ∉ s) : pieces sep s = [s] := by
  apply piecesBy_of_forall_not
  intro c hc
  exact beq_eq_false_iff_ne.mpr fun hcs => h (hcs ▸ hc)

/-- No piece holds an item at which the text was cut. -/
theorem forall_not_of_mem_piecesBy {α : Type} {p : α → Bool} {s piece : List α}
    (h : piece ∈ piecesBy p s) : ∀ c ∈ piece, p c = false := by
  induction s generalizing piece with
  | nil =>
      obtain rfl := List.mem_singleton.mp h
      exact fun c hc => absurd hc List.not_mem_nil
  | cons d s ih =>
      rw [piecesBy] at h
      split at h
      · rcases List.mem_cons.mp h with rfl | h
        · exact fun c hc => absurd hc List.not_mem_nil
        · exact ih h
      · next hd =>
          cases hp : piecesBy p s with
          | nil => exact absurd hp (piecesBy_ne_nil p s)
          | cons first more =>
              rw [hp] at h ih
              intro c hc
              rcases List.mem_cons.mp h with rfl | h
              · -- the item in front of the first piece is none at which the text is cut
                rcases List.mem_cons.mp hc with rfl | hc
                · exact Bool.eq_false_iff.mpr hd
                · exact ih List.mem_cons_self c hc
              · exact ih (List.mem_cons_of_mem first h) c hc

theorem not_mem_of_mem_pieces {sep : Char} {s piece : List Char} (h : piece ∈ pieces sep s) :
    sep ∉ piece := by
  intro hmem
  have hsep := forall_not_of_mem_piecesBy h sep hmem
  exact absurd rfl (beq_eq_false_iff_ne.mp hsep)

theorem length_pieces (sep : Char) (s : List Char) : (pieces sep s).length = s.count sep + 1 := by
  unfold pieces
  induction s with
  | nil => rfl
  | cons c s ih =>
      rw [piecesBy, List.count_cons]
      split
      · rw [List.length_cons, ih]
      · -- the first piece grows, the number of pieces stays
        cases hp : piecesBy (· == sep) s with
        | nil => exact absurd hp (piecesBy_ne_nil _ s)
        | cons piece more =>
            rw [hp] at ih
            exact ih

theorem joined_cons_cons (sep piece next : List Char) (rest : List (List Char)) :
    joined sep (piece :: next :: rest) = piece ++ sep ++ joined sep (next :: rest) := rfl

theorem joined_modifyHead_cons {ps : List (List Char)} (h : ps ≠ []) (sep : List Char) (c : Char) :
    joined sep (ps.modifyHead (c :: ·)) = c :: joined sep ps := by
  obtain ⟨piece, more, rfl⟩ := List.exists_cons_of_ne_nil h
  cases more with
  | nil => rfl
  | cons next more => rfl

/-- Two lists of pieces are joined with one more separator between them. -/
theorem joined_append {sep : List Char} {front back : List (List Char)} (hfront : front ≠ [])
    (hback : back ≠ []) : joined sep (front ++ back) = joined sep front ++ sep ++ joined sep back := by
  induction front with
  | nil => exact absurd rfl hfront
  | cons piece front ih =>
      cases front with
      | nil =>
          obtain ⟨next, rest, rfl⟩ := List.exists_cons_of_ne_nil hback
          rfl
      | cons next front =>
          have hrest := ih (List.cons_ne_nil next front)
          rw [List.cons_append, List.cons_append, joined_cons_cons, joined_cons_cons,
            ← List.cons_append, hrest]
          simp only [List.append_assoc]

theorem mem_joined {sep : List Char} {ps : List (List Char)} {c : Char} (h : c ∈ joined sep ps) :
    c ∈ sep ∨ ∃ piece ∈ ps, c ∈ piece := by
  induction ps with
  | nil => exact absurd h List.not_mem_nil
  | cons piece ps ih =>
      cases ps with
      | nil => exact Or.inr ⟨piece, List.mem_cons_self, h⟩
      | cons next rest =>
          rw [joined_cons_cons, List.mem_append, List.mem_append] at h
          rcases h with (h | h) | h
          · exact Or.inr ⟨piece, List.mem_cons_self, h⟩
          · exact Or.inl h
          · rcases ih h with hsep | ⟨found, hfound, hc⟩
            · exact Or.inl hsep
            · exact Or.inr ⟨found, List.mem_cons_of_mem piece hfound, hc⟩

theorem mem_joined_of_mem {sep piece : List Char} {ps : List (List Char)} {c : Char}
    (hpiece : piece ∈ ps) (hc : c ∈ piece) : c ∈ joined sep ps := by
  induction ps with
  | nil => exact absurd hpiece List.not_mem_nil
  | cons first ps ih =>
      cases ps with
      | nil =>
          obtain rfl := List.mem_singleton.mp hpiece
          exact hc
      | cons next rest =>
          rw [joined_cons_cons]
          rcases List.mem_cons.mp hpiece with rfl | hrest
          · exact List.mem_append_left _ (List.mem_append_left sep hc)
          · exact List.mem_append_right _ (ih hrest)

theorem joined_eq_intercalate (sep : List Char) (ps : List (List Char)) :
    joined sep ps = sep.intercalate ps := by
  induction ps with
  | nil => rfl
  | cons piece ps ih =>
      cases ps with
      | nil => rw [joined, List.intercalate_singleton]
      | cons next rest => rw [joined_cons_cons, ih, List.intercalate_cons_cons]

/-- Cutting at the separator undoes joining with it. -/
theorem pieces_joined {sep : Char} {ps : List (List Char)} (hne : ps ≠ [])
    (h : ∀ piece ∈ ps, sep ∉ piece) : pieces sep (joined [sep] ps) = ps := by
  induction ps with
  | nil => exact absurd rfl hne
  | cons piece ps ih =>
      have hpiece := pieces_of_not_mem (h piece List.mem_cons_self)
      cases ps with
      | nil => exact hpiece
      | cons next rest =>
          have hrest := ih (List.cons_ne_nil _ _) fun q hq => h q (List.mem_cons_of_mem _ hq)
          rw [joined_cons_cons, List.append_assoc]
          show pieces sep (piece ++ sep :: joined [sep] (next :: rest)) = _
          rw [pieces_append_cons, hpiece, hrest]
          rfl

/-! ## Where pieces stand -/

/-- A text stands in another between two separators, or between one of them and an end, and holds
none itself. -/
def IsPieceOf (sep : Char) (s piece : List Char) : Prop :=
  sep ∉ piece ∧ ∃ before after, sep :: (s ++ [sep]) = before ++ sep :: (piece ++ sep :: after)

theorem pieces_enclosed (sep : Char) (s : List Char) :
    pieces sep (sep :: (s ++ [sep])) = [] :: (pieces sep s ++ [[]]) := by
  have hfront := pieces_append_cons sep [] (s ++ [sep])
  have hback := pieces_append_cons sep s []
  rw [List.nil_append] at hfront
  rw [hfront, hback]
  rfl

/-- The pieces of a text are what stands between its separators and ends. -/
theorem mem_pieces_iff {sep : Char} {s piece : List Char} :
    piece ∈ pieces sep s ↔ IsPieceOf sep s piece := by
  constructor
  · intro h
    obtain ⟨front, back, hsplit⟩ := List.append_of_mem h
    obtain ⟨next, rest, hrest⟩ := List.exists_cons_of_ne_nil (l := back ++ [[]]) (by simp)
    refine ⟨not_mem_of_mem_pieces h, joined [sep] ([] :: front), joined [sep] (next :: rest), ?_⟩
    have hpieces : [] :: (pieces sep s ++ [[]]) = ([] :: front) ++ piece :: next :: rest := by
      rw [hsplit, List.append_assoc, List.cons_append, hrest]
      rfl
    rw [← joined_pieces sep (sep :: (s ++ [sep])), pieces_enclosed, hpieces,
      joined_append (List.cons_ne_nil _ _) (List.cons_ne_nil _ _), joined_cons_cons]
    simp only [List.append_assoc, List.cons_append, List.nil_append]
  · rintro ⟨hpiece, before, after, hsplit⟩
    have hpieces := congrArg (pieces sep) hsplit
    rw [pieces_enclosed, pieces_append_cons, pieces_append_cons, pieces_of_not_mem hpiece]
      at hpieces
    -- the first piece and the last one are those of the separators that were put around the text
    have hbefore : pieces sep before ≠ [] := piecesBy_ne_nil _ before
    have hafter : pieces sep after ≠ [] := piecesBy_ne_nil _ after
    obtain ⟨first, front, hfront⟩ := List.exists_cons_of_ne_nil hbefore
    rw [hfront, ← List.dropLast_concat_getLast hafter, List.cons_append] at hpieces
    have hinner := (List.cons.inj hpieces).2
    rw [List.singleton_append, ← List.cons_append, ← List.append_assoc] at hinner
    obtain ⟨hsame, -⟩ := List.append_inj' hinner rfl
    rw [hsame]
    exact List.mem_append_right front List.mem_cons_self

/-! ## Words -/

/-- A word: one or more characters, none of them blank. -/
def IsWord (s : List Char) : Prop :=
  s ≠ [] ∧ ∀ c ∈ s, isBlank c = false

theorem isWord_iff (s : List Char) :
    IsWord s ↔ (!s.isEmpty && s.all fun c => !isBlank c) = true := by
  simp [IsWord]

instance (s : List Char) : Decidable (IsWord s) :=
  decidable_of_iff _ (isWord_iff s).symm

theorem words_append_cons {c : Char} (hc : isBlank c = true) (s t : List Char) :
    words (s ++ c :: t) = words s ++ words t := by
  unfold words
  rw [piecesBy_append_cons hc, List.filter_append]

theorem words_of_isWord {s : List Char} (h : IsWord s) : words s = [s] := by
  have hempty : s.isEmpty = false := List.isEmpty_eq_false_iff.mpr h.1
  simp [words, piecesBy_of_forall_not h.2, hempty]

/-! ## The first cut -/

theorem cutAt?_append {sep : Char} {key : List Char} (h : sep ∉ key) (value : List Char) :
    cutAt? sep (key ++ sep :: value) = some (key, value) := by
  induction key with
  | nil => simp [cutAt?]
  | cons c key ih =>
      have hc : (c == sep) = false :=
        beq_eq_false_iff_ne.mpr fun hcs => h (hcs ▸ List.mem_cons_self)
      have hkey := ih fun hmem => h (List.mem_cons_of_mem _ hmem)
      simp [cutAt?, hc, hkey]

theorem eq_append_of_cutAt? {sep : Char} {s key value : List Char}
    (h : cutAt? sep s = some (key, value)) : s = key ++ sep :: value := by
  induction s generalizing key with
  | nil => simp [cutAt?] at h
  | cons c s ih =>
      rw [cutAt?] at h
      split at h
      · next hc =>
          simp only [Option.some.injEq, Prod.mk.injEq] at h
          obtain ⟨rfl, rfl⟩ := h
          rw [beq_iff_eq] at hc
          rw [hc, List.nil_append]
      · cases hs : cutAt? sep s with
        | none => simp [hs] at h
        | some parts =>
            obtain ⟨before, after⟩ := parts
            simp only [hs, Option.map_some, Option.some.injEq, Prod.mk.injEq] at h
            obtain ⟨rfl, rfl⟩ := h
            rw [ih hs, List.cons_append]

theorem cutAt?_of_not_mem {sep : Char} {s : List Char} (h : sep ∉ s) : cutAt? sep s = none := by
  cases hcut : cutAt? sep s with
  | none => rfl
  | some parts =>
      rw [eq_append_of_cutAt? hcut] at h
      exact absurd (List.mem_append_right parts.1 List.mem_cons_self) h

/-! ## The first occurrence of a pattern -/

section

variable {α : Type} [BEq α] [LawfulBEq α] {pattern s before after : List α}

theorem eq_append_of_cutAround? (h : cutAround? pattern s = some (before, after)) :
    s = before ++ pattern ++ after := by
  induction s generalizing before with
  | nil =>
      rw [cutAround?] at h
      split at h
      · next hempty =>
          cases h
          simp [List.isEmpty_iff.mp hempty]
      · cases h
  | cons a rest ih =>
      rw [cutAround?] at h
      split at h
      · next hprefix =>
          cases h
          obtain ⟨after, hafter⟩ := List.isPrefixOf_iff_prefix.mp hprefix
          rw [← hafter]
          simp
      · obtain ⟨⟨first, after⟩, hrest, hcut⟩ := Option.map_eq_some_iff.mp h
        cases hcut
        rw [ih hrest]
        simp

theorem cutAround?_append_self (pattern after : List α) :
    cutAround? pattern (pattern ++ after) = some ([], after) := by
  cases hs : pattern ++ after with
  | nil =>
      obtain ⟨rfl, rfl⟩ := List.append_eq_nil_iff.mp hs
      rfl
  | cons a rest =>
      have hprefix : pattern.isPrefixOf (a :: rest) :=
        List.isPrefixOf_iff_prefix.mpr ⟨after, hs⟩
      rw [cutAround?, if_pos hprefix, ← hs, List.drop_left]

/-- What stands behind the first occurrence of a pattern has no part in where that is. -/
theorem cutAround?_append (h : cutAround? pattern s = some (before, after)) (other : List α) :
    cutAround? pattern (before ++ pattern ++ other) = some (before, other) := by
  have hs : s = before ++ pattern ++ after := eq_append_of_cutAround? h
  induction s generalizing before with
  | nil =>
      have hbefore : before = [] := by simp_all
      rw [hbefore, List.nil_append, cutAround?_append_self]
  | cons a rest ih =>
      rw [cutAround?] at h
      split at h
      · cases h
        rw [List.nil_append, cutAround?_append_self]
      · next hprefix =>
          obtain ⟨⟨first, after⟩, hrest, hcut⟩ := Option.map_eq_some_iff.mp h
          cases hcut
          have hfirst : ¬ pattern.isPrefixOf (a :: (first ++ pattern ++ other)) := by
            intro hother
            -- the items up to the occurrence decide, since there are enough of them
            have hlength : pattern.length ≤ (a :: first ++ pattern).length := by simp; omega
            have hshort : pattern <+: a :: first ++ pattern :=
              List.prefix_of_prefix_length_le (List.isPrefixOf_iff_prefix.mp hother)
                (List.prefix_append (a :: first ++ pattern) other) hlength
            rw [hs, List.isPrefixOf_iff_prefix] at hprefix
            exact hprefix (hshort.trans (List.prefix_append _ after))
          have hrest' := ih hrest (eq_append_of_cutAround? hrest)
          rw [List.cons_append, List.cons_append, cutAround?, if_neg hfirst, hrest']
          rfl

end

/-! ## Around an item -/

/-- What stands before an item of a list and what stands behind it. -/
theorem exists_append_of_getElem? {α : Type} {s : List α} {i : Nat} {a : α} (h : s[i]? = some a) :
    ∃ front back, s = front ++ a :: back ∧ front.length = i := by
  obtain ⟨hi, rfl⟩ := List.getElem?_eq_some_iff.mp h
  refine ⟨s.take i, s.drop (i + 1), ?_, List.length_take_of_le (Nat.le_of_lt hi)⟩
  rw [← List.drop_eq_getElem_cons hi, List.take_append_drop]

/-! ## Cuts at the same place -/

/-- Two cuts of one text at a separator are the same if as many separators stand before them. -/
theorem append_cons_inj_of_count {x : Char} {s t p u : List Char} (h : s ++ x :: t = p ++ x :: u)
    (hcount : s.count x = p.count x) : s = p := by
  -- a gap between the two cuts would begin with the separator, which is counted on one side only
  rcases List.append_eq_append_iff.mp h with ⟨gap, hp, ht⟩ | ⟨gap, hs, hu⟩
  · cases gap with
    | nil => rw [hp, List.append_nil]
    | cons y gap =>
        obtain ⟨rfl, -⟩ := List.cons.inj ht
        rw [hp, List.count_append, List.count_cons_self] at hcount
        omega
  · cases gap with
    | nil => rw [hs, List.append_nil]
    | cons y gap =>
        obtain ⟨rfl, -⟩ := List.cons.inj hu
        rw [hs, List.count_append, List.count_cons_self] at hcount
        omega

/-- Two cuts of one text are the same if each is at the first character of a class. -/
theorem append_cons_inj_of_forall_not {p : Char → Bool} {x y : Char} {s t u v : List Char}
    (hx : p x = true) (hy : p y = true) (hs : ∀ c ∈ s, p c = false) (hu : ∀ c ∈ u, p c = false)
    (h : s ++ x :: t = u ++ y :: v) : s = u ∧ x = y ∧ t = v := by
  -- a gap between the two cuts would begin with a character of the class
  rcases List.append_eq_append_iff.mp h with ⟨gap, hgap, hrest⟩ | ⟨gap, hgap, hrest⟩
  · cases gap with
    | nil =>
        obtain ⟨hxy, htv⟩ := List.cons.inj hrest
        exact ⟨by rw [hgap, List.append_nil], hxy, htv⟩
    | cons c gap =>
        obtain ⟨rfl, -⟩ := List.cons.inj hrest
        have hout := hu x (by rw [hgap]; exact List.mem_append_right s List.mem_cons_self)
        exact absurd hout (by rw [hx]; decide)
  · cases gap with
    | nil =>
        obtain ⟨hyx, hvt⟩ := List.cons.inj hrest
        exact ⟨by rw [hgap, List.append_nil], hyx.symm, hvt.symm⟩
    | cons c gap =>
        obtain ⟨rfl, -⟩ := List.cons.inj hrest
        have hout := hs y (by rw [hgap]; exact List.mem_append_right u List.mem_cons_self)
        exact absurd hout (by rw [hy]; decide)

theorem append_cons_inj_of_not_mem {x : Char} {s t u v : List Char} (hs : x ∉ s) (hu : x ∉ u)
    (h : s ++ x :: t = u ++ x :: v) : s = u ∧ t = v := by
  have hcut := cutAt?_append hs t
  rw [h, cutAt?_append hu v] at hcut
  obtain ⟨hus, hvt⟩ := Prod.mk.inj (Option.some.inj hcut)
  exact ⟨hus.symm, hvt.symm⟩

theorem joined_inj {sep : Char} {ps qs : List (List Char)} (hlength : ps.length = qs.length)
    (hps : ∀ piece ∈ ps, sep ∉ piece) (hqs : ∀ piece ∈ qs, sep ∉ piece)
    (h : joined [sep] ps = joined [sep] qs) : ps = qs := by
  by_cases hne : ps = []
  · subst hne
    exact (List.length_eq_zero_iff.mp hlength.symm).symm
  · have hne' : qs ≠ [] := by
      rintro rfl
      exact hne (List.length_eq_zero_iff.mp hlength)
    rw [← pieces_joined hne hps, ← pieces_joined hne' hqs, h]

/-- As many last pieces without the separator are the same in one text, whatever stands before
them. -/
theorem append_joined_inj {sep : Char} {s u : List Char} {ps qs : List (List Char)}
    (hne : ps ≠ []) (hlength : ps.length = qs.length) (hps : ∀ piece ∈ ps, sep ∉ piece)
    (hqs : ∀ piece ∈ qs, sep ∉ piece)
    (h : s ++ sep :: joined [sep] ps = u ++ sep :: joined [sep] qs) : s = u ∧ ps = qs := by
  have hne' : qs ≠ [] := by
    rintro rfl
    exact hne (List.length_eq_zero_iff.mp hlength)
  have hpieces := congrArg (pieces sep) h
  rw [pieces_append_cons, pieces_append_cons, pieces_joined hne hps, pieces_joined hne' hqs]
    at hpieces
  obtain ⟨hfront, hlast⟩ := List.append_inj' hpieces hlength
  refine ⟨?_, hlast⟩
  rw [← joined_pieces sep s, hfront, joined_pieces]

/-- As many first pieces without the separator are the same in one text, whatever follows them. -/
theorem joined_append_inj {sep : Char} {ps qs : List (List Char)} {t v : List Char}
    (hlength : ps.length = qs.length) (hps : ∀ piece ∈ ps, sep ∉ piece)
    (hqs : ∀ piece ∈ qs, sep ∉ piece)
    (h : joined [sep] ps ++ sep :: t = joined [sep] qs ++ sep :: v) : ps = qs ∧ t = v := by
  induction ps generalizing qs with
  | nil =>
      obtain rfl := List.length_eq_zero_iff.mp hlength.symm
      exact ⟨rfl, (List.cons.inj h).2⟩
  | cons p ps ih =>
      cases qs with
      | nil => exact absurd hlength (by simp)
      | cons q qs =>
          rw [List.forall_mem_cons] at hps hqs
          obtain ⟨hp, hps⟩ := hps
          obtain ⟨hq, hqs⟩ := hqs
          rw [List.length_cons, List.length_cons, Nat.add_right_cancel_iff] at hlength
          cases ps with
          | nil =>
              obtain rfl := List.length_eq_zero_iff.mp hlength.symm
              obtain ⟨rfl, htv⟩ := append_cons_inj_of_not_mem hp hq h
              exact ⟨rfl, htv⟩
          | cons p' ps =>
              obtain ⟨q', qs, rfl⟩ := List.exists_cons_of_length_eq_add_one hlength.symm
              rw [joined_cons_cons, joined_cons_cons, List.append_assoc, List.append_assoc,
                List.append_assoc, List.append_assoc] at h
              obtain ⟨rfl, hrest⟩ := append_cons_inj_of_not_mem hp hq h
              obtain ⟨hrest, htv⟩ := ih hlength hps hqs hrest
              exact ⟨congrArg (p :: ·) hrest, htv⟩

end RuleDesk.Text
