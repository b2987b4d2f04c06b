import Mathlib.Data.Nat.Count
import Mathlib.Algebra.Ring.Parity
import RuleDesk.Proofs.Rule.OptionCuts
import RuleDesk.Rule.OptionScan

/-!
# Where an option list is cut

The options of a body can be told by places alone. A place is that of a quote that toggles if a
double quote stands there and no backslash right before it, and the body is cut at the semicolons
that stand behind an even number of such places. The options are what the cuts leave between them,
and what stands behind the last cut unless it is empty (`OptionList.split_at_cutPlaces`).

A pass over the body looks for backslashes in the text gathered since the last cut. It finds the
same options, since at every step those it has, the gathered text and the rest of the body still
make up the same pieces (`OptionScan.pending_step`).
-/

set_option autoImplicit false

namespace RuleDesk

/-! ## One pass -/

namespace OptionScan

open OptionList

/-- The pieces that a pass leads to when `rest` is still to be read: those it has, and the pieces of
the rest with the gathered text before the first. -/
def pending (s : OptionScan) (rest : List Char) : List (List Char) :=
  s.options ++ (cut s.inside s.current.getLast? rest).modifyHead (s.current ++ ·)

/-- A semicolon is no quote, so it does not matter which of the two is looked for first. -/
theorem step_eq (s : OptionScan) (c : Char) :
    s.step c =
      if c == ';' && !s.inside then { s with options := s.options ++ [s.current], current := [] }
      else
        { s with
          current := s.current ++ [c]
          inside := s.inside ^^ togglesQuote s.current.getLast? c } := by
  rw [step]
  cases htoggle : togglesQuote s.current.getLast? c with
  | true =>
      have hc : (c == ';') = false := by
        simp only [togglesQuote, Bool.and_eq_true, beq_iff_eq] at htoggle
        rw [htoggle.1]
        rfl
      simp [hc]
  | false => simp

/-- Reading a character does not change the pieces that a pass leads to. -/
theorem pending_step (s : OptionScan) (c : Char) (rest : List Char) :
    (s.step c).pending rest = s.pending (c :: rest) := by
  rw [pending, pending, cut_cons, step_eq]
  split
  · next hcut =>
      simp only [Bool.and_eq_true, beq_iff_eq, Bool.not_eq_true'] at hcut
      obtain ⟨rfl, hinside⟩ := hcut
      -- nothing is gathered behind a cut, and in the body a semicolon stands there, no backslash
      have hrest : cut false (some ';') rest = cut false none rest :=
        cut_of_ne (by decide) false rest
      obtain ⟨piece, more, hp⟩ := exists_cut_eq_cons false none rest
      simp [hinside, hrest, hp]
  · obtain ⟨piece, more, hp⟩ :=
      exists_cut_eq_cons (s.inside ^^ togglesQuote s.current.getLast? c) (some c) rest
    simp [hp]

/-- Nor does reading a text. -/
theorem pending_foldl (s : OptionScan) (front rest : List Char) :
    (front.foldl step s).pending rest = s.pending (front ++ rest) := by
  induction front generalizing s with
  | nil => rfl
  | cons c front ih => rw [List.foldl_cons, ih, pending_step, List.cons_append]

theorem finish_eq (s : OptionScan) : s.finish = dropEmptyLast (s.pending []) := by
  have hpending : s.pending [] = s.options ++ [s.current] := by simp [pending, cut]
  rw [hpending, dropEmptyLast_concat, finish]
  simp only [List.isEmpty_iff]

end OptionScan

namespace OptionList

open RuleDesk.Text

/-- A pass finds the options of a body. -/
theorem scanned_eq_split (body : List Char) : scanned body = split body := by
  have hpending := OptionScan.pending_foldl {} body []
  rw [List.append_nil] at hpending
  obtain ⟨piece, more, hp⟩ := exists_cut_eq_cons false none body
  have hstart : ({} : OptionScan).pending body = cut false none body := by
    show [] ++ (cut false none body).modifyHead ([] ++ ·) = _
    rw [hp]
    rfl
  rw [scanned, OptionScan.finish_eq, hpending, hstart, split]

/-! ## Places -/

/-- A double quote stands at a place of a body, with no backslash right before it. -/
def IsToggleAt (body : List Char) (i : Nat) : Prop :=
  body[i]? = some '"' ∧ (i = 0 ∨ body[i - 1]? ≠ some '\\')

instance (body : List Char) : DecidablePred (IsToggleAt body) := fun _ => instDecidableAnd

/-- A semicolon stands at a place of a body, behind an even number of quotes that toggle. -/
def IsCutAt (body : List Char) (i : Nat) : Prop :=
  body[i]? = some ';' ∧ Even (Nat.count (IsToggleAt body) i)

instance (body : List Char) : DecidablePred (IsCutAt body) := fun _ => instDecidableAnd

/-- The places at which a body is cut, in order. -/
def cutPlaces (body : List Char) : List Nat :=
  (List.range body.length).filter (IsCutAt body)

/-- A body is cut at its last character. -/
def EndsAtCut (body : List Char) : Prop :=
  IsCutAt body (body.length - 1)

instance (body : List Char) : Decidable (EndsAtCut body) := instDecidableAnd

/-- What the places of a list leave between them in a body from the place `start` on: the text
before the first of them, the texts between each and the next, and the text behind the last. -/
def stretches (body : List Char) (start : Nat) : List Nat → List (List Char)
  | [] => [body.drop start]
  | place :: places => body.extract start place :: stretches body (place + 1) places

/-- A quote that toggles at a place of a body opens quoted text that is never closed. -/
structure IsUnclosedAt (body : List Char) (i : Nat) : Prop where
  toggles : IsToggleAt body i
  opens : Even (Nat.count (IsToggleAt body) i)
  never_closed : ∀ j, i < j → ¬ IsToggleAt body j

theorem IsToggleAt.lt_length {body : List Char} {i : Nat} (h : IsToggleAt body i) :
    i < body.length :=
  (List.getElem?_eq_some_iff.mp h.1).1

theorem IsCutAt.lt_length {body : List Char} {i : Nat} (h : IsCutAt body i) : i < body.length :=
  (List.getElem?_eq_some_iff.mp h.1).1

theorem mem_cutPlaces {body : List Char} {i : Nat} : i ∈ cutPlaces body ↔ IsCutAt body i := by
  simp only [cutPlaces, List.mem_filter, List.mem_range, decide_eq_true_eq]
  exact ⟨fun h => h.2, fun h => ⟨h.lt_length, h⟩⟩

theorem pairwise_cutPlaces (body : List Char) : (cutPlaces body).Pairwise (· < ·) :=
  List.pairwise_lt_range.filter _

/-! ## Cuts by places -/

/-- Whether a place of a body stands behind an odd number of quotes that toggle. -/
def insideAt (body : List Char) (i : Nat) : Bool :=
  decide (Odd (Nat.count (IsToggleAt body) i))

theorem insideAt_succ (body : List Char) (i : Nat) :
    insideAt body (i + 1) = (insideAt body i ^^ decide (IsToggleAt body i)) := by
  rw [insideAt, insideAt, Nat.count_succ]
  by_cases h : IsToggleAt body i
  · simp only [h, if_true, Nat.odd_add_one, decide_not, decide_true, Bool.xor_true]
  · simp [h]

section

variable (front : List Char) (c : Char) (rest : List Char)

/-- The last character of what stands before a place is the one right before it. -/
theorem togglesQuote_getLast? :
    togglesQuote front.getLast? c = decide (IsToggleAt (front ++ c :: rest) front.length) := by
  rw [Bool.eq_iff_iff, decide_eq_true_eq, IsToggleAt, List.getElem?_append_right (Nat.le_refl _),
    togglesQuote, Bool.and_eq_true, beq_iff_eq, bne_iff_ne]
  simp only [Nat.sub_self, List.getElem?_cons_zero, Option.some.injEq]
  refine and_congr_right fun _ => ?_
  cases front with
  | nil => simp
  | cons d front =>
      -- the place before is within the front, so what follows the front has no part in it
      have hlast : (d :: front).length - 1 < (d :: front).length := by simp
      rw [List.getElem?_append_left hlast, List.getLast?_eq_getElem?]
      simp

theorem isCutAt_length_iff :
    IsCutAt (front ++ c :: rest) front.length ↔
      (c == ';' && !insideAt (front ++ c :: rest) front.length) = true := by
  simp [IsCutAt, insideAt]

/-- A character before the places of a list goes to the front of the first stretch. -/
theorem stretches_cons {places : List Nat} (h : ∀ place ∈ places, front.length < place) :
    stretches (front ++ c :: rest) front.length places =
      (stretches (front ++ c :: rest) (front.length + 1) places).modifyHead (c :: ·) := by
  have hdrop : (front ++ c :: rest).drop front.length =
      c :: (front ++ c :: rest).drop (front.length + 1) := by
    rw [List.drop_left, ← List.drop_drop, List.drop_left]
    rfl
  cases places with
  | nil => simp only [stretches, hdrop, List.modifyHead_cons]
  | cons place places =>
      have hplace : place - front.length = place - (front.length + 1) + 1 := by
        have := h place List.mem_cons_self
        omega
      simp only [stretches, List.extract_eq_take_drop, hdrop, hplace, List.take_succ_cons,
        List.modifyHead_cons]

end

/-- Behind any front of a body, the pieces of the rest are what the cuts there leave between
them. -/
theorem cut_eq_stretches (front rest : List Char) :
    cut (insideAt (front ++ rest) front.length) front.getLast? rest =
      stretches (front ++ rest) front.length
        ((List.range' front.length rest.length).filter (IsCutAt (front ++ rest))) := by
  -- the front takes over the characters one by one, and so keeps account of the side of the quotes
  induction rest generalizing front with
  | nil => simp [cut, stretches]
  | cons c rest ih =>
      have hnext := ih (front ++ [c])
      rw [List.append_assoc, List.length_append, List.length_singleton, List.singleton_append,
        insideAt_succ, ← togglesQuote_getLast?, List.getLast?_concat] at hnext
      rw [cut_cons, List.length_cons, List.range'_succ]
      by_cases hcut : IsCutAt (front ++ c :: rest) front.length
      · have hc := (isCutAt_length_iff front c rest).mp hcut
        rw [if_pos hc, List.filter_cons, if_pos (decide_eq_true hcut), stretches, ← hnext]
        simp only [Bool.and_eq_true, beq_iff_eq, Bool.not_eq_true'] at hc
        obtain ⟨rfl, hinside⟩ := hc
        have hquote : togglesQuote front.getLast? ';' = false := rfl
        rw [hinside, hquote, List.extract_eq_take_drop, Nat.sub_self, List.take_zero]
        rfl
      · have hc := mt (isCutAt_length_iff front c rest).mpr hcut
        rw [if_neg hc, List.filter_cons, if_neg (by simpa using hcut), stretches_cons, hnext]
        intro place hplace
        have hrange := (List.mem_filter.mp hplace).1
        exact (List.mem_range'_1.mp hrange).1

theorem cut_eq_stretches_cutPlaces (body : List Char) :
    cut false none body = stretches body 0 (cutPlaces body) := by
  have hcut := cut_eq_stretches [] body
  have hstart : insideAt body 0 = false := by simp [insideAt]
  rw [List.nil_append, List.length_nil, hstart, ← List.range_eq_range'] at hcut
  exact hcut

/-! ## The text behind the last cut -/

/-- Where the text behind the last place of a list begins. -/
def behindLast (start : Nat) (places : List Nat) : Nat :=
  (places.getLast?.map (· + 1)).getD start

theorem stretches_eq_concat (body : List Char) (start : Nat) (places : List Nat) :
    ∃ front, stretches body start places = front ++ [body.drop (behindLast start places)] := by
  induction places generalizing start with
  | nil => exact ⟨[], rfl⟩
  | cons place places ih =>
      obtain ⟨front, hfront⟩ := ih (place + 1)
      have hbehind : behindLast start (place :: places) = behindLast (place + 1) places := by
        cases places with
        | nil => rfl
        | cons next places => simp [behindLast, List.getLast?_cons]
      exact ⟨body.extract start place :: front, by rw [stretches, hfront, hbehind]; rfl⟩

theorem behindLast_cases (start : Nat) (places : List Nat) :
    (places = [] ∧ behindLast start places = start) ∨
      ∃ place ∈ places, behindLast start places = place + 1 := by
  cases hlast : places.getLast? with
  | none => exact Or.inl ⟨List.getLast?_eq_none_iff.mp hlast, by rw [behindLast, hlast]; rfl⟩
  | some place =>
      exact Or.inr ⟨place, List.mem_of_getLast? hlast, by rw [behindLast, hlast]; rfl⟩

theorem lt_behindLast {places : List Nat} (hsorted : places.Pairwise (· < ·)) {place : Nat}
    (h : place ∈ places) (start : Nat) : place < behindLast start places := by
  have hne : places ≠ [] := List.ne_nil_of_mem h
  rw [behindLast, List.getLast?_eq_some_getLast hne, Option.map_some, Option.getD_some,
    Nat.lt_succ_iff]
  rw [← List.dropLast_concat_getLast hne] at h hsorted
  rcases List.mem_append.mp h with hfront | hlast
  · exact Nat.le_of_lt ((List.pairwise_append.mp hsorted).2.2 place hfront _ (by simp))
  · exact Nat.le_of_eq (List.mem_singleton.mp hlast)

theorem drop_behindLast_eq_nil_iff (body : List Char) :
    body.drop (behindLast 0 (cutPlaces body)) = [] ↔ body = [] ∨ EndsAtCut body := by
  rw [List.drop_eq_nil_iff]
  constructor
  · intro hle
    rcases behindLast_cases 0 (cutPlaces body) with ⟨-, hbehind⟩ | ⟨place, hplace, hbehind⟩
    · rw [hbehind] at hle
      exact Or.inl (List.length_eq_zero_iff.mp (Nat.le_zero.mp hle))
    · have hcut := mem_cutPlaces.mp hplace
      have hlength := hcut.lt_length
      have hlast : place = body.length - 1 := by omega
      rw [hlast] at hcut
      exact Or.inr hcut
  · rintro (rfl | hcut)
    · exact Nat.zero_le _
    · have hlength := lt_behindLast (pairwise_cutPlaces body) (mem_cutPlaces.mpr hcut) 0
      omega

/-- The options of a body are the texts between its cuts and, unless it is empty, the text behind
the last of them. -/
theorem split_eq_stretches (body : List Char) :
    let last := body.drop (behindLast 0 (cutPlaces body))
    ∃ front, stretches body 0 (cutPlaces body) = front ++ [last] ∧
      split body = if last = [] then front else front ++ [last] := by
  intro last
  obtain ⟨front, hfront⟩ := stretches_eq_concat body 0 (cutPlaces body)
  refine ⟨front, hfront, ?_⟩
  rw [split, cut_eq_stretches_cutPlaces, hfront, dropEmptyLast_concat]

/-- Joining the options gives the body back, up to a semicolon that it ends with. -/
theorem joined_split (body : List Char) :
    joined [';'] (split body) ++ (if EndsAtCut body then [';'] else []) = body := by
  obtain ⟨front, hfront, hsplit⟩ := split_eq_stretches body
  have hbody := joined_cut false none body
  rw [cut_eq_stretches_cutPlaces, hfront] at hbody
  by_cases hlast : body.drop (behindLast 0 (cutPlaces body)) = []
  · rw [hsplit, if_pos hlast]
    rw [hlast] at hbody
    cases front with
    | nil =>
        obtain rfl : [] = body := hbody
        rfl
    | cons first front =>
        -- the empty text is dropped, and the semicolon before it is the last of the body
        rw [joined_append (List.cons_ne_nil _ _) (List.cons_ne_nil _ _)] at hbody
        have hne : body ≠ [] := by
          rw [← hbody]
          simp
        have hends := ((drop_behindLast_eq_nil_iff body).mp hlast).resolve_left hne
        rw [if_pos hends]
        simpa [joined] using hbody
  · have hends : ¬ EndsAtCut body := by
      intro h
      exact hlast ((drop_behindLast_eq_nil_iff body).mpr (Or.inr h))
    rw [hsplit, if_neg hlast, if_neg hends, List.append_nil, hbody]

/-! ## Quotes that are not closed -/

namespace IsUnclosedAt

variable {body : List Char} {i j : Nat}

theorem insideAt_of_lt (h : IsUnclosedAt body i) (hij : i < j) : insideAt body j = true := by
  induction j, hij using Nat.le_induction with
  | base =>
      have hstart : insideAt body i = false :=
        decide_eq_false (Nat.not_odd_iff_even.mpr h.opens)
      rw [insideAt_succ, hstart, decide_eq_true h.toggles]
      rfl
  | succ j hij ih =>
      rw [insideAt_succ, ih, decide_eq_false (h.never_closed j hij)]
      rfl

/-- There is no cut behind a quote that is never closed. -/
theorem lt_of_isCutAt (h : IsUnclosedAt body i) (hcut : IsCutAt body j) : j < i := by
  rcases Nat.lt_trichotomy j i with hlt | rfl | hgt
  · exact hlt
  · have hquote : some ';' = some '"' := hcut.1.symm.trans h.toggles.1
    exact absurd hquote (by decide)
  · exact absurd hcut.2 (Nat.not_even_iff_odd.mpr (of_decide_eq_true (h.insideAt_of_lt hgt)))

/-- A quote that is never closed is in the last option, and so is all that follows it. -/
theorem exists_split_eq (h : IsUnclosedAt body i) :
    ∃ front start, start ≤ i ∧ split body = front ++ [body.drop start] := by
  obtain ⟨front, -, hsplit⟩ := split_eq_stretches body
  have hstart : behindLast 0 (cutPlaces body) ≤ i := by
    rcases behindLast_cases 0 (cutPlaces body) with ⟨-, hbehind⟩ | ⟨place, hplace, hbehind⟩
    · rw [hbehind]
      exact Nat.zero_le i
    · rw [hbehind]
      exact h.lt_of_isCutAt (mem_cutPlaces.mp hplace)
  have hlast : body.drop (behindLast 0 (cutPlaces body)) ≠ [] := by
    rw [ne_eq, List.drop_eq_nil_iff, Nat.not_le]
    exact Nat.lt_of_le_of_lt hstart h.toggles.lt_length
  rw [if_neg hlast] at hsplit
  exact ⟨front, behindLast 0 (cutPlaces body), hstart, hsplit⟩

end IsUnclosedAt

/-! ## Exact cuts -/

/-- The options of a body are cut out of it at the semicolons that stand behind an even number of
quotes that toggle, and nowhere else: they are the texts between these cuts in order, and the text
behind the last cut unless it is empty. So they are the body again when they are joined with
semicolons, up to one semicolon that it may end with. A quote that is never closed is in the last
option with all that follows it.

A pass that looks for backslashes in what it has gathered since the last cut finds these options. -/
theorem split_at_cutPlaces (body : List Char) :
    (∃ front last, stretches body 0 (cutPlaces body) = front ++ [last] ∧
      split body = if last = [] then front else front ++ [last]) ∧
    joined [';'] (split body) ++ (if EndsAtCut body then [';'] else []) = body ∧
    (∀ i, IsUnclosedAt body i →
      ∃ front start, start ≤ i ∧ split body = front ++ [body.drop start]) ∧
    scanned body = split body := by
  obtain ⟨front, hfront, hsplit⟩ := split_eq_stretches body
  exact ⟨⟨front, _, hfront, hsplit⟩, joined_split body, fun i h => h.exists_split_eq,
    scanned_eq_split body⟩

/-- An escaped quote, an option without characters and a quote that is never closed. -/
theorem split_at_cutPlaces_unclosed :
    let body := "msg:\"a\\\";b\";;content:\"x;y;".toList
    IsUnclosedAt body 21 ∧ cutPlaces body = [11, 12] ∧
      split body = ["msg:\"a\\\";b\"".toList, [], "content:\"x;y;".toList] ∧
      scanned body = split body ∧
      ∃ front start, start ≤ 21 ∧ split body = front ++ [body.drop start] := by
  intro body
  have hbehind : ∀ j < body.length, 21 < j → ¬ IsToggleAt body j := by decide
  have hunclosed : IsUnclosedAt body 21 :=
    { toggles := by decide
      opens := by decide
      never_closed := fun j hj htoggle => hbehind j htoggle.lt_length hj htoggle }
  obtain ⟨-, -, hlast, hscanned⟩ := split_at_cutPlaces body
  exact ⟨hunclosed, by decide, by decide, hscanned, hlast 21 hunclosed⟩

end OptionList

end RuleDesk
