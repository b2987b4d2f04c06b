import Mathlib.Data.List.Induction
import RuleDesk.Proofs.Rule.KeyOccurrences
import RuleDesk.Proofs.Rule.RoundTrip

/-!
# Exactly the rules that come back

A rule comes back from its text, up to what the text leaves out, only if its header words are words
and each of its clauses survives. The first clause that does not survive would have to be made up
for: either its first piece is read as another text, and then the keys in the option list are too
few for all texts to be read elsewhere; or it is read as the right text, and then the semicolons of
the text show that the piece is the clause itself.
-/

set_option autoImplicit false

namespace RuleDesk

open RuleDesk.Text

/-! ## The first piece -/

/-- Inert text in front stays in front of the first piece. -/
theorem OptionList.exists_append_of_cut {front s piece : List Char} {more : List (List Char)}
    {before : Option Char} (hfront : ∀ c ∈ front, isInert c = true)
    (h : cut false before (front ++ s) = piece :: more) : ∃ rest, piece = front ++ rest := by
  induction front generalizing before piece more with
  | nil => exact ⟨piece, rfl⟩
  | cons c front ih =>
      have hc := hfront c List.mem_cons_self
      simp only [isInert, Bool.and_eq_true, Bool.not_eq_true'] at hc
      have htoggle : togglesQuote before c = false := by
        rw [togglesQuote, hc.2, Bool.false_and]
      rw [List.cons_append, cut, hc.1, htoggle] at h
      simp only [Bool.false_and, Bool.false_eq_true, if_false, Bool.bne_false] at h
      obtain ⟨first, others, hp⟩ := exists_cut_eq_cons false (some c) (front ++ s)
      simp only [hp, List.cons.injEq] at h
      obtain ⟨rfl, -⟩ := h
      obtain ⟨rest, rfl⟩ := ih (fun d hd => hfront d (List.mem_cons_of_mem c hd)) hp
      exact ⟨rest, rfl⟩

/-- A first piece with as many semicolons as a text before a semicolon is that text. -/
theorem OptionList.eq_of_cut_of_count {s rest piece : List Char} {more : List (List Char)}
    (h : cut false none (s ++ ';' :: rest) = piece :: more)
    (hcount : s.count ';' = piece.count ';') : s = piece := by
  rcases eq_append_of_cut h with ⟨hall, -⟩ | ⟨tail, htail, -⟩
  · -- the whole body has one semicolon more than the text
    have hlonger := congrArg (List.count ';') hall
    rw [List.count_append, List.count_cons_self] at hlonger
    omega
  · exact append_cons_inj_of_count htail hcount

/-- A clause with a free text is its key and a value that has the semicolons of the text. -/
theorem Clause.chars_of_freeText? {c : Clause} {f : FreeText} {v : String}
    (h : c.freeText? = some (f, v)) :
    ∃ value, c.chars = f.key ++ ':' :: value ∧ value.count ';' = v.toList.count ';' := by
  cases c with
  | text o w =>
      cases hg : FreeText.ofOption? o with
      | none => exact absurd h (by simp [freeText?, hg])
      | some g =>
          simp only [freeText?, hg, Option.map_some, Option.some.injEq, Prod.mk.injEq] at h
          obtain ⟨rfl, rfl⟩ := h
          rw [FreeText.key_of_ofOption? hg]
          cases ho : o.isQuoted with
          | true => exact ⟨_, chars_quoted ho w, by simp⟩
          | false => exact ⟨_, chars_bare ho w, rfl⟩
  | content negated w =>
      simp only [freeText?, Option.some.injEq, Prod.mk.injEq] at h
      obtain ⟨rfl, rfl⟩ := h
      refine ⟨_, chars_content negated w, ?_⟩
      cases negated <;> simp [negationMark]
  | number o n => exact absurd h (by simp [freeText?])
  | nocase => exact absurd h (by simp [freeText?])
  | threshold parts => exact absurd h (by simp [freeText?])

/-- Behind the key of a field, a value is read as a text of that field. -/
theorem FreeText.exists_ofKey?_key (f : FreeText) (value : List Char) :
    ∃ d w, Clause.ofKey? f.key value = some d ∧ d.freeText? = some (f, w) := by
  cases f with
  | content =>
      refine ⟨Clause.ofContent value, ?_⟩
      unfold Clause.ofContent
      split
      · exact ⟨_, Clause.ofKey?_content _, rfl⟩
      · next hmark =>
          have hhead : value.head? ≠ some '!' := by
            intro hhead
            cases value with
            | nil => exact absurd hhead (by simp)
            | cons c rest =>
                rw [List.head?_cons, Option.some.injEq] at hhead
                exact hmark rest (by rw [hhead])
          refine ⟨_, ?_, rfl⟩
          rw [← Clause.ofContent_of_head hhead]
          exact Clause.ofKey?_content value
  | _ => exact ⟨_, _, Clause.ofKey?_text _ value, rfl⟩

/-- A piece that begins with the key of a field is read as a text of that field, which keeps its
semicolons. -/
theorem FreeText.exists_readFreeText? (f : FreeText) (value : List Char) :
    ∃ w, readFreeText? (' ' :: f.key ++ ':' :: value) = some (f, w) ∧
      w.toList.count ';' = value.count ';' := by
  obtain ⟨d, w, hd, hset⟩ := f.exists_ofKey?_key (unquote (trim value))
  have hread : Clause.read? (' ' :: f.key ++ ':' :: value) = some d := by
    rw [List.cons_append, Clause.read?_cons_of_isBlank (by decide),
      Clause.read?_keyed f.key_ne_nil f.isPlain_key]
    exact hd
  refine ⟨w, ?_, ?_⟩
  · rw [readFreeText?, hread]
    exact hset
  · rw [(Clause.freeText?_of_ofKey? hd hset).2.2, unquote, count_strip (by decide),
      count_strip (by decide), trim, count_strip (by decide)]

/-! ## All texts are read -/

/-- The free texts of a rule that comes back are read from the pieces of its option list. -/
theorem Rule.mem_read_of_mem_freeTexts {r : Rule}
    (hsame : (r.headerOnly.applyAll (OptionList.clauses (OptionList.chars r.clauses))).canonical =
      r.canonical) {t : FreeText × String} (ht : t ∈ r.freeTexts) :
    t ∈ (OptionList.cut false none (OptionList.spaced r.clauses)).filterMap readFreeText? := by
  obtain ⟨f, v⟩ := t
  obtain ⟨rfl, hne⟩ := eq_get_of_mem_freeTexts ht
  have hpieces : (OptionList.clauses (OptionList.chars r.clauses)).filterMap Clause.freeText? =
      (OptionList.cut false none (OptionList.spaced r.clauses)).filterMap readFreeText? := by
    rw [← OptionList.filterMap_cut_space, OptionList.cons_chars r.clauses_ne_nil,
      List.filterMap_filterMap]
    rfl
  have hget := congrArg (fun s : Rule => f.get s) hsame
  simp only [FreeText.get_canonical] at hget
  rcases f.get_applyAll r.headerOnly (OptionList.clauses (OptionList.chars r.clauses)) with h | h
  · rw [hget, FreeText.get_headerOnly] at h
    exact absurd h hne
  · rw [hget, hpieces] at h
    exact h

/-! ## The first clause that could be lost -/

section Split

variable {r : Rule} {pre post : List Clause} {c : Clause} {f : FreeText} {v : String}

/-- Behind clauses that survive, the piece that begins with the key of a clause is read as that
clause's text: otherwise all texts would be read from the other pieces, which hold the key once
less than the texts need. -/
theorem Rule.readFreeText?_first {value : List Char} {more : List (List Char)}
    (hsame : (r.headerOnly.applyAll (OptionList.clauses (OptionList.chars r.clauses))).canonical =
      r.canonical)
    (hmem : (f, v) ∈ r.freeTexts)
    (hcut : OptionList.cut false none (OptionList.spaced r.clauses) =
      pre.map (fun d => ' ' :: d.chars) ++ (' ' :: f.key ++ ':' :: value) :: more) :
    readFreeText? (' ' :: f.key ++ ':' :: value) = some (f, v) := by
  obtain ⟨w, hread, -⟩ := f.exists_readFreeText? value
  by_cases hw : w = v
  · rw [hread, hw]
  · -- the piece is read as another text, which no field of the rule has
    exfalso
    have hothers : ∀ t ∈ r.freeTexts,
        t ∈ (pre.map (fun d => ' ' :: d.chars) ++ more).filterMap readFreeText? := by
      intro t ht
      have hall := mem_read_of_mem_freeTexts hsame ht
      rw [hcut, List.filterMap_append, List.filterMap_cons_some hread, List.mem_append,
        List.mem_cons] at hall
      rw [List.filterMap_append, List.mem_append]
      rcases hall with hall | rfl | hall
      · exact Or.inl hall
      · have hfirst := (eq_get_of_mem_freeTexts ht).1
        have hsecond := (eq_get_of_mem_freeTexts hmem).1
        exact absurd (hfirst.trans hsecond.symm) hw
      · exact Or.inr hall
    have hle := f.sum_load_le r.nodup_freeTexts hothers
    have htotal := f.occurrences_spaced r
    rw [← OptionList.joined_cut false none (OptionList.spaced r.clauses), hcut,
      occurrences_joined f.key_ne_nil
        (not_mem_of_isPlain f.isPlain_key (show isPlain ';' = false by decide))] at htotal
    -- the key of the piece itself is then one occurrence too many
    have hself := one_le_occurrences_self f.key_ne_nil
    have hpiece : occurrences f.key (' ' :: f.key ++ ':' :: value) =
        occurrences f.key f.key + occurrences f.key value := by
      rw [List.cons_append, f.occurrences_cons (by decide), f.occurrences_append (by decide)]
    simp only [List.map_append, List.map_cons, List.sum_append, List.sum_cons] at htotal hle
    omega

/-- The first clause that could be lost is not, if the rule comes back: the piece that begins with
its key is read as its text and has as many semicolons, so it is the clause itself. -/
theorem Rule.survives_of_split
    (hsame : (r.headerOnly.applyAll (OptionList.clauses (OptionList.chars r.clauses))).canonical =
      r.canonical)
    (hsplit : r.clauses = pre ++ c :: post) (hpre : ∀ d ∈ pre, d.survives = true)
    (hset : c.freeText? = some (f, v)) : c.survives = true := by
  have hmem : (f, v) ∈ r.freeTexts := by
    refine List.mem_filterMap.mpr ⟨c, ?_, hset⟩
    rw [hsplit]
    exact List.mem_append_right pre List.mem_cons_self
  obtain ⟨value, hchars, hcount⟩ := Clause.chars_of_freeText? hset
  have hbody : OptionList.spaced r.clauses =
      OptionList.spaced pre ++ ((' ' :: c.chars) ++ ';' :: OptionList.spaced post) := by
    rw [hsplit, OptionList.spaced_append, OptionList.spaced_cons]
  have hcut := OptionList.cut_spaced (fun d hd => Clause.isClosed_of_survives (hpre d hd))
    ((' ' :: c.chars) ++ ';' :: OptionList.spaced post)
  rw [← hbody] at hcut
  cases hfirst : OptionList.cut false none ((' ' :: c.chars) ++ ';' :: OptionList.spaced post) with
  | nil => exact absurd hfirst (OptionList.cut_ne_nil _ _ _)
  | cons piece more =>
      have hinert : ∀ d ∈ ' ' :: f.key ++ [':'], OptionList.isInert d = true := by
        apply List.all_eq_true.mp
        cases f <;> decide
      have hfront : (' ' :: c.chars) ++ ';' :: OptionList.spaced post =
          (' ' :: f.key ++ [':']) ++ (value ++ ';' :: OptionList.spaced post) := by
        rw [hchars]
        simp
      obtain ⟨rest, rfl⟩ := OptionList.exists_append_of_cut hinert (hfront ▸ hfirst)
      rw [List.append_assoc, List.singleton_append] at hfirst
      rw [hfirst] at hcut
      have hread := readFreeText?_first hsame hmem hcut
      obtain ⟨w, hw, hrest⟩ := f.exists_readFreeText? rest
      rw [hread, Option.some.injEq, Prod.mk.injEq] at hw
      rw [← hw.2] at hrest
      -- both the piece and the clause have the semicolons of the text and no others
      have hsemicolons : (' ' :: c.chars).count ';' =
          (' ' :: f.key ++ ':' :: rest).count ';' := by
        rw [hchars]
        simp only [List.cons_append, List.count_cons, List.count_append, hcount, hrest]
      have hpiece : ' ' :: c.chars = ' ' :: f.key ++ ':' :: rest :=
        OptionList.eq_of_cut_of_count hfirst hsemicolons
      rw [← hpiece] at hfirst hread
      have hclosed : OptionList.isClosed false none c.chars = true := by
        rw [← OptionList.isClosed_space]
        exact OptionList.isClosed_of_cut hfirst
      obtain ⟨d, hd, hdset⟩ := Option.bind_eq_some_iff.mp hread
      rw [Clause.read?_cons_of_isBlank (by decide)] at hd
      refine Clause.survives_of_read? hclosed hd ?_ ?_
      · rintro o u rfl
        exact Clause.text_of_freeText? hset hdset
      · rintro negated u rfl
        obtain ⟨rfl, rfl⟩ := Prod.mk.inj (Option.some.inj hset)
        exact Clause.content_of_freeText? hdset

end Split

/-! ## Exactness -/

theorem Rule.survives_of_freeText?_eq_none {r : Rule} {c : Clause} (hc : c ∈ r.clauses)
    (h : c.freeText? = none) : c.survives = true := by
  rcases Rule.cases_of_mem_clauses hc with
    ⟨o, ho, -, rfl⟩ | rfl | ⟨o, v, rfl⟩ | ⟨-, rfl⟩ | rfl | rfl
  · obtain ⟨f, hf⟩ := FreeText.exists_ofOption? ho
    exact absurd h (by simp [Clause.freeText?, hf])
  · exact r.flowSet.survives
  · rfl
  · exact absurd h (by simp [Clause.freeText?])
  · rfl
  · rfl

/-- If the option list of a rule gives the rule back, each of its clauses survives. -/
theorem Rule.survives_of_canonical_eq {r : Rule}
    (hsame : (r.headerOnly.applyAll (OptionList.clauses (OptionList.chars r.clauses))).canonical =
      r.canonical) : ∀ c ∈ r.clauses, c.survives = true := by
  -- by induction on how many clauses from the front are known to survive
  have hprefix : ∀ pre post, r.clauses = pre ++ post → ∀ c ∈ pre, c.survives = true := by
    intro pre
    induction pre using List.reverseRecOn with
    | nil => exact fun post _ c hc => absurd hc List.not_mem_nil
    | append_singleton pre d ih =>
        intro post hsplit c hc
        rw [List.append_assoc, List.singleton_append] at hsplit
        have hpre := ih (d :: post) hsplit
        rcases List.mem_append.mp hc with hc | hc
        · exact hpre c hc
        · obtain rfl := List.mem_singleton.mp hc
          cases hset : c.freeText? with
          | none =>
              refine survives_of_freeText?_eq_none (r := r) ?_ hset
              rw [hsplit]
              exact List.mem_append_right pre List.mem_cons_self
          | some written => exact survives_of_split hsame hsplit hpre hset
  exact hprefix r.clauses [] (List.append_nil r.clauses).symm

theorem Rule.hasThreshold_canonical (r : Rule) : r.canonical.hasThreshold = r.hasThreshold := by
  have hcanonical : r.canonical.hasThreshold =
      ((if r.hasThreshold then r.thresholdType else none).isSome &&
        decide (0 < if r.hasThreshold then r.thresholdCount else 0) &&
        decide (0 < if r.hasThreshold then r.thresholdSeconds else 0)) := rfl
  rw [hcanonical]
  cases h : r.hasThreshold with
  | false => rfl
  | true => exact h

theorem Rule.canonical_canonical (r : Rule) : r.canonical.canonical = r.canonical := by
  have hthreshold := r.hasThreshold_canonical
  have hflow : r.canonical.flowSet = r.flowSet := FlowSet.ofText_text r.flowSet
  unfold canonical at hthreshold hflow ⊢
  simp only [hthreshold, hflow]
  cases r.hasThreshold <;> simp

theorem Rule.header_canonical (r : Rule) : r.canonical.header = r.header := rfl

/-- A rule of one line comes back from its text, up to what the text leaves out, exactly if its
header words are words and each of its clauses survives. -/
theorem Rule.parse_encode_iff {r : Rule} (hline : r.IsOneLine) :
    (∃ r', Rule.parse r.encode = .ok r' ∧ r'.canonical = r.canonical) ↔
      (∀ w ∈ r.header, IsWord w) ∧ ∀ c ∈ r.clauses, c.survives = true := by
  constructor
  · rintro ⟨r', hparse, hsame⟩
    have hheader := congrArg header hsame
    rw [header_canonical, header_canonical] at hheader
    have hwords := isWord_header_of_parse hparse
    rw [hheader] at hwords
    rw [parse_encode_of_isSound (frame_isSound hwords hline), Except.ok.injEq] at hparse
    subst hparse
    exact ⟨hwords, survives_of_canonical_eq hsame⟩
  · rintro ⟨hwords, hsurvive⟩
    exact ⟨r.canonical, parse_encode_of_survives hwords hline hsurvive, canonical_canonical r⟩

end RuleDesk
