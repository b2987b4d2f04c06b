import Mathlib.Data.List.Basic
import RuleDesk.Proofs.Rule.Frames
import RuleDesk.Proofs.Rule.ThresholdReading

/-!
# The grammar of a line

A line of rule text is seven words with gaps between them and a body in parentheses. This module
states the grammar without reference to how a line is read (`Frame.Fits`) and shows that reading
follows it: a line has no frame exactly if it fits none (`Frame.ofLine?_eq_none_iff`), and of the
frames that it fits the one with the longest seventh word is taken (`Frame.ofLine?_eq_some_iff`).

Gaps and words alternate, so the first six words of a line are the same in every frame that it
fits. Only the seventh word may end in several places, since it may hold parentheses.
-/

set_option autoImplicit false

namespace RuleDesk

open RuleDesk.Text

/-! ## The grammar -/

/-- A text is made of the given words, in order, with a gap between each word and the next. -/
inductive IsSpaced : List (List Char) → List Char → Prop where
  | last {w : List Char} (hw : IsWord w) : IsSpaced [w] w
  | cons {w gap text : List Char} {ws : List (List Char)} (hw : IsWord w) (hgap : IsGap gap)
      (h : IsSpaced ws text) : IsSpaced (w :: ws) (w ++ (gap ++ text))

/-- A text is a body in parentheses, behind blank characters or none. The body is not empty and
stands on one line. -/
inductive IsEnclosed (body : List Char) : List Char → Prop where
  | intro {gap : List Char} (hgap : ∀ c ∈ gap, isBlank c = true) (hne : body ≠ [])
      (hline : '\n' ∉ body) : IsEnclosed body (gap ++ '(' :: (body ++ [')']))

namespace Frame

/-- The header words of a frame but the last. -/
def leading (f : Frame) : List (List Char) :=
  [f.action, f.protocol, f.sourceAddress, f.sourcePort, f.direction, f.targetAddress]

/-- A line is made of the parts of a frame: the header words, spaced out, and the body. -/
def Fits (f : Frame) (line : List Char) : Prop :=
  ∃ header rest, IsSpaced f.header header ∧ IsEnclosed f.body rest ∧ line = header ++ rest

/-- Of the frames that a line fits, one whose seventh word is longest. -/
def FitsLongest (f : Frame) (line : List Char) : Prop :=
  f.Fits line ∧ ∀ g : Frame, g.Fits line → g.targetPort.length ≤ f.targetPort.length

end Frame

/-! ## Words and gaps -/

theorem IsSpaced.head_not_blank {ws : List (List Char)} {text : List Char} (h : IsSpaced ws text)
    (rest : List Char) {c : Char} (hc : (text ++ rest).head? = some c) : isBlank c = false := by
  have hword : ∀ {w : List Char}, IsWord w → ∀ tail, (w ++ tail).head? = some c →
      isBlank c = false := by
    intro w hw tail htail
    obtain ⟨d, w', rfl⟩ := List.exists_cons_of_ne_nil hw.1
    rw [List.cons_append, List.head?_cons, Option.some.injEq] at htail
    exact htail ▸ hw.2 d List.mem_cons_self
  cases h with
  | last hw => exact hword hw rest hc
  | cons hw hgap h =>
      rw [List.append_assoc] at hc
      exact hword hw _ hc

/-- A gap separates words. -/
theorem words_append_gap {gap : List Char} (hgap : IsGap gap) (s t : List Char) :
    words (s ++ (gap ++ t)) = words s ++ words t := by
  have hskip : ∀ blanks : List Char, (∀ c ∈ blanks, isBlank c = true) →
      words (blanks ++ t) = words t := by
    intro blanks hblanks
    induction blanks with
    | nil => rfl
    | cons c blanks ih =>
        rw [List.cons_append, words_cons_of_isBlank (hblanks c List.mem_cons_self)]
        exact ih fun d hd => hblanks d (List.mem_cons_of_mem c hd)
  obtain ⟨c, blanks, rfl⟩ := List.exists_cons_of_ne_nil hgap.1
  rw [List.cons_append, words_append_cons (hgap.2 c List.mem_cons_self)]
  rw [hskip blanks fun d hd => hgap.2 d (List.mem_cons_of_mem c hd)]

/-- Splitting a text at its blank characters gives the words that were spaced out in it. -/
theorem IsSpaced.words_eq {ws : List (List Char)} {text : List Char} (h : IsSpaced ws text) :
    words text = ws := by
  induction h with
  | last hw => exact words_of_isWord hw
  | cons hw hgap _ ih =>
      rw [words_append_gap hgap, words_of_isWord hw, ih]
      rfl

/-- What stands between a word that is read and the rest is a gap. -/
theorem exists_gap_of_word? {s w rest : List Char} (h : word? s = some (w, rest)) :
    ∃ gap, IsGap gap ∧ s = w ++ (gap ++ rest) := by
  simp only [word?] at h
  split at h
  · exact absurd h (by simp)
  · next hne =>
      simp only [Option.some.injEq, Prod.mk.injEq] at h
      obtain ⟨rfl, rfl⟩ := h
      simp only [Bool.or_eq_true, not_or, Bool.not_eq_true, List.isEmpty_eq_false_iff] at hne
      refine ⟨(s.dropWhile fun c => !isBlank c).takeWhile isBlank, ⟨?_, ?_⟩, ?_⟩
      · -- what is left behind the word begins with the blank character that ended it
        obtain ⟨b, tail, hb⟩ := List.exists_cons_of_ne_nil hne.2
        have hhead := List.head?_dropWhile_not (fun c => !isBlank c) s
        rw [hb] at hhead ⊢
        have hblank : isBlank b = true := by simpa using hhead
        rw [List.takeWhile_cons_of_pos hblank]
        exact List.cons_ne_nil b _
      · exact List.all_eq_true.mp List.all_takeWhile
      · rw [List.takeWhile_append_dropWhile, List.takeWhile_append_dropWhile]

/-! ## Bodies -/

theorem parenthesized?_eq_some_iff {s body : List Char} :
    parenthesized? s = some body ↔ IsEnclosed body s := by
  constructor
  · intro h
    obtain ⟨hne, hline⟩ := body_of_parenthesized? h
    simp only [parenthesized?] at h
    split at h
    · next rest hopen =>
        split at h
        · next hclose =>
            split at h
            · exact absurd h (by simp)
            · have hbody : rest.dropLast = body := Option.some.inj h
              have hrest : rest = body ++ [')'] := by
                rw [← hbody]
                exact (List.dropLast_append_getLast? ')' hclose).symm
              have hs : s = s.takeWhile isBlank ++ '(' :: (body ++ [')']) := by
                rw [← hrest, ← hopen, List.takeWhile_append_dropWhile]
              rw [hs]
              exact .intro (List.all_eq_true.mp List.all_takeWhile) hne hline
        · exact absurd h (by simp)
    · exact absurd h (by simp)
  · rintro ⟨hgap, hne, hline⟩
    exact parenthesized?_body hgap hne hline

/-- The seventh word and the body, as they are read, make up the text. -/
theorem exists_rest_of_wordAndBody? {s w body : List Char}
    (h : wordAndBody? s = some (w, body)) :
    ∃ rest, s = w ++ rest ∧ IsEnclosed body rest := by
  induction s generalizing w with
  | nil => simp [wordAndBody?] at h
  | cons c s ih =>
      rw [wordAndBody?] at h
      split at h
      · exact absurd h (by simp)
      · cases hs : wordAndBody? s with
        | some parts =>
            obtain ⟨word, found⟩ := parts
            simp only [hs, Option.some.injEq, Prod.mk.injEq] at h
            obtain ⟨rfl, rfl⟩ := h
            obtain ⟨rest, rfl, hrest⟩ := ih hs
            exact ⟨rest, rfl, hrest⟩
        | none =>
            simp only [hs, Option.map_eq_some_iff, Prod.mk.injEq] at h
            obtain ⟨found, hfound, rfl, rfl⟩ := h
            exact ⟨s, rfl, parenthesized?_eq_some_iff.mp hfound⟩

/-- Where a word and a body can be read, a word is read that is no shorter. -/
theorem exists_longer_of_isEnclosed {w body rest : List Char} (hw : IsWord w)
    (hrest : IsEnclosed body rest) :
    ∃ v found, wordAndBody? (w ++ rest) = some (v, found) ∧ w.length ≤ v.length := by
  obtain ⟨hne, hblank⟩ := hw
  induction w with
  | nil => exact absurd rfl hne
  | cons c w ih =>
      have hc : isBlank c = false := hblank c List.mem_cons_self
      rw [List.cons_append, wordAndBody?, hc]
      simp only [Bool.false_eq_true, if_false]
      cases w with
      | nil =>
          -- the word may end here, and it goes on if another body can be found further behind
          rw [List.nil_append]
          cases wordAndBody? rest with
          | some parts => exact ⟨_, _, rfl, Nat.le_add_left 1 _⟩
          | none =>
              simp only [parenthesized?_eq_some_iff.mpr hrest, Option.map_some]
              exact ⟨_, _, rfl, Nat.le_refl 1⟩
      | cons d w =>
          obtain ⟨v, found, hv, hle⟩ := ih (List.cons_ne_nil d w)
            fun e he => hblank e (List.mem_cons_of_mem c he)
          rw [hv]
          exact ⟨c :: v, found, rfl, Nat.succ_le_succ hle⟩

/-! ## The words in front -/

/-- The given words are read one after the other from the front of a line, and `rest` is left. -/
inductive ReadsWords : List (List Char) → List Char → List Char → Prop where
  | nil {line : List Char} : ReadsWords [] line line
  | cons {w line tail rest : List Char} {ws : List (List Char)} (hw : word? line = some (w, tail))
      (h : ReadsWords ws tail rest) : ReadsWords (w :: ws) line rest

/-- As many words are read from a line in one way only. -/
theorem ReadsWords.unique {ws ws' : List (List Char)} {line rest rest' : List Char}
    (h : ReadsWords ws line rest) (h' : ReadsWords ws' line rest')
    (hlength : ws.length = ws'.length) : ws = ws' ∧ rest = rest' := by
  induction h generalizing ws' with
  | nil =>
      cases h' with
      | nil => exact ⟨rfl, rfl⟩
      | cons _ _ => cases hlength
  | cons hw _ ih =>
      cases h' with
      | nil => cases hlength
      | cons hw' h' =>
          rw [hw] at hw'
          cases hw'
          obtain ⟨rfl, rfl⟩ := ih h' (Nat.succ.inj hlength)
          exact ⟨rfl, rfl⟩

/-- All words but the last of a text spaced out are read from its front. -/
theorem readsWords_of_isSpaced {ws : List (List Char)} {w header : List Char}
    (h : IsSpaced (ws ++ [w]) header) (rest : List Char) :
    IsWord w ∧ ReadsWords ws (header ++ rest) (w ++ rest) := by
  induction ws generalizing header with
  | nil =>
      cases h with
      | last hw => exact ⟨hw, .nil⟩
      | cons _ _ h => cases h
  | cons v ws ih =>
      rw [List.cons_append] at h
      generalize hvs : ws ++ [w] = vs at h
      cases h with
      | last _ => exact absurd hvs (by simp)
      | @cons _ gap text _ hv hgap h =>
          subst hvs
          obtain ⟨hw, hreads⟩ := ih h
          refine ⟨hw, .cons ?_ hreads⟩
          rw [List.append_assoc, List.append_assoc]
          exact word?_append_gap hv hgap fun c => h.head_not_blank rest

/-- Words that are read from a line and the word that follows them are spaced out in it. -/
theorem exists_isSpaced_of_readsWords {ws : List (List Char)} {w line rest : List Char}
    (hw : IsWord w) (h : ReadsWords ws line (w ++ rest)) :
    ∃ header, IsSpaced (ws ++ [w]) header ∧ line = header ++ rest := by
  induction ws generalizing line with
  | nil =>
      cases h with
      | nil => exact ⟨w, .last hw, rfl⟩
  | cons v ws ih =>
      cases h with
      | cons hv h =>
          obtain ⟨header, hheader, rfl⟩ := ih h
          obtain ⟨gap, hgap, rfl⟩ := exists_gap_of_word? hv
          refine ⟨v ++ (gap ++ header), .cons (isWord_of_word? hv) hgap hheader, ?_⟩
          rw [List.append_assoc, List.append_assoc]

namespace Frame

/-! ## Frames of a line -/

theorem header_eq (f : Frame) : f.header = f.leading ++ [f.targetPort] := rfl

/-- A line fits a frame if the first six words are read from it and the seventh word and the body
make up the rest. -/
theorem fits_iff {f : Frame} {line : List Char} :
    f.Fits line ↔ ∃ rest, ReadsWords f.leading line (f.targetPort ++ rest) ∧
      IsWord f.targetPort ∧ IsEnclosed f.body rest := by
  constructor
  · rintro ⟨header, rest, hheader, hbody, rfl⟩
    rw [header_eq] at hheader
    obtain ⟨hport, hreads⟩ := readsWords_of_isSpaced hheader rest
    exact ⟨rest, hreads, hport, hbody⟩
  · rintro ⟨rest, hreads, hport, hbody⟩
    obtain ⟨header, hheader, hline⟩ := exists_isSpaced_of_readsWords hport hreads
    exact ⟨header, rest, hheader, hbody, hline⟩

theorem ofLine?_eq_some_iff_reads {f : Frame} {line : List Char} :
    ofLine? line = some f ↔
      ∃ rest, ReadsWords f.leading line rest ∧
        wordAndBody? rest = some (f.targetPort, f.body) := by
  constructor
  · intro h
    simp only [ofLine?, Option.bind_eq_bind, Option.bind_eq_some_iff, Prod.exists] at h
    obtain ⟨action, rest, haction, protocol, rest, hprotocol, sourceAddress, rest, hsource,
      sourcePort, rest, hsourcePort, direction, rest, hdirection, targetAddress, rest, htarget,
      targetPort, body, hlast, hf⟩ := h
    cases hf
    exact ⟨rest, .cons haction (.cons hprotocol (.cons hsource (.cons hsourcePort
      (.cons hdirection (.cons htarget .nil))))), hlast⟩
  · rintro ⟨rest, hreads, hlast⟩
    obtain ⟨action, protocol, sourceAddress, sourcePort, direction, targetAddress, targetPort,
      body⟩ := f
    cases hreads with | cons haction hreads =>
    cases hreads with | cons hprotocol hreads =>
    cases hreads with | cons hsource hreads =>
    cases hreads with | cons hsourcePort hreads =>
    cases hreads with | cons hdirection hreads =>
    cases hreads with | cons htarget hreads =>
    cases hreads with | nil =>
    simp only [ofLine?, haction, hprotocol, hsource, hsourcePort, hdirection, htarget, hlast,
      bind, Option.bind, pure]

/-- What is read as the frame of a line fits it. -/
theorem fits_of_ofLine? {f : Frame} {line : List Char} (h : ofLine? line = some f) :
    f.Fits line := by
  obtain ⟨rest, hreads, hlast⟩ := ofLine?_eq_some_iff_reads.mp h
  obtain ⟨tail, rfl, hbody⟩ := exists_rest_of_wordAndBody? hlast
  exact fits_iff.mpr ⟨tail, hreads, (isWord_of_wordAndBody? hlast).1, hbody⟩

/-- A line that fits a frame has a frame, whose seventh word is no shorter. -/
theorem exists_ofLine?_of_fits {f : Frame} {line : List Char} (h : f.Fits line) :
    ∃ g, ofLine? line = some g ∧ f.targetPort.length ≤ g.targetPort.length := by
  obtain ⟨rest, hreads, hport, hbody⟩ := fits_iff.mp h
  obtain ⟨port, body, hlast, hle⟩ := exists_longer_of_isEnclosed hport hbody
  exact ⟨{ f with targetPort := port, body := body },
    ofLine?_eq_some_iff_reads.mpr ⟨_, hreads, hlast⟩, hle⟩

/-- Two frames that a line fits are the same if their seventh words are of the same length: the
first six words are the same in any case. -/
theorem Fits.unique {f g : Frame} {line : List Char} (hf : f.Fits line) (hg : g.Fits line)
    (hlength : f.targetPort.length = g.targetPort.length) : f = g := by
  obtain ⟨rest, hreads, -, hbody⟩ := fits_iff.mp hf
  obtain ⟨rest', hreads', -, hbody'⟩ := fits_iff.mp hg
  obtain ⟨hleading, htail⟩ := hreads.unique hreads' rfl
  obtain ⟨hport, rfl⟩ := List.append_inj htail hlength
  -- what is enclosed in a text is found by a function of it
  have hsame : f.body = g.body := by
    have hfound := parenthesized?_eq_some_iff.mpr hbody
    rw [parenthesized?_eq_some_iff.mpr hbody'] at hfound
    exact (Option.some.inj hfound).symm
  obtain ⟨⟩ := f
  obtain ⟨⟩ := g
  simp only [leading, List.cons.injEq] at hleading
  simp_all

/-- The frame of a line is the one with the longest seventh word. -/
theorem ofLine?_eq_some_iff {f : Frame} {line : List Char} :
    ofLine? line = some f ↔ f.FitsLongest line := by
  constructor
  · intro h
    refine ⟨fits_of_ofLine? h, ?_⟩
    intro g hg
    obtain ⟨g', hg', hle⟩ := exists_ofLine?_of_fits hg
    rw [h] at hg'
    cases hg'
    exact hle
  · rintro ⟨hfits, hlongest⟩
    obtain ⟨g, hg, hle⟩ := exists_ofLine?_of_fits hfits
    have hgfits := fits_of_ofLine? hg
    rw [hfits.unique hgfits (Nat.le_antisymm hle (hlongest g hgfits))]
    exact hg

theorem FitsLongest.unique {f g : Frame} {line : List Char} (hf : f.FitsLongest line)
    (hg : g.FitsLongest line) : f = g :=
  hf.1.unique hg.1 (Nat.le_antisymm (hg.2 f hf.1) (hf.2 g hg.1))

/-- A line without a frame fits none. -/
theorem ofLine?_eq_none_iff {line : List Char} :
    ofLine? line = none ↔ ∀ f : Frame, ¬ f.Fits line := by
  constructor
  · intro h f hf
    obtain ⟨g, hg, -⟩ := exists_ofLine?_of_fits hf
    rw [h] at hg
    cases hg
  · intro h
    cases hline : ofLine? line with
    | none => rfl
    | some f => exact absurd (fits_of_ofLine? hline) (h f)

end Frame

end RuleDesk
