import RuleDesk.Proofs.Rule.Verdicts

/-!
# Option lists without a space before them

The space before the option list may be left out. Then the parenthesis of the list could as well
belong to the last header word, and since the longest such word is taken it does so whenever the
list could begin again further behind. A list opens again if its first parenthesis stands within the
first word of the list, or right behind the gap after that word, and is not its last character.

So a tight line is read as the same line with the space, unless the list opens again
(`Frame.ofLine?_tight_eq_iff`); and if it does, the last header word takes up the front of the list.
-/

set_option autoImplicit false

namespace RuleDesk

open RuleDesk.Text

/-! ## Lists that open again -/

/-- A list could begin once more behind its first word, which it would then lose: there a
parenthesis opens that is not its last character. -/
def Reopens (body : List Char) : Prop :=
  ∃ word gap rest, body = word ++ (gap ++ '(' :: rest) ∧ (∀ c ∈ word, isBlank c = false) ∧
    (∀ c ∈ gap, isBlank c = true) ∧ rest ≠ []

/-- Whether something follows the first parenthesis of the first word, or the one that opens right
behind the gap after a word without any. -/
def reopens (body : List Char) : Bool :=
  match (body.dropWhile fun c => !isBlank c && c != '(').dropWhile isBlank with
  | '(' :: rest => !rest.isEmpty
  | _ => false

theorem reopens_of_gap {gap rest : List Char} (hgap : ∀ c ∈ gap, isBlank c = true)
    (hrest : rest ≠ []) : reopens (gap ++ '(' :: rest) = true := by
  have hstop : (gap ++ '(' :: rest).dropWhile (fun c => !isBlank c && c != '(') =
      gap ++ '(' :: rest := by
    cases gap with
    | nil => exact List.dropWhile_cons_of_neg (by simp)
    | cons b gap => exact List.dropWhile_cons_of_neg (by simp [hgap b List.mem_cons_self])
  have hopen : (gap ++ '(' :: rest).dropWhile isBlank = '(' :: rest := by
    rw [List.dropWhile_append_of_pos hgap]
    exact List.dropWhile_cons_of_neg (by decide)
  simp only [reopens, hstop, hopen]
  simpa using hrest

theorem reopens_iff (body : List Char) : reopens body = true ↔ Reopens body := by
  constructor
  · intro h
    unfold reopens at h
    split at h
    · next rest hopen =>
        refine ⟨body.takeWhile fun c => !isBlank c && c != '(',
          (body.dropWhile fun c => !isBlank c && c != '(').takeWhile isBlank, rest, ?_, ?_, ?_, ?_⟩
        · rw [← hopen, List.takeWhile_append_dropWhile, List.takeWhile_append_dropWhile]
        · intro c hc
          have hboth := List.all_eq_true.mp List.all_takeWhile c hc
          simp only [Bool.and_eq_true, Bool.not_eq_true'] at hboth
          exact hboth.1
        · exact List.all_eq_true.mp List.all_takeWhile
        · simpa using h
    · cases h
  · rintro ⟨word, gap, rest, rfl, hword, hgap, hrest⟩
    induction word with
    | nil => exact reopens_of_gap hgap hrest
    | cons c word ih =>
        have hc : isBlank c = false := hword c List.mem_cons_self
        by_cases hopen : c = '('
        · -- the word itself holds the parenthesis
          subst hopen
          have hne : word ++ (gap ++ '(' :: rest) ≠ [] := by simp
          exact @reopens_of_gap [] _ (fun _ h => absurd h List.not_mem_nil) hne
        · have hskip : reopens (c :: (word ++ (gap ++ '(' :: rest))) =
              reopens (word ++ (gap ++ '(' :: rest)) := by
            unfold reopens
            rw [List.dropWhile_cons_of_pos (by simp [hc, hopen])]
          rw [List.cons_append, hskip]
          exact ih fun d hd => hword d (List.mem_cons_of_mem c hd)

instance (body : List Char) : Decidable (Reopens body) :=
  decidable_of_iff _ (reopens_iff body)

/-! ## Words joined -/

/-- Words joined by spaces are spaced out. -/
theorem isSpaced_joined {ws : List (List Char)} (hne : ws ≠ []) (hwords : ∀ w ∈ ws, IsWord w) :
    IsSpaced ws (joined [' '] ws) := by
  induction ws with
  | nil => exact absurd rfl hne
  | cons w ws ih =>
      have hw : IsWord w := hwords w List.mem_cons_self
      cases ws with
      | nil => exact .last hw
      | cons v ws =>
          have hrest := ih (List.cons_ne_nil v ws) fun u hu => hwords u (List.mem_cons_of_mem w hu)
          have hjoined : joined [' '] (w :: v :: ws) = w ++ ([' '] ++ joined [' '] (v :: ws)) := by
            rw [← List.append_assoc]
            rfl
          rw [hjoined]
          exact .cons hw isGap_space hrest

namespace Frame

variable {f g : Frame}

/-- The line of a frame without the space before its option list. -/
def tightChars (f : Frame) : List Char :=
  joined [' '] f.header ++ '(' :: f.body ++ [')']

theorem tightChars_eq_append (f : Frame) :
    f.tightChars = f.action ++ (' ' :: joined [' '] f.header.tail ++ '(' :: f.body) ++ [')'] := by
  simp [tightChars, header, joined]

/-! ## The frame of a tight line -/

/-- The first six words of a tight line are those of the frame, and the last one stands right before
the list. -/
theorem IsSound.readsWords_tightChars (h : f.IsSound) :
    ReadsWords f.leading f.tightChars (f.targetPort ++ '(' :: (f.body ++ [')'])) := by
  have hspaced : IsSpaced (f.leading ++ [f.targetPort]) (joined [' '] f.header) :=
    isSpaced_joined (List.cons_ne_nil _ _) h.isWord_of_mem_header
  rw [tightChars, List.append_assoc, List.cons_append]
  exact (readsWords_of_isSpaced hspaced _).2

theorem IsSound.isWord_targetPort (h : f.IsSound) : IsWord f.targetPort :=
  h.isWord_of_mem_header _ (by simp [header])

/-- A tight line fits its frame. -/
theorem IsSound.fits_tightChars (h : f.IsSound) : f.Fits f.tightChars := by
  have hlist : IsEnclosed f.body ('(' :: (f.body ++ [')'])) :=
    @IsEnclosed.intro f.body [] (fun _ hc => absurd hc List.not_mem_nil) h.body_ne_nil
      h.body_oneLine
  exact fits_iff.mpr ⟨_, h.readsWords_tightChars, h.isWord_targetPort, hlist⟩

/-- If the list opens again, the tight line fits a frame whose last header word goes on to there. -/
theorem IsSound.exists_longer_of_reopens (h : f.IsSound) (hopen : Reopens f.body) :
    ∃ g : Frame, g.Fits f.tightChars ∧ f.targetPort.length < g.targetPort.length := by
  obtain ⟨word, gap, rest, hbody, hword, hgap, hrest⟩ := hopen
  have honeLine : '\n' ∉ rest := by
    intro hmem
    apply h.body_oneLine
    rw [hbody]
    simp [hmem]
  refine ⟨{ f with targetPort := f.targetPort ++ '(' :: word, body := rest }, ?_, ?_⟩
  · refine fits_iff.mpr ⟨gap ++ '(' :: (rest ++ [')']), ?_, ⟨?_, ?_⟩, .intro hgap hrest honeLine⟩
    · have hreads := h.readsWords_tightChars
      rw [hbody] at hreads
      simp only [List.append_assoc, List.cons_append] at hreads ⊢
      exact hreads
    · simp
    · intro c hc
      rcases List.mem_append.mp hc with hport | hlist
      · exact h.isWord_targetPort.2 c hport
      · rcases List.mem_cons.mp hlist with rfl | hlist
        · rfl
        · exact hword c hlist
  · simp

/-- If the tight line fits a frame with a longer last header word, the list opens again where that
word ends. -/
theorem IsSound.reopens_of_longer (h : f.IsSound) (hg : g.Fits f.tightChars)
    (hlonger : f.targetPort.length < g.targetPort.length) : Reopens f.body := by
  obtain ⟨tail, hreads, hport, hbody⟩ := fits_iff.mp hg
  obtain ⟨-, hsplit⟩ := h.readsWords_tightChars.unique hreads rfl
  rcases List.append_eq_append_iff.mp hsplit with ⟨more, hmore, hlist⟩ | ⟨more, hmore, -⟩
  · -- the longer word begins with the parenthesis of the list
    cases more with
    | nil =>
        rw [hmore, List.append_nil] at hlonger
        exact absurd hlonger (Nat.lt_irrefl _)
    | cons c word =>
        rw [List.cons_append, List.cons.injEq] at hlist
        obtain ⟨rfl, hlist⟩ := hlist
        obtain @⟨gap, hgap, hne, -⟩ := hbody
        refine ⟨word, gap, g.body, ?_, ?_, hgap, hne⟩
        · apply (List.append_left_inj [')']).mp
          rw [hlist]
          simp
        · intro d hd
          apply hport.2 d
          rw [hmore]
          exact List.mem_append_right _ (List.mem_cons_of_mem _ hd)
  · rw [hmore, List.length_append] at hlonger
    omega

/-- A tight line has a frame whose first six words are those of the given frame. It is the given
frame if and only if the list does not open again. -/
theorem IsSound.exists_ofLine?_tightChars (h : f.IsSound) :
    ∃ g, ofLine? f.tightChars = some g ∧ g.leading = f.leading ∧
      (g.targetPort = f.targetPort ↔ ¬ Reopens f.body) ∧ (¬ Reopens f.body → g = f) := by
  obtain ⟨g, hg, hle⟩ := exists_ofLine?_of_fits h.fits_tightChars
  obtain ⟨hfits, hlongest⟩ := ofLine?_eq_some_iff.mp hg
  have hleading : g.leading = f.leading := by
    obtain ⟨tail, hreads, -, -⟩ := fits_iff.mp hfits
    exact (hreads.unique h.readsWords_tightChars rfl).1
  have hsame : ¬ Reopens f.body → g = f := by
    intro hclosed
    have hnot : ¬ f.targetPort.length < g.targetPort.length :=
      fun hlonger => hclosed (h.reopens_of_longer hfits hlonger)
    exact hfits.unique h.fits_tightChars (Nat.le_antisymm (Nat.le_of_not_lt hnot) hle)
  refine ⟨g, hg, hleading, ⟨?_, ?_⟩, hsame⟩
  · intro hport hopen
    obtain ⟨g', hg', hlonger⟩ := h.exists_longer_of_reopens hopen
    have hbound := hlongest g' hg'
    rw [hport] at hbound
    exact absurd hlonger (Nat.not_lt_of_le hbound)
  · intro hclosed
    rw [hsame hclosed]

/-! ## Verdicts on tight lines -/

/-- Whether a header word is unknown is decided by the first six words. -/
theorem FirstUnknown.of_leading_eq {u : UnknownKeyword} (hu : f.FirstUnknown u)
    (h : g.leading = f.leading) : g.FirstUnknown u := by
  simp only [leading, List.cons.injEq] at h
  obtain ⟨haction, hprotocol, -, -, hdirection, -⟩ := h
  cases hu with
  | action hnone =>
      rw [← haction] at hnone ⊢
      exact .action hnone
  | protocol hsome hnone =>
      rw [← haction] at hsome
      rw [← hprotocol] at hnone ⊢
      exact .protocol hsome hnone
  | direction hsome hsome' hnone =>
      rw [← haction] at hsome
      rw [← hprotocol] at hsome'
      rw [← hdirection] at hnone ⊢
      exact .direction hsome hsome' hnone

theorem HasKeywords.of_leading_eq (hf : f.HasKeywords) (h : g.leading = f.leading) :
    g.HasKeywords := by
  simp only [leading, List.cons.injEq] at h
  obtain ⟨haction, hprotocol, -, -, hdirection, -⟩ := h
  obtain ⟨hsome, hsome', hsome''⟩ := hf
  rw [← haction] at hsome
  rw [← hprotocol] at hsome'
  rw [← hdirection] at hsome''
  exact ⟨hsome, hsome', hsome''⟩

/-- Two frames with the same first six words are refused for the same reason, or both are rules,
each with the header words of its own frame. -/
theorem rule_cases (h : g.leading = f.leading) :
    (¬ f.HasKeywords ∧ g.rule = f.rule) ∨
      (f.HasKeywords ∧ ∃ r s, f.rule = .ok r ∧ r.header = f.header ∧ g.rule = .ok s ∧
        s.header = g.header) := by
  by_cases hkeywords : f.HasKeywords
  · obtain ⟨r, hr, hheader⟩ := exists_rule_iff.mpr ⟨hkeywords, rfl⟩
    obtain ⟨s, hs, hheader'⟩ := exists_rule_iff.mpr ⟨hkeywords.of_leading_eq h, rfl⟩
    exact .inr ⟨hkeywords, r, s, hr, hheader, hs, hheader'⟩
  · refine .inl ⟨hkeywords, ?_⟩
    cases hrule : f.rule with
    | error e =>
        obtain ⟨u, rfl, hu⟩ := rule_eq_error_iff.mp hrule
        exact rule_eq_error_iff.mpr ⟨u, rfl, hu.of_leading_eq h⟩
    | ok r =>
        obtain ⟨s, -, hs, rfl⟩ := Rule.exists_of_rule_eq_ok hrule
        have hheader := (Rule.header_applyAll s (OptionList.clauses f.body)).trans hs
        exact absurd (exists_rule_iff.mp ⟨_, hrule, hheader⟩).1 hkeywords

/-- An action that begins with a comment sign is no keyword. -/
theorem not_hasKeywords_of_comment (h : f.action.head? = some '#') : ¬ f.HasKeywords := by
  rintro ⟨⟨a, ha⟩, -, -⟩
  rw [ha] at h
  have hplain := isPlain_spelled a '#' (List.mem_of_mem_head? h)
  exact absurd rfl (ne_of_isPlain (d := '#') hplain (by decide))

end Frame

/-! ## Tight lines read -/

namespace Rule

/-- A line that begins with a word is void if and only if this word begins with a comment sign. -/
theorem isVoid_word_append {w : List Char} (hw : IsWord w) (rest : List Char) :
    IsVoid (w ++ rest) ↔ w.head? = some '#' := by
  obtain ⟨c, tail, rfl⟩ := List.exists_cons_of_ne_nil hw.1
  simp [IsVoid]

/-- What is read from a line that begins with a word, blank characters apart, and fits a frame. -/
theorem parse_of_fitsLongest {line : String} {w rest : List Char} {g : Frame} (hw : IsWord w)
    (htrim : trim line.toList = w ++ rest) (hg : g.FitsLongest (w ++ rest)) :
    Rule.parse line = if w.head? = some '#' then .error .empty else g.rule := by
  have hcases := parse_cases line
  rw [htrim, isVoid_word_append hw] at hcases
  rcases hcases with ⟨hcomment, hparse⟩ | ⟨-, hnone, -⟩ | ⟨hplain, g', hg', hparse⟩
  · rw [hparse, if_pos hcomment]
  · exact absurd hg.1 (hnone g)
  · rw [hparse, if_neg hplain, hg'.unique hg]

theorem parse_of_ofLine? {w rest : List Char} {g : Frame} (hw : IsWord w)
    (hg : Frame.ofLine? (w ++ rest ++ [')']) = some g) :
    Rule.parse (String.ofList (w ++ rest ++ [')'])) =
      if w.head? = some '#' then .error .empty else g.rule := by
  have htrim : trim (String.ofList (w ++ rest ++ [')'])).toList = w ++ (rest ++ [')']) := by
    rw [String.toList_ofList, Frame.trim_word_append hw, List.append_assoc]
  rw [List.append_assoc] at hg
  exact parse_of_fitsLongest hw htrim (Frame.ofLine?_eq_some_iff.mp hg)

/-- A line without a space before its option list is read as the line with the space, unless all its
keywords are in order and the list opens again. -/
theorem parse_tight_eq_iff {f : Frame} (h : f.IsSound) :
    Rule.parse (String.ofList f.tightChars) = Rule.parse (String.ofList f.chars) ↔
      (f.HasKeywords → ¬ Reopens f.body) := by
  have haction : IsWord f.action := h.isWord_of_mem_header _ List.mem_cons_self
  obtain ⟨g, hg, hleading, hport, hsame⟩ := h.exists_ofLine?_tightChars
  have hf := Frame.ofLine?_chars h
  rw [Frame.tightChars_eq_append] at hg ⊢
  rw [Frame.chars_eq_append] at hf ⊢
  rw [parse_of_ofLine? haction hg, parse_of_ofLine? haction hf]
  by_cases hcomment : f.action.head? = some '#'
  · -- both lines are comments, and then the action is no keyword
    rw [if_pos hcomment, if_pos hcomment]
    have hunknown := Frame.not_hasKeywords_of_comment hcomment
    exact iff_of_true rfl fun hkeywords => absurd hkeywords hunknown
  rw [if_neg hcomment, if_neg hcomment]
  rcases Frame.rule_cases hleading with ⟨hunknown, hrule⟩ | ⟨hkeywords, hrules⟩
  · exact iff_of_true hrule fun hkeywords => absurd hkeywords hunknown
  · constructor
    · -- rules that are equal have the same last header word
      intro hrule _
      obtain ⟨r, s, hr, hheader, hs, hheader'⟩ := hrules
      rw [hr, hs] at hrule
      obtain rfl := Except.ok.inj hrule
      have hports := hheader'.symm.trans hheader
      simp only [Frame.header, List.cons.injEq] at hports
      exact hport.mp hports.2.2.2.2.2.2.1
    · intro hclosed
      rw [hsame (hclosed hkeywords)]

/-- A parenthesis behind the second word of the list does not open it again. -/
theorem parse_tight_eq_later_parenthesis :
    Rule.parse "alert tcp any any -> any any(msg:\"SQL test (a)\"; sid:7;)" =
      Rule.parse "alert tcp any any -> any any (msg:\"SQL test (a)\"; sid:7;)" := by
  let f : Frame :=
    ⟨"alert".toList, "tcp".toList, "any".toList, "any".toList, "->".toList, "any".toList,
      "any".toList, "msg:\"SQL test (a)\"; sid:7;".toList⟩
  have hsound : f.IsSound := ⟨by decide, by decide, by decide⟩
  have hclosed : ¬ Reopens f.body := by decide
  exact (parse_tight_eq_iff hsound).mpr fun _ => hclosed

/-- A message whose second word begins with a parenthesis: behind a space the list is read in full,
and without it the last header word takes up the first option and nothing is left of the list. -/
theorem tight_message_lost :
    let f : Frame :=
      ⟨"alert".toList, "tcp".toList, "any".toList, "any".toList, "->".toList, "any".toList,
        "any".toList, "msg:\"SQL (test)\"; sid:7;".toList⟩
    f.IsSound ∧ (∀ w ∈ f.header, '(' ∉ w ∧ ')' ∉ w) ∧
      Rule.parse (String.ofList f.chars) = .ok { message := "SQL (test)", sid := 7 } ∧
      Rule.parse (String.ofList f.tightChars) = .ok { targetPort := "any(msg:\"SQL" } := by
  intro f
  refine ⟨⟨by decide, by decide, by decide⟩, by decide, ?_, ?_⟩
  · decide
  · decide

end Rule

end RuleDesk
