import RuleDesk.Proofs.Rule.Canonical
import RuleDesk.Proofs.Rule.Keywords
import RuleDesk.Rule.Line

/-!
# Frames read back

The frame of a line is sound if its header words are words and the text of its option list is not
empty and stands on one line. Exactly the sound frames come from lines: a sound frame is read back
from its own line, and every frame that is read is sound.
-/

set_option autoImplicit false

namespace RuleDesk

open RuleDesk.Text

namespace Frame

/-- The header words of a frame. -/
def header (f : Frame) : List (List Char) :=
  [f.action, f.protocol, f.sourceAddress, f.sourcePort, f.direction, f.targetAddress, f.targetPort]

/-- The line of a frame. -/
def chars (f : Frame) : List Char :=
  joined [' '] f.header ++ ' ' :: '(' :: f.body ++ [')']

/-- A frame whose parts can be told apart in a line. -/
structure IsSound (f : Frame) : Prop where
  isWord_of_mem_header : ∀ w ∈ f.header, IsWord w
  body_ne_nil : f.body ≠ []
  body_oneLine : '\n' ∉ f.body

end Frame

/-! ## Words of a line -/

/-- A gap between words: one or more blank characters. -/
def IsGap (s : List Char) : Prop :=
  s ≠ [] ∧ ∀ c ∈ s, isBlank c = true

theorem isGap_space : IsGap [' '] := by
  refine ⟨List.cons_ne_nil _ _, ?_⟩
  intro c hc
  obtain rfl := List.mem_singleton.mp hc
  rfl

/-- A word is read up to the gap behind it, and the gap is skipped. -/
theorem word?_append_gap {w gap rest : List Char} (hw : IsWord w) (hgap : IsGap gap)
    (hrest : ∀ c, rest.head? = some c → isBlank c = false) :
    word? (w ++ (gap ++ rest)) = some (w, rest) := by
  obtain ⟨b, gap', rfl⟩ := List.exists_cons_of_ne_nil hgap.1
  have hb : isBlank b = true := hgap.2 b List.mem_cons_self
  have htake : (w ++ (b :: gap' ++ rest)).takeWhile (fun c => !isBlank c) = w := by
    rw [List.takeWhile_append_of_pos (by simpa using hw.2), List.cons_append,
      List.takeWhile_cons_of_neg (by simp [hb]), List.append_nil]
  have hdrop : (w ++ (b :: gap' ++ rest)).dropWhile (fun c => !isBlank c) = b :: gap' ++ rest := by
    rw [List.dropWhile_append_of_pos (by simpa using hw.2), List.cons_append,
      List.dropWhile_cons_of_neg (by simp [hb])]
  have hskip : (b :: gap' ++ rest).dropWhile isBlank = rest := by
    rw [List.dropWhile_append_of_pos hgap.2]
    cases rest with
    | nil => rfl
    | cons c rest => exact List.dropWhile_cons_of_neg (by simp [hrest c rfl])
  have hempty : w.isEmpty = false := List.isEmpty_eq_false_iff.mpr hw.1
  simp only [word?, htake, hdrop, hskip, hempty, Bool.false_or]
  rfl

/-- A word before another is read, and the space between them is skipped. -/
theorem word?_append {w next : List Char} (hw : IsWord w) (hnext : IsWord next)
    (rest : List Char) :
    word? (w ++ ' ' :: (next ++ rest)) = some (w, next ++ rest) := by
  apply word?_append_gap hw isGap_space
  obtain ⟨d, tail, rfl⟩ := List.exists_cons_of_ne_nil hnext.1
  intro c hc
  obtain rfl := Option.some.inj hc
  exact hnext.2 d List.mem_cons_self

theorem isWord_of_word? {s w rest : List Char} (h : word? s = some (w, rest)) : IsWord w := by
  simp only [word?] at h
  split at h
  · exact absurd h (by simp)
  · next hne =>
      simp only [Option.some.injEq, Prod.mk.injEq] at h
      obtain ⟨rfl, -⟩ := h
      simp only [Bool.or_eq_true, not_or, Bool.not_eq_true, List.isEmpty_eq_false_iff] at hne
      refine ⟨hne.1, ?_⟩
      intro c hc
      simpa using List.all_eq_true.mp List.all_takeWhile c hc

/-! ## The body of a line -/

/-- A body in parentheses is found behind blank characters. -/
theorem parenthesized?_body {gap body : List Char} (hgap : ∀ c ∈ gap, isBlank c = true)
    (hne : body ≠ []) (hline : '\n' ∉ body) :
    parenthesized? (gap ++ '(' :: (body ++ [')'])) = some body := by
  have hdrop : (gap ++ '(' :: (body ++ [')'])).dropWhile isBlank = '(' :: (body ++ [')']) := by
    rw [List.dropWhile_append_of_pos hgap]
    exact List.dropWhile_cons_of_neg (by decide)
  have hempty : body.isEmpty = false := List.isEmpty_eq_false_iff.mpr hne
  have hcontains : body.contains '\n' = false := by simpa using hline
  simp only [parenthesized?, hdrop, List.getLast?_concat, List.dropLast_concat, hempty,
    hcontains, Bool.or_self, Bool.false_eq_true, if_false]

theorem body_of_parenthesized? {s body : List Char} (h : parenthesized? s = some body) :
    body ≠ [] ∧ '\n' ∉ body := by
  simp only [parenthesized?] at h
  split at h
  · split at h
    · split at h
      · exact absurd h (by simp)
      · next hne =>
          simp only [Option.some.injEq] at h
          subst h
          simp only [Bool.or_eq_true, not_or, Bool.not_eq_true, List.isEmpty_eq_false_iff] at hne
          exact ⟨hne.1, by simpa using hne.2⟩
    · exact absurd h (by simp)
  · exact absurd h (by simp)

/-- The last word of a header is read to its end, whatever parentheses stand in it. -/
theorem wordAndBody?_append {w body : List Char} (hw : IsWord w) (hne : body ≠ [])
    (hline : '\n' ∉ body) :
    wordAndBody? (w ++ ' ' :: '(' :: body ++ [')']) = some (w, body) := by
  obtain ⟨hnil, hblank⟩ := hw
  induction w with
  | nil => exact absurd rfl hnil
  | cons c w ih =>
      have hc := hblank c List.mem_cons_self
      rw [List.append_assoc, List.cons_append, wordAndBody?, hc]
      cases w with
      | nil =>
          -- a longer word would take in the space, so the word ends here and the body follows
          have hbody : parenthesized? (' ' :: '(' :: body ++ [')']) = some body :=
            parenthesized?_body isGap_space.2 hne hline
          have hstop : wordAndBody? (' ' :: '(' :: body ++ [')']) = none := by
            rw [List.cons_append, wordAndBody?]
            exact if_pos (by decide)
          simp only [Bool.false_eq_true, if_false, List.nil_append, hstop, hbody, Option.map_some]
      | cons d w =>
          have hrest := ih (List.cons_ne_nil d w) fun e he => hblank e (List.mem_cons_of_mem c he)
          rw [List.append_assoc] at hrest
          simp only [Bool.false_eq_true, if_false, hrest]

theorem isWord_of_wordAndBody? {s w body : List Char} (h : wordAndBody? s = some (w, body)) :
    IsWord w ∧ body ≠ [] ∧ '\n' ∉ body := by
  induction s generalizing w with
  | nil => simp [wordAndBody?] at h
  | cons c s ih =>
      rw [wordAndBody?] at h
      split at h
      · exact absurd h (by simp)
      · next hc =>
          rw [Bool.not_eq_true] at hc
          cases hs : wordAndBody? s with
          | some parts =>
              obtain ⟨word, found⟩ := parts
              simp only [hs, Option.some.injEq, Prod.mk.injEq] at h
              obtain ⟨rfl, rfl⟩ := h
              obtain ⟨hword, hbody⟩ := ih hs
              refine ⟨⟨List.cons_ne_nil c word, ?_⟩, hbody⟩
              intro d hd
              cases hd with
              | head => exact hc
              | tail _ hd => exact hword.2 d hd
          | none =>
              simp only [hs, Option.map_eq_some_iff, Prod.mk.injEq] at h
              obtain ⟨found, hfound, rfl, rfl⟩ := h
              refine ⟨⟨List.cons_ne_nil c [], ?_⟩, body_of_parenthesized? hfound⟩
              intro d hd
              rw [List.mem_singleton.mp hd]
              exact hc

/-! ## The frame of a line -/

namespace Frame

/-- A sound frame is read back from its line. -/
theorem ofLine?_chars {f : Frame} (h : f.IsSound) : ofLine? f.chars = some f := by
  obtain ⟨hwords, hne, hline⟩ := h
  obtain ⟨action, protocol, sourceAddress, sourcePort, direction, targetAddress, targetPort,
    body⟩ := f
  simp only [header, List.forall_mem_cons] at hwords
  obtain ⟨haction, hprotocol, hsource, hsourcePort, hdirection, htarget, htargetPort, -⟩ := hwords
  simp only [chars, header, joined, List.append_assoc, List.cons_append, List.nil_append]
  have hbody := wordAndBody?_append htargetPort hne hline
  simp only [List.append_assoc, List.cons_append] at hbody
  simp only [ofLine?, bind, Option.bind, word?_append haction hprotocol,
    word?_append hprotocol hsource, word?_append hsource hsourcePort,
    word?_append hsourcePort hdirection, word?_append hdirection htarget,
    word?_append htarget htargetPort, hbody]
  rfl

/-- Every frame that is read from a line is sound. -/
theorem isSound_of_ofLine? {line : List Char} {f : Frame} (h : ofLine? line = some f) :
    f.IsSound := by
  simp only [ofLine?, Option.bind_eq_bind, Option.bind_eq_some_iff, Prod.exists] at h
  obtain ⟨action, rest, haction, protocol, rest, hprotocol, sourceAddress, rest, hsource,
    sourcePort, rest, hsourcePort, direction, rest, hdirection, targetAddress, rest, htarget,
    targetPort, body, hlast, hf⟩ := h
  have hf' : f = ⟨action, protocol, sourceAddress, sourcePort, direction, targetAddress,
    targetPort, body⟩ := (Option.some.inj hf).symm
  subst hf'
  obtain ⟨htargetPort, hne, hline⟩ := isWord_of_wordAndBody? hlast
  refine ⟨?_, hne, hline⟩
  simp only [header, List.forall_mem_cons]
  exact ⟨isWord_of_word? haction, isWord_of_word? hprotocol, isWord_of_word? hsource,
    isWord_of_word? hsourcePort, isWord_of_word? hdirection, isWord_of_word? htarget, htargetPort,
    fun w hw => absurd hw List.not_mem_nil⟩

/-- A line that begins with a word and ends with a parenthesis has nothing to trim. -/
theorem trim_word_append {w : List Char} (hw : IsWord w) (rest : List Char) :
    trim (w ++ rest ++ [')']) = w ++ rest ++ [')'] := by
  refine (strip_eq_self_iff _).mpr ((hasClearEnds_iff _).mpr ⟨?_, ?_⟩)
  · intro c hc
    obtain ⟨d, tail, rfl⟩ := List.exists_cons_of_ne_nil hw.1
    rw [List.cons_append, List.cons_append, List.head?_cons, Option.some.injEq] at hc
    subst hc
    exact hw.2 d List.mem_cons_self
  · intro c hc
    rw [List.getLast?_concat, Option.some.injEq] at hc
    subst hc
    decide

/-- A frame's line begins with its action and ends with a parenthesis. -/
theorem chars_eq_append (f : Frame) :
    f.chars =
      f.action ++ (' ' :: joined [' '] f.header.tail ++ ' ' :: '(' :: f.body) ++ [')'] := by
  simp [chars, header, joined]

theorem trim_chars (f : Frame) (haction : IsWord f.action) : trim f.chars = f.chars := by
  rw [chars_eq_append]
  exact trim_word_append haction _

end Frame

/-! ## The line of a rule -/

namespace Rule

/-- The frame that a rule is written in. -/
def frame (r : Rule) : Frame :=
  ⟨spelled r.action, spelled r.protocol, r.sourceAddress.toList, r.sourcePort.toList,
    spelled r.direction, r.targetAddress.toList, r.targetPort.toList, OptionList.chars r.clauses⟩

theorem chars_frame (r : Rule) : r.frame.chars = r.chars := rfl

theorem rule_frame (r : Rule) :
    r.frame.rule =
      .ok (r.headerOnly.applyAll (OptionList.clauses (OptionList.chars r.clauses))) := by
  simp only [Frame.rule, frame, headerKeyword, Vocabulary.ofWord, ofWord?_spelled,
    String.ofList_toList]
  rfl

theorem isEmptyOrComment_chars (r : Rule) : isEmptyOrComment r.chars = false := by
  have hplain := isPlain_spelled r.action
  obtain ⟨c, tail, hc⟩ := List.exists_cons_of_ne_nil (isWord_spelled r.action).1
  have hne : c ≠ '#' := ne_of_isPlain (hplain c (hc ▸ List.mem_cons_self)) (by decide)
  -- the line begins as the action does
  have hchars : ∃ rest, r.chars = c :: rest := by
    simp only [chars, header, joined, hc, List.cons_append]
    exact ⟨_, rfl⟩
  obtain ⟨rest, hrest⟩ := hchars
  rw [hrest]
  simp [isEmptyOrComment, hne]

/-- A rule whose frame is sound is read from its line by applying its option list. -/
theorem parse_encode_of_isSound {r : Rule} (h : r.frame.IsSound) :
    Rule.parse r.encode =
      .ok (r.headerOnly.applyAll (OptionList.clauses (OptionList.chars r.clauses))) := by
  have htrim := r.frame.trim_chars (isWord_spelled r.action)
  have hline := Frame.ofLine?_chars h
  rw [chars_frame] at htrim hline
  rw [parse, encode, String.toList_ofList]
  simp only [ofChars, htrim, isEmptyOrComment_chars, Bool.false_eq_true, if_false, hline,
    rule_frame]

/-! ## Rules read from a line -/

theorem header_apply (s : Rule) (c : Clause) : (c.apply s).header = s.header := by
  cases c with
  | text o v => cases o <;> rfl
  | number o v => cases o <;> rfl
  | content negated v => rfl
  | nocase => rfl
  | threshold parts =>
      have hparts : ∀ t : Rule, (parts.foldl ThresholdPart.apply t).header = t.header := by
        induction parts with
        | nil => exact fun t => rfl
        | cons p parts ih =>
            intro t
            rw [List.foldl_cons, ih]
            cases p <;> rfl
      exact hparts s

/-- Options leave the header as it is. -/
theorem header_applyAll (s : Rule) (ds : List Clause) : (s.applyAll ds).header = s.header := by
  induction ds generalizing s with
  | nil => rfl
  | cons d ds ih => exact (ih (d.apply s)).trans (header_apply s d)

theorem eq_spelled_of_headerKeyword {α : Type} [Vocabulary α] {word : List Char} {a : α}
    (h : headerKeyword α word = .ok a) : word = spelled a := by
  unfold headerKeyword Vocabulary.ofWord at h
  split at h
  · next b hb =>
      obtain rfl := Except.ok.inj h
      exact eq_spelled_of_ofWord? hb
  · cases h

/-- The rule of a frame is its header with the option list applied. -/
theorem exists_of_rule_eq_ok {f : Frame} {r : Rule} (h : f.rule = .ok r) :
    ∃ s : Rule, s.headerOnly = s ∧ s.header = f.header ∧
      r = s.applyAll (OptionList.clauses f.body) := by
  simp only [Frame.rule, bind, Except.bind, pure, Except.pure] at h
  split at h
  · exact absurd h (by simp)
  · next action haction =>
      split at h
      · exact absurd h (by simp)
      · next protocol hprotocol =>
          split at h
          · exact absurd h (by simp)
          · next direction hdirection =>
              refine ⟨_, rfl, ?_, (Except.ok.inj h).symm⟩
              rw [header, Frame.header, eq_spelled_of_headerKeyword haction,
                eq_spelled_of_headerKeyword hprotocol, eq_spelled_of_headerKeyword hdirection]
              simp only [String.toList_ofList]

/-- A rule that is read comes from a sound frame. -/
theorem exists_frame_of_parse {line : String} {r : Rule} (h : Rule.parse line = .ok r) :
    ∃ f : Frame, f.IsSound ∧ f.rule = .ok r := by
  simp only [parse, ofChars] at h
  split at h
  · exact absurd h (by simp)
  · split at h
    · exact absurd h (by simp)
    · next f hf => exact ⟨f, Frame.isSound_of_ofLine? hf, h⟩

/-- What is read from a line has words for its header. -/
theorem isWord_header_of_parse {line : String} {r : Rule} (h : Rule.parse line = .ok r) :
    ∀ w ∈ r.header, IsWord w := by
  obtain ⟨f, hsound, hrule⟩ := exists_frame_of_parse h
  obtain ⟨s, -, hheader, rfl⟩ := exists_of_rule_eq_ok hrule
  rw [header_applyAll, hheader]
  exact hsound.isWord_of_mem_header

end Rule

end RuleDesk
