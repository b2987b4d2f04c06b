import RuleDesk.Proofs.Rule.TightLines

/-!
# Lines with a space before the option list

Between the seventh header word and the parenthesis of the option list a line may have blank
characters. Where it has, the seventh word cannot go on behind them, so nothing else can be read
from the line than its parts, whatever the option list holds (`SpacedLine.parse_eq`). An accepted
line either is of this kind or has the parenthesis right behind the seventh word
(`exists_line_of_parse`).
-/

set_option autoImplicit false

namespace RuleDesk

open RuleDesk.Text

/-- A line in its parts: blank characters or none, the header words of a frame, a gap, the body of
the frame in parentheses, and blank characters or none. -/
structure SpacedLine where
  lead : List Char
  frame : Frame
  header : List Char
  gap : List Char
  trail : List Char
  lead_blank : ∀ c ∈ lead, isBlank c = true
  header_spaced : IsSpaced frame.header header
  gap_isGap : IsGap gap
  body_ne_nil : frame.body ≠ []
  body_oneLine : '\n' ∉ frame.body
  trail_blank : ∀ c ∈ trail, isBlank c = true

namespace SpacedLine

variable (l : SpacedLine)

/-- The characters of a line without the blank ones around it. -/
def core : List Char :=
  l.header ++ (l.gap ++ '(' :: (l.frame.body ++ [')']))

/-- The text of the line with another option list. -/
def textWith (body : List Char) : String :=
  String.ofList (l.lead ++ (l.header ++ (l.gap ++ '(' :: (body ++ [')']))) ++ l.trail)

/-- The line as text. -/
def text : String :=
  l.textWith l.frame.body

/-- The line with another option list. -/
def withBody (body : List Char) (hne : body ≠ []) (hline : '\n' ∉ body) : SpacedLine :=
  { l with
    frame := { l.frame with body := body }
    header_spaced := l.header_spaced
    body_ne_nil := hne
    body_oneLine := hline }

/-- The line of a frame with single spaces. -/
def ofFrame (f : Frame) (h : f.IsSound) : SpacedLine where
  lead := []
  frame := f
  header := joined [' '] f.header
  gap := [' ']
  trail := []
  lead_blank := fun _ hc => absurd hc List.not_mem_nil
  header_spaced := isSpaced_joined (List.cons_ne_nil _ _) h.isWord_of_mem_header
  gap_isGap := isGap_space
  body_ne_nil := h.body_ne_nil
  body_oneLine := h.body_oneLine
  trail_blank := fun _ hc => absurd hc List.not_mem_nil

theorem text_withBody {body : List Char} (hne : body ≠ []) (hline : '\n' ∉ body) :
    (l.withBody body hne hline).text = l.textWith body := rfl

/-! ## Reading the parts -/

theorem exists_action_append :
    IsWord l.frame.action ∧ ∃ rest, l.core = l.frame.action ++ rest ++ [')'] := by
  obtain ⟨tail, hword, hheader⟩ :
      ∃ tail, IsWord l.frame.action ∧ l.header = l.frame.action ++ tail := by
    have hspaced := l.header_spaced
    generalize l.header = header at hspaced
    rw [Frame.header] at hspaced
    cases hspaced with
    | cons hw _ _ => exact ⟨_, hw, rfl⟩
  refine ⟨hword, tail ++ (l.gap ++ '(' :: l.frame.body), ?_⟩
  rw [core, hheader]
  simp only [List.append_assoc, List.cons_append]

theorem trim_text : trim l.text.toList = l.core := by
  obtain ⟨hword, rest, hcore⟩ := l.exists_action_append
  have hchars : l.text.toList = l.lead ++ l.core ++ l.trail := String.toList_ofList
  rw [hchars, trim, strip_append_of_all _ l.lead_blank l.trail_blank, hcore]
  exact Frame.trim_word_append hword rest

theorem fits_core : l.frame.Fits l.core :=
  ⟨l.header, _, l.header_spaced, .intro l.gap_isGap.2 l.body_ne_nil l.body_oneLine, rfl⟩

/-- No seventh word can reach into the gap. -/
theorem fitsLongest_core : l.frame.FitsLongest l.core := by
  refine ⟨l.fits_core, ?_⟩
  intro g hg
  obtain ⟨rest, hreads, hport, -⟩ := Frame.fits_iff.mp hg
  have hspaced := l.header_spaced
  rw [Frame.header_eq] at hspaced
  obtain ⟨-, hreads'⟩ := readsWords_of_isSpaced hspaced (l.gap ++ '(' :: (l.frame.body ++ [')']))
  obtain ⟨-, htail⟩ := hreads.unique hreads' rfl
  -- a longer word would begin with the whole shorter one and the first blank character behind it
  rcases List.append_eq_append_iff.mp htail with ⟨more, hlonger, -⟩ | ⟨more, hlonger, hgap⟩
  · rw [hlonger, List.length_append]
    exact Nat.le_add_right _ _
  · cases more with
    | nil => rw [hlonger, List.append_nil]
    | cons c more =>
        obtain ⟨b, blanks, hblanks⟩ := List.exists_cons_of_ne_nil l.gap_isGap.1
        rw [hblanks, List.cons_append, List.cons_append, List.cons.injEq] at hgap
        have hblank : isBlank c = true :=
          l.gap_isGap.2 c (by rw [hblanks, hgap.1]; exact List.mem_cons_self)
        have hword : isBlank c = false :=
          hport.2 c (by rw [hlonger]; exact List.mem_append_right _ List.mem_cons_self)
        rw [hblank] at hword
        cases hword

/-- A line is read as its frame, unless it is a comment. -/
theorem parse_eq :
    Rule.parse l.text =
      if l.frame.action.head? = some '#' then .error .empty else l.frame.rule := by
  obtain ⟨hword, rest, hcore⟩ := l.exists_action_append
  have htrim := l.trim_text
  have hlongest := l.fitsLongest_core
  rw [hcore, List.append_assoc] at htrim hlongest
  exact Rule.parse_of_fitsLongest hword htrim hlongest

end SpacedLine

/-! ## Accepted lines -/

/-- An accepted line has a gap before its option list, or the option list stands right behind the
seventh word. -/
theorem exists_line_of_parse {line : String} {r : Rule} (h : Rule.parse line = .ok r) :
    (∃ l : SpacedLine, l.text = line ∧ l.frame.rule = .ok r) ∨
      ∃ f : Frame, f.FitsLongest (trim line.toList) ∧ f.rule = .ok r ∧
        ∃ header, IsSpaced f.header header ∧
          trim line.toList = header ++ '(' :: (f.body ++ [')']) := by
  rcases Rule.parse_cases line with ⟨-, hparse⟩ | ⟨-, -, hparse⟩ | ⟨-, f, hf, hparse⟩
  · rw [hparse] at h
    cases h
  · rw [hparse] at h
    cases h
  · rw [hparse] at h
    obtain ⟨header, rest, hspaced, henclosed, hcore⟩ := hf.1
    obtain @⟨gap, hblank, hne, hline⟩ := henclosed
    by_cases hgap : gap = []
    · subst hgap
      exact .inr ⟨f, hf, h, header, hspaced, hcore⟩
    · obtain ⟨lead, trail, hchars, hlead, htrail⟩ := exists_append_strip isBlank line.toList
      refine .inl ⟨⟨lead, f, header, gap, trail, hlead, hspaced, ⟨hgap, hblank⟩, hne, hline, htrail⟩,
        ?_, h⟩
      have hlineChars : lead ++ (header ++ (gap ++ '(' :: (f.body ++ [')']))) ++ trail =
          line.toList := by
        rw [← hcore]
        exact hchars.symm
      show String.ofList (lead ++ (header ++ (gap ++ '(' :: (f.body ++ [')']))) ++ trail) = line
      rw [hlineChars, String.ofList_toList]

end RuleDesk
