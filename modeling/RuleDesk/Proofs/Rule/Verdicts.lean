import RuleDesk.Proofs.Outcomes
import RuleDesk.Proofs.Rule.Grammar

/-!
# Verdicts on a line

Reading a line has four outcomes: the line is empty or a comment, it has no frame, one of its
header words is no keyword, or it is a rule. Here each outcome is tied to a condition on the
trimmed line that speaks of its grammar alone. The conditions exclude each other and leave no line
out.
-/

set_option autoImplicit false

namespace RuleDesk

open RuleDesk.Text

/-! ## Header keywords -/

namespace Frame

/-- The first header word that should be a keyword and is none. -/
inductive FirstUnknown (f : Frame) : UnknownKeyword → Prop where
  | action (h : ∀ a : Action, f.action ≠ spelled a) :
      FirstUnknown f ⟨"action", String.ofList f.action⟩
  | protocol (haction : ∃ a : Action, f.action = spelled a)
      (h : ∀ p : Protocol, f.protocol ≠ spelled p) :
      FirstUnknown f ⟨"protocol", String.ofList f.protocol⟩
  | direction (haction : ∃ a : Action, f.action = spelled a)
      (hprotocol : ∃ p : Protocol, f.protocol = spelled p)
      (h : ∀ d : Direction, f.direction ≠ spelled d) :
      FirstUnknown f ⟨"direction", String.ofList f.direction⟩

/-- All header words that should be keywords are. -/
structure HasKeywords (f : Frame) : Prop where
  action : ∃ a : Action, f.action = spelled a
  protocol : ∃ p : Protocol, f.protocol = spelled p
  direction : ∃ d : Direction, f.direction = spelled d

end Frame

section Keyword

variable {α : Type} [Vocabulary α] [LawfulVocabulary α] {word : List Char}

theorem headerKeyword_eq_ok_iff {a : α} : headerKeyword α word = .ok a ↔ word = spelled a := by
  constructor
  · exact Rule.eq_spelled_of_headerKeyword
  · rintro rfl
    simp only [headerKeyword, Vocabulary.ofWord, ofWord?_spelled]
    rfl

theorem headerKeyword_eq_error_iff {e : LineError} :
    headerKeyword α word = .error e ↔
      (∀ a : α, word ≠ spelled a) ∧ e = .keyword ⟨Vocabulary.noun α, String.ofList word⟩ := by
  have hword : ∀ a : α, headerKeyword α word = .ok a ↔ word = spelled a :=
    fun _ => headerKeyword_eq_ok_iff
  cases h : headerKeyword α word with
  | ok a =>
      have ha : word = spelled a := (hword a).mp h
      constructor
      · intro herror
        cases herror
      · rintro ⟨hnone, -⟩
        exact absurd ha (hnone a)
  | error d =>
      have hnone : ∀ a : α, word ≠ spelled a := by
        intro a ha
        rw [(hword a).mpr ha] at h
        cases h
      have hd : d = .keyword ⟨Vocabulary.noun α, String.ofList word⟩ := by
        unfold headerKeyword Vocabulary.ofWord at h
        split at h
        · cases h
        · cases h
          rfl
      subst hd
      constructor
      · intro herror
        cases herror
        exact ⟨hnone, rfl⟩
      · rintro ⟨-, rfl⟩
        rfl

end Keyword

namespace Frame

variable {f : Frame}

/-- A frame is refused for the first of its words that should be a keyword and is none. -/
theorem rule_eq_error_iff {e : LineError} :
    f.rule = .error e ↔ ∃ u, e = .keyword u ∧ f.FirstUnknown u := by
  simp only [rule, bind_eq_error_iff, headerKeyword_eq_ok_iff, headerKeyword_eq_error_iff]
  constructor
  · rintro (⟨hnone, rfl⟩ | ⟨a, ha, ⟨hnone, rfl⟩ | ⟨p, hp, ⟨hnone, rfl⟩ | ⟨d, -, hpure⟩⟩⟩)
    · exact ⟨_, rfl, .action hnone⟩
    · exact ⟨_, rfl, .protocol ⟨a, ha⟩ hnone⟩
    · exact ⟨_, rfl, .direction ⟨a, ha⟩ ⟨p, hp⟩ hnone⟩
    · cases hpure
  · rintro ⟨u, rfl, hu⟩
    cases hu with
    | action hnone => exact .inl ⟨hnone, rfl⟩
    | protocol haction hnone =>
        obtain ⟨a, ha⟩ := haction
        exact .inr ⟨a, ha, .inl ⟨hnone, rfl⟩⟩
    | direction haction hprotocol hnone =>
        obtain ⟨a, ha⟩ := haction
        obtain ⟨p, hp⟩ := hprotocol
        exact .inr ⟨a, ha, .inr ⟨p, hp, .inl ⟨hnone, rfl⟩⟩⟩

/-- A frame whose words are in order gives a rule with these words for its header. -/
theorem exists_rule_iff {ws : List (List Char)} :
    (∃ r, f.rule = .ok r ∧ r.header = ws) ↔ f.HasKeywords ∧ f.header = ws := by
  constructor
  · rintro ⟨r, hrule, rfl⟩
    obtain ⟨s, -, hheader, rfl⟩ := Rule.exists_of_rule_eq_ok hrule
    rw [Rule.header_applyAll]
    refine ⟨?_, hheader.symm⟩
    simp only [Rule.header, header, List.cons.injEq] at hheader
    obtain ⟨haction, hprotocol, -, -, hdirection, -⟩ := hheader
    exact ⟨⟨_, haction.symm⟩, ⟨_, hprotocol.symm⟩, ⟨_, hdirection.symm⟩⟩
  · rintro ⟨hkeywords, rfl⟩
    -- no word is unknown, so the frame is not refused
    cases hrule : f.rule with
    | ok r =>
        obtain ⟨s, -, hheader, rfl⟩ := Rule.exists_of_rule_eq_ok hrule
        exact ⟨_, rfl, (Rule.header_applyAll s _).trans hheader⟩
    | error e =>
        obtain ⟨u, -, hu⟩ := rule_eq_error_iff.mp hrule
        obtain ⟨⟨a, ha⟩, ⟨p, hp⟩, ⟨d, hd⟩⟩ := hkeywords
        cases hu with
        | action hnone => exact absurd ha (hnone a)
        | protocol _ hnone => exact absurd hp (hnone p)
        | direction _ _ hnone => exact absurd hd (hnone d)

end Frame

/-! ## Lines -/

namespace Rule

/-- Whether a trimmed line is empty or a comment. -/
def IsVoid (line : List Char) : Prop :=
  line = [] ∨ line.head? = some '#'

theorem isEmptyOrComment_iff (line : List Char) : isEmptyOrComment line = true ↔ IsVoid line := by
  unfold IsVoid
  cases line with
  | nil => simp [isEmptyOrComment]
  | cons c rest =>
      by_cases hc : c = '#'
      · subst hc
        simp [isEmptyOrComment]
      · simp [isEmptyOrComment, hc]

/-- The three ways in which the reading of a line ends or goes on to the words of its frame. -/
theorem parse_cases (line : String) :
    (IsVoid (trim line.toList) ∧ Rule.parse line = .error .empty) ∨
      (¬ IsVoid (trim line.toList) ∧ (∀ f : Frame, ¬ f.Fits (trim line.toList)) ∧
        Rule.parse line = .error .noFrame) ∨
      (¬ IsVoid (trim line.toList) ∧
        ∃ f : Frame, f.FitsLongest (trim line.toList) ∧ Rule.parse line = f.rule) := by
  rw [← isEmptyOrComment_iff]
  cases hvoid : isEmptyOrComment (trim line.toList) with
  | true => exact .inl ⟨rfl, by simp only [parse, ofChars, hvoid, if_true]⟩
  | false =>
      cases hframe : Frame.ofLine? (trim line.toList) with
      | none =>
          refine .inr (.inl ⟨Bool.false_ne_true, Frame.ofLine?_eq_none_iff.mp hframe, ?_⟩)
          simp only [parse, ofChars, hvoid, hframe, Bool.false_eq_true, if_false]
      | some f =>
          refine .inr (.inr ⟨Bool.false_ne_true, f, Frame.ofLine?_eq_some_iff.mp hframe, ?_⟩)
          simp only [parse, ofChars, hvoid, hframe, Bool.false_eq_true, if_false]

/-- A line is refused as empty exactly if nothing is left of it or a comment sign comes first. -/
theorem parse_eq_empty_iff (line : String) :
    Rule.parse line = .error .empty ↔ IsVoid (trim line.toList) := by
  rcases parse_cases line with ⟨hvoid, hparse⟩ | ⟨hvoid, -, hparse⟩ | ⟨hvoid, f, -, hparse⟩
  · simp only [hparse, hvoid]
  · simp [hparse, hvoid]
  · rw [hparse, Frame.rule_eq_error_iff]
    constructor
    · rintro ⟨u, hu, -⟩
      cases hu
    · intro h
      exact absurd h hvoid

/-- A line is refused for its structure exactly if it is neither empty nor a comment and fits no
frame. -/
theorem parse_eq_noFrame_iff (line : String) :
    Rule.parse line = .error .noFrame ↔
      ¬ IsVoid (trim line.toList) ∧ ¬ ∃ f : Frame, f.Fits (trim line.toList) := by
  rcases parse_cases line with ⟨hvoid, hparse⟩ | ⟨hvoid, hnone, hparse⟩ | ⟨-, f, hf, hparse⟩
  · simp [hparse, hvoid]
  · rw [← not_exists] at hnone
    exact iff_of_true hparse ⟨hvoid, hnone⟩
  · rw [hparse, Frame.rule_eq_error_iff]
    constructor
    · rintro ⟨u, hu, -⟩
      cases hu
    · rintro ⟨-, hnone⟩
      exact absurd ⟨f, hf.1⟩ hnone

/-- A line is refused for a keyword exactly if it is the first unknown one of its frame. -/
theorem parse_eq_keyword_iff (line : String) (u : UnknownKeyword) :
    Rule.parse line = .error (.keyword u) ↔
      ¬ IsVoid (trim line.toList) ∧
        ∃ f : Frame, f.FitsLongest (trim line.toList) ∧ f.FirstUnknown u := by
  rcases parse_cases line with ⟨hvoid, hparse⟩ | ⟨-, hnone, hparse⟩ | ⟨hvoid, f, hf, hparse⟩
  · simp [hparse, hvoid]
  · rw [hparse]
    constructor
    · intro h
      cases h
    · rintro ⟨-, f, hf, -⟩
      exact absurd hf.1 (hnone f)
  · rw [hparse, Frame.rule_eq_error_iff]
    constructor
    · rintro ⟨v, hv, hunknown⟩
      cases hv
      exact ⟨hvoid, f, hf, hunknown⟩
    · rintro ⟨-, g, hg, hunknown⟩
      exact ⟨u, rfl, hg.unique hf ▸ hunknown⟩

/-- A line is a rule with given header words exactly if they are those of its frame and are in
order. -/
theorem exists_parse_eq_ok_iff (line : String) (ws : List (List Char)) :
    (∃ r, Rule.parse line = .ok r ∧ r.header = ws) ↔
      ¬ IsVoid (trim line.toList) ∧
        ∃ f : Frame, f.FitsLongest (trim line.toList) ∧ f.HasKeywords ∧ f.header = ws := by
  rcases parse_cases line with ⟨hvoid, hparse⟩ | ⟨-, hnone, hparse⟩ | ⟨hvoid, f, hf, hparse⟩
  · simp [hparse, hvoid]
  · rw [hparse]
    constructor
    · rintro ⟨r, hr, -⟩
      cases hr
    · rintro ⟨-, f, hf, -⟩
      exact absurd hf.1 (hnone f)
  · rw [hparse, Frame.exists_rule_iff]
    constructor
    · intro h
      exact ⟨hvoid, f, hf, h⟩
    · rintro ⟨-, g, hg, h⟩
      exact hg.unique hf ▸ h

/-- What reading a line gives, by the grammar of its trimmed text: each of the four outcomes has a
condition of its own. The frame that is used is the one with the longest seventh word, of which
there is exactly one if the text fits any. A header that is split at its blank characters gives the
seven words of its frame again, so a line that has a frame never has another number of them. -/
theorem parse_classifies (line : String) :
    (Rule.parse line = .error .empty ↔ IsVoid (trim line.toList)) ∧
    (Rule.parse line = .error .noFrame ↔
      ¬ IsVoid (trim line.toList) ∧ ¬ ∃ f : Frame, f.Fits (trim line.toList)) ∧
    (∀ u, Rule.parse line = .error (.keyword u) ↔
      ¬ IsVoid (trim line.toList) ∧
        ∃ f : Frame, f.FitsLongest (trim line.toList) ∧ f.FirstUnknown u) ∧
    (∀ ws, (∃ r, Rule.parse line = .ok r ∧ r.header = ws) ↔
      ¬ IsVoid (trim line.toList) ∧
        ∃ f : Frame, f.FitsLongest (trim line.toList) ∧ f.HasKeywords ∧ f.header = ws) ∧
    ((∃ f : Frame, f.Fits (trim line.toList)) →
      ∃! f : Frame, f.FitsLongest (trim line.toList)) ∧
    ∀ (f : Frame) (header : List Char), IsSpaced f.header header → words header = f.header := by
  refine ⟨parse_eq_empty_iff line, parse_eq_noFrame_iff line, parse_eq_keyword_iff line,
    exists_parse_eq_ok_iff line, ?_, fun f header h => h.words_eq⟩
  rintro ⟨f, hf⟩
  obtain ⟨g, hg, -⟩ := Frame.exists_ofLine?_of_fits hf
  have hlongest : g.FitsLongest (trim line.toList) := Frame.ofLine?_eq_some_iff.mp hg
  exact ⟨g, hlongest, fun g' hg' => hg'.unique hlongest⟩

/-- A parenthesis in the last word of a header: the body could begin there, and it does not. -/
theorem parse_opened_port :
    ∃ f : Frame, f.FitsLongest (trim " alert tcp any any -> any a(b (sid:7;)".toList) ∧
      f.HasKeywords ∧
      f.header = ["alert", "tcp", "any", "any", "->", "any", "a(b"].map String.toList := by
  obtain ⟨-, -, -, hok, -⟩ := parse_classifies " alert tcp any any -> any a(b (sid:7;)"
  have hread : Rule.parse " alert tcp any any -> any a(b (sid:7;)" =
      .ok { targetPort := "a(b", sid := 7 } := by decide
  exact ((hok _).mp ⟨_, hread, by decide⟩).2

end Rule

end RuleDesk
