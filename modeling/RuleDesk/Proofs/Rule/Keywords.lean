import RuleDesk.Proofs.Text.Numerals
import RuleDesk.Proofs.Text.Splitting
import RuleDesk.Proofs.Text.Stripping
import RuleDesk.Rule.Clause

/-!
# Keywords read back

The spellings of a vocabulary are distinct and consist of plain characters, which mean nothing to
any stage that cuts a line of rule text. So each keyword is read back as what it was written for,
and the canonical text of a flow set is read back as the set.
-/

set_option autoImplicit false

namespace RuleDesk

open RuleDesk.Text

/-! ## Plain characters -/

/-- An ASCII letter or digit, an underscore, or a character of an arrow. -/
def isPlain (c : Char) : Bool :=
  c.isAlphanum || c == '_' || c == '-' || c == '<' || c == '>'

theorem isPlain_of_isAsciiDigit {c : Char} (h : isAsciiDigit c = true) : isPlain c = true := by
  have hdigit : c.isDigit = true := by
    simp only [isAsciiDigit, Bool.and_eq_true, decide_eq_true_eq] at h
    simp only [Char.isDigit, Bool.and_eq_true, decide_eq_true_eq]
    exact h
  simp [isPlain, Char.isAlphanum, hdigit]

theorem isPlain_numeral (n : Nat) : ∀ c ∈ numeral n, isPlain c = true :=
  fun _ hc => isPlain_of_isAsciiDigit (isAsciiDigit_of_mem_numeral hc)

theorem toNat_of_isPlain {c : Char} (h : isPlain c = true) :
    c.toNat = 45 ∨ (48 ≤ c.toNat ∧ c.toNat ≤ 57) ∨ c.toNat = 60 ∨ c.toNat = 62 ∨
      (65 ≤ c.toNat ∧ c.toNat ≤ 90) ∨ c.toNat = 95 ∨ (97 ≤ c.toNat ∧ c.toNat ≤ 122) := by
  simp only [isPlain, Char.isAlphanum, Char.isDigit, Bool.or_eq_true, Bool.and_eq_true,
    decide_eq_true_eq, beq_iff_eq, ge_iff_le, UInt32.le_iff_toNat_le] at h
  obtain ((((h | h) | h) | h) | h) | h := h
  · have hletter : (decide (65 ≤ c.val ∧ c.val ≤ 90) ||
        decide (97 ≤ c.val) && decide (c.val ≤ 122)) = true := h
    simp only [Bool.or_eq_true, Bool.and_eq_true, decide_eq_true_eq,
      UInt32.le_iff_toNat_le] at hletter
    have hlow : 65 ≤ c.toNat ∧ c.toNat ≤ 90 ∨ 97 ≤ c.toNat ∧ c.toNat ≤ 122 := hletter
    omega
  · have hdigit : 48 ≤ c.toNat ∧ c.toNat ≤ 57 := h
    omega
  · subst h; decide
  · subst h; decide
  · subst h; decide
  · subst h; decide

theorem isBlank_of_isPlain {c : Char} (h : isPlain c = true) : isBlank c = false := by
  have hc := toNat_of_isPlain h
  simp only [isBlank, Bool.or_eq_false_iff, Bool.and_eq_false_iff, decide_eq_false_iff_not,
    beq_eq_false_iff_ne]
  omega

theorem ne_of_isPlain {c d : Char} (h : isPlain c = true) (hd : isPlain d = false) : c ≠ d := by
  rintro rfl
  rw [h] at hd
  exact Bool.noConfusion hd

theorem not_mem_of_isPlain {s : List Char} (h : ∀ c ∈ s, isPlain c = true) {d : Char}
    (hd : isPlain d = false) : d ∉ s :=
  fun hmem => ne_of_isPlain (h d hmem) hd rfl

theorem isWord_of_isPlain {s : List Char} (hne : s ≠ []) (h : ∀ c ∈ s, isPlain c = true) :
    IsWord s :=
  ⟨hne, fun c hc => isBlank_of_isPlain (h c hc)⟩

theorem isWord_numeral (n : Nat) : IsWord (numeral n) :=
  isWord_of_isPlain (numeral_ne_nil n) (isPlain_numeral n)

/-- Stripping characters that are not plain leaves plain text as it is. -/
theorem strip_of_isPlain {p : Char → Bool} (hp : ∀ c, isPlain c = true → p c = false)
    {s : List Char} (h : ∀ c ∈ s, isPlain c = true) : strip p s = s :=
  (strip_eq_self_iff s).mpr (hasClearEnds_of_forall fun c hc => hp c (h c hc))

theorem trim_of_isPlain {s : List Char} (h : ∀ c ∈ s, isPlain c = true) : trim s = s :=
  strip_of_isPlain (fun _ => isBlank_of_isPlain) h

/-! ## Vocabularies -/

/-- A vocabulary whose spellings are distinct, not empty and plain. -/
class LawfulVocabulary (α : Type) [Vocabulary α] : Prop where
  ofWord?_spelling : ∀ a : α, Vocabulary.ofWord? (Vocabulary.spelling a) = some a
  spelled_ne_nil : ∀ a : α, spelled a ≠ []
  all_isPlain : ∀ a : α, (spelled a).all isPlain = true

instance : LawfulVocabulary Action where
  ofWord?_spelling a := by cases a <;> rfl
  spelled_ne_nil a := by cases a <;> decide
  all_isPlain a := by cases a <;> decide

instance : LawfulVocabulary Protocol where
  ofWord?_spelling a := by cases a <;> rfl
  spelled_ne_nil a := by cases a <;> decide
  all_isPlain a := by cases a <;> decide

instance : LawfulVocabulary Direction where
  ofWord?_spelling a := by cases a <;> rfl
  spelled_ne_nil a := by cases a <;> decide
  all_isPlain a := by cases a <;> decide

instance : LawfulVocabulary ThresholdType where
  ofWord?_spelling a := by cases a <;> rfl
  spelled_ne_nil a := by cases a <;> decide
  all_isPlain a := by cases a <;> decide

instance : LawfulVocabulary ThresholdTrack where
  ofWord?_spelling a := by cases a <;> rfl
  spelled_ne_nil a := by cases a <;> decide
  all_isPlain a := by cases a <;> decide

instance : LawfulVocabulary FlowOption where
  ofWord?_spelling a := by cases a <;> rfl
  spelled_ne_nil a := by cases a <;> decide
  all_isPlain a := by cases a <;> decide

instance : LawfulVocabulary TextOption where
  ofWord?_spelling a := by cases a <;> rfl
  spelled_ne_nil a := by cases a <;> decide
  all_isPlain a := by cases a <;> decide

instance : LawfulVocabulary NumberOption where
  ofWord?_spelling a := by cases a <;> rfl
  spelled_ne_nil a := by cases a <;> decide
  all_isPlain a := by cases a <;> decide

section Lawful

variable {α : Type} [Vocabulary α] [LawfulVocabulary α]

@[simp] theorem ofWord?_spelled (a : α) :
    Vocabulary.ofWord? (String.ofList (spelled a)) = some a := by
  rw [spelled, String.ofList_toList]
  exact LawfulVocabulary.ofWord?_spelling a

theorem spelled_inj {a b : α} (h : spelled a = spelled b) : a = b := by
  have hword := ofWord?_spelled a
  rw [h, ofWord?_spelled b] at hword
  exact (Option.some.inj hword).symm

theorem isPlain_spelled (a : α) : ∀ c ∈ spelled a, isPlain c = true :=
  List.all_eq_true.mp (LawfulVocabulary.all_isPlain a)

theorem isWord_spelled (a : α) : IsWord (spelled a) :=
  isWord_of_isPlain (LawfulVocabulary.spelled_ne_nil a) (isPlain_spelled a)

end Lawful

/-- What is read as a keyword is its spelling. -/
theorem eq_spelled_of_ofWord? {α : Type} [Vocabulary α] {word : List Char} {a : α}
    (h : Vocabulary.ofWord? (String.ofList word) = some a) : word = spelled a := by
  have hspelling := List.find?_some h
  rw [beq_iff_eq] at hspelling
  rw [spelled, hspelling, String.toList_ofList]

/-! ## Flow sets -/

namespace FlowSet

theorem ofList_toList (s : FlowSet) : ofList s.toList = s := by
  obtain ⟨a, b, c, d, e, f⟩ := s
  cases a <;> cases b <;> cases c <;> cases d <;> cases e <;> cases f <;> rfl

theorem filterMap_spelled (options : List FlowOption) :
    (options.map spelled).filterMap
      (fun piece => (Vocabulary.ofWord? (String.ofList (trim piece)) : Option FlowOption)) =
      options := by
  induction options with
  | nil => rfl
  | cons o options ih =>
      rw [List.map_cons, List.filterMap_cons, trim_of_isPlain (isPlain_spelled o),
        ofWord?_spelled, ih]

theorem pieces_chars (s : FlowSet) (h : s.toList ≠ []) :
    pieces ',' s.chars = s.toList.map spelled := by
  apply pieces_joined (fun hmap => h (List.map_eq_nil_iff.mp hmap))
  intro piece hpiece
  obtain ⟨o, -, rfl⟩ := List.mem_map.mp hpiece
  exact not_mem_of_isPlain (isPlain_spelled o) (by decide)

/-- A character of a flow set: plain or a comma. -/
theorem isPlain_of_mem_chars {s : FlowSet} {c : Char} (h : c ∈ s.chars) :
    isPlain c = true ∨ c = ',' := by
  rcases mem_joined h with hsep | ⟨piece, hpiece, hc⟩
  · exact Or.inr (List.mem_singleton.mp hsep)
  · obtain ⟨o, -, rfl⟩ := List.mem_map.mp hpiece
    exact Or.inl (isPlain_spelled o c hc)

theorem not_mem_chars {s : FlowSet} {c : Char} (hplain : isPlain c = false) (hcomma : c ≠ ',') :
    c ∉ s.chars := by
  intro hmem
  rcases isPlain_of_mem_chars hmem with h | h
  · exact Bool.noConfusion (h.symm.trans hplain)
  · exact hcomma h

/-- The canonical text of a flow set is read back as the set. -/
@[simp] theorem ofText_text (s : FlowSet) : ofText s.text = s := by
  conv_rhs => rw [← ofList_toList s]
  rw [ofText, text, String.toList_ofList]
  cases h : s.toList with
  | nil =>
      -- the empty text has one piece, which is no keyword
      have hchars : s.chars = [] := by rw [chars, h]; rfl
      rw [hchars]
      rfl
  | cons o options =>
      rw [pieces_chars s (by rw [h]; exact List.cons_ne_nil _ _), h, filterMap_spelled]

/-- A flow set has no text exactly if it has no option. -/
theorem isEmpty_text (s : FlowSet) : s.text.isEmpty = s.isEmpty := by
  rw [Bool.eq_iff_iff, String.isEmpty_iff]
  constructor
  · intro h
    have hset := ofText_text s
    rw [h] at hset
    rw [← hset]
    rfl
  · intro h
    rw [isEmpty, List.isEmpty_iff] at h
    rw [text, chars, h]
    rfl

end FlowSet

end RuleDesk
