import RuleDesk.Proofs.Rule.OptionDeletion

/-!
# Known keys

Options are known by sixteen keys. They are the keys behind which something can be read
(`OptionList.mem_knownKeys_iff`), and each clause begins with its own (`Clause.optionKey_chars`).
-/

set_option autoImplicit false

namespace RuleDesk

open RuleDesk.Text

/-- What a known option is about. -/
inductive OptionKey where
  | message
  | flow
  | content
  | nocase
  | depth
  | offset
  | distance
  | within
  | pcre
  | classtype
  | priority
  | reference
  | metadata
  | threshold
  | sid
  | revision
  deriving DecidableEq, Repr

/-- The order of the members is the order in which a rule writes its options. -/
instance : Vocabulary OptionKey where
  noun := "option key"
  all := [.message, .flow, .content, .nocase, .depth, .offset, .distance, .within, .pcre,
    .classtype, .priority, .reference, .metadata, .threshold, .sid, .revision]
  spelling
    | .message => "msg"
    | .flow => "flow"
    | .content => "content"
    | .nocase => "nocase"
    | .depth => "depth"
    | .offset => "offset"
    | .distance => "distance"
    | .within => "within"
    | .pcre => "pcre"
    | .classtype => "classtype"
    | .priority => "priority"
    | .reference => "reference"
    | .metadata => "metadata"
    | .threshold => "threshold"
    | .sid => "sid"
    | .revision => "rev"

instance : LawfulVocabulary OptionKey where
  ofWord?_spelling k := by cases k <;> rfl
  spelled_ne_nil k := by cases k <;> decide
  all_isPlain k := by cases k <;> decide

theorem OptionKey.mem_all (k : OptionKey) : k ∈ (Vocabulary.all : List OptionKey) := by
  cases k <;> decide

/-- The keys that options are known by, in the order in which a rule writes them. -/
def OptionList.knownKeys : List (List Char) :=
  (Vocabulary.all : List OptionKey).map spelled

/-! ## What clauses are about -/

/-- What an option with text is about. -/
def TextOption.about : TextOption → OptionKey
  | .message => .message
  | .classtype => .classtype
  | .reference => .reference
  | .metadata => .metadata
  | .pcre => .pcre
  | .flow => .flow

/-- What an option with a number is about. -/
def NumberOption.about : NumberOption → OptionKey
  | .sid => .sid
  | .revision => .revision
  | .priority => .priority
  | .depth => .depth
  | .offset => .offset
  | .distance => .distance
  | .within => .within

namespace Clause

/-- What a clause is about. -/
def about : Clause → OptionKey
  | .text o _ => o.about
  | .number o _ => o.about
  | .content _ _ => .content
  | .nocase => .nocase
  | .threshold _ => .threshold

theorem key_eq_spelled (c : Clause) : c.key = spelled c.about := by
  cases c with
  | text o v => cases o <;> rfl
  | number o v => cases o <;> rfl
  | content negated v => rfl
  | nocase => rfl
  | threshold parts => rfl

theorem key_mem_knownKeys (c : Clause) : c.key ∈ OptionList.knownKeys := by
  rw [key_eq_spelled]
  exact List.mem_map_of_mem c.about.mem_all

theorem isPlain_key (c : Clause) : ∀ x ∈ c.key, isPlain x = true := by
  rw [key_eq_spelled]
  exact isPlain_spelled c.about

theorem key_ne_nil (c : Clause) : c.key ≠ [] := by
  rw [key_eq_spelled]
  exact (isWord_spelled c.about).1

/-- Behind its key a clause has nothing, or a colon and its value. -/
theorem chars_eq_key (c : Clause) : c.chars = c.key ∨ ∃ value, c.chars = c.key ++ ':' :: value := by
  cases c with
  | text o v =>
      cases ho : o.isQuoted with
      | true => exact Or.inr ⟨_, chars_quoted ho v⟩
      | false => exact Or.inr ⟨_, chars_bare ho v⟩
  | number o v => exact Or.inr ⟨_, rfl⟩
  | content negated v => exact Or.inr ⟨_, chars_content negated v⟩
  | nocase => exact Or.inl rfl
  | threshold parts => exact Or.inr ⟨_, rfl⟩

/-- The key is found in the text of a clause, whatever the value is. -/
theorem optionKey_chars (c : Clause) : OptionList.optionKey c.chars = c.key := by
  have hcolon : ':' ∉ c.key := not_mem_of_isPlain c.isPlain_key (by decide)
  have htrim : trim c.key = c.key := trim_of_isPlain c.isPlain_key
  rcases c.chars_eq_key with h | ⟨value, h⟩
  · simp only [OptionList.optionKey, h, htrim, cutAt?_of_not_mem hcolon]
  · have hcut := cutAt?_append hcolon (stripRight isBlank value)
    simp only [OptionList.optionKey, h, trim_keyed c.key_ne_nil c.isPlain_key, hcut, htrim]

/-- No blank stands before the text of a clause. -/
theorem dropWhile_chars (c : Clause) : c.chars.dropWhile isBlank = c.chars := by
  obtain ⟨x, rest, hkey⟩ := List.exists_cons_of_ne_nil c.key_ne_nil
  have hx : isBlank x = false := by
    apply isBlank_of_isPlain
    apply c.isPlain_key
    rw [hkey]
    exact List.mem_cons_self
  rcases c.chars_eq_key with h | ⟨value, h⟩
  · rw [h, hkey, List.dropWhile_cons_of_neg (by simp [hx])]
  · rw [h, hkey, List.cons_append, List.dropWhile_cons_of_neg (by simp [hx])]

end Clause

/-! ## What is read -/

namespace OptionList

/-- A known key is one behind which something can be read. -/
theorem mem_knownKeys_iff (key : List Char) :
    key ∈ knownKeys ↔ ∃ value c, Clause.ofKey? key value = some c := by
  constructor
  · intro h
    obtain ⟨k, -, rfl⟩ := List.mem_map.mp h
    refine ⟨['0'], ?_⟩
    cases k <;> exact ⟨_, rfl⟩
  · rintro ⟨value, c, hread⟩
    rw [← Clause.key_of_ofKey? hread]
    exact c.key_mem_knownKeys

/-- What is read from an option has the key of the option. -/
theorem key_of_read? {option : List Char} {c : Clause} (h : Clause.read? option = some c) :
    c.key = optionKey option := by
  obtain ⟨value, hread⟩ := Clause.exists_read?_eq option
  rw [hread] at h
  exact Clause.key_of_ofKey? h

end OptionList

end RuleDesk
