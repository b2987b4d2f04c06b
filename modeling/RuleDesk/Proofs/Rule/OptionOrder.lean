import Mathlib.Data.List.Nodup
import RuleDesk.Proofs.Rule.KnownKeys
import RuleDesk.Proofs.Rule.QuoteToggles
import RuleDesk.Proofs.Rule.RepeatedOptions

/-!
# The order of options

Clauses with different keys set different fields, so they can be applied in any order. An option is
read by itself wherever it stands in a list, and one whose key is not known is passed over. So a
line gives the same rule however its options are arranged, as long as none of the known keys comes
twice, and whatever options with other keys stand among them (`SpacedLine.parse_arranged`).
-/

set_option autoImplicit false

namespace RuleDesk

open RuleDesk.Text

/-! ## Clauses that commute -/

namespace Clause

/-- A threshold commutes with all that its parts commute with. -/
theorem apply_threshold_comm {f : Rule → Rule}
    (h : ∀ (part : ThresholdPart) (s : Rule), part.apply (f s) = f (part.apply s))
    (parts : List ThresholdPart) (r : Rule) :
    (Clause.threshold parts).apply (f r) = f ((Clause.threshold parts).apply r) :=
  List.foldl_hom f fun s part => h part s

/-- Setting a number commutes with all clauses but those of its own option. -/
theorem apply_setNumber {c : Clause} {o : NumberOption} (h : c.key ≠ spelled o) (v : UInt32)
    (r : Rule) : c.apply (o.set v r) = o.set v (c.apply r) := by
  cases c with
  | text p w => cases p <;> cases o <;> rfl
  | number p w => cases p <;> cases o <;> first | rfl | exact absurd rfl h
  | content negated w => cases o <;> rfl
  | nocase => cases o <;> rfl
  | threshold parts =>
      apply apply_threshold_comm (f := fun s => o.set v s)
      intro part s
      cases part <;> cases o <;> rfl

/-- Marking the case commutes with all clauses. -/
theorem apply_nocase_comm (c : Clause) (r : Rule) :
    c.apply (Clause.nocase.apply r) = Clause.nocase.apply (c.apply r) := by
  cases c with
  | text o v => cases o <;> rfl
  | number o v => cases o <;> rfl
  | content negated v => rfl
  | nocase => rfl
  | threshold parts =>
      apply apply_threshold_comm (f := fun s => Clause.nocase.apply s)
      intro part s
      cases part <;> rfl

theorem content?_eq_none_of_key {c : Clause} (h : c.key ≠ "content".toList) :
    c.content? = none := by
  have hkey := c.key_eq_content
  rw [beq_eq_false_iff_ne.mpr h] at hkey
  exact Option.isNone_iff_eq_none.mp (Option.isSome_eq_false_iff.mp hkey.symm)

/-- Clauses with different keys can be applied in either order. -/
theorem apply_comm {c d : Clause} (h : c.key ≠ d.key) (r : Rule) :
    d.apply (c.apply r) = c.apply (d.apply r) := by
  cases c with
  | text o v => exact apply_set h.symm v r
  | number o v => exact apply_setNumber h.symm v r
  | content negated v =>
      -- the old negation is kept beside the new one, so it is mapped and not set
      have hother : d.content? = none := content?_eq_none_of_key h.symm
      exact apply_mapContent hother (fun _ => v) (fun old => negated || old) r
  | nocase => exact apply_nocase_comm d r
  | threshold parts =>
      cases d with
      | text o v => exact (apply_set h v r).symm
      | number o v => exact (apply_setNumber h v r).symm
      | content negated v =>
          have hother : (Clause.threshold parts).content? = none := rfl
          exact (apply_mapContent hother (fun _ => v) (fun old => negated || old) r).symm
      | nocase => exact (apply_nocase_comm (.threshold parts) r).symm
      | threshold others => exact absurd rfl h

end Clause

/-- Clauses with different keys give the same rule in every order. -/
theorem Rule.applyAll_perm {cs ds : List Clause} (hperm : cs.Perm ds)
    (hkeys : (cs.map Clause.key).Nodup) (r : Rule) : r.applyAll cs = r.applyAll ds := by
  apply hperm.foldl_eq'
  intro c hc d hd s
  by_cases hsame : c = d
  · rw [hsame]
  · apply Clause.apply_comm
    intro hkey
    exact hsame (List.inj_on_of_nodup_map hkeys hc hd hkey)

/-! ## Options that are passed over -/

namespace OptionList

/-- An option that has nothing to say: it is blank, or its key is not known. -/
def IsPassedOver (option : List Char) : Prop :=
  isAllBlank option = true ∨ optionKey option ∉ knownKeys

/-- None of the known keys comes twice in a list of options. -/
def KeysDiffer (options : List (List Char)) : Prop :=
  ((options.map optionKey).filter knownKeys.contains).Nodup

instance (option : List Char) : Decidable (IsPassedOver option) :=
  inferInstanceAs (Decidable (_ ∨ _))

instance (options : List (List Char)) : Decidable (KeysDiffer options) :=
  inferInstanceAs (Decidable (List.Nodup _))

/-- A blank option has an empty key, and this is not a known one. -/
theorem IsPassedOver.key_not_mem {option : List Char} (h : IsPassedOver option) :
    optionKey option ∉ knownKeys := by
  rcases h with hblank | hkey
  · have hempty : trim option = [] := List.isEmpty_iff.mp hblank
    have hnokey : optionKey option = [] := by simp only [optionKey, hempty, cutAt?]
    rw [hnokey]
    decide
  · exact hkey

theorem IsPassedOver.read?_eq_none {option : List Char} (h : IsPassedOver option) :
    Clause.read? option = none := by
  cases hread : Clause.read? option with
  | none => rfl
  | some c =>
      have hknown := c.key_mem_knownKeys
      rw [key_of_read? hread] at hknown
      exact absurd hknown h.key_not_mem

/-- The keys of what is read are among the known keys of the options, in the same order. A key is
missing where its value is no number. -/
theorem map_key_sublist (options : List (List Char)) :
    ((options.filterMap Clause.read?).map Clause.key).Sublist
      ((options.map optionKey).filter knownKeys.contains) := by
  induction options with
  | nil => exact List.Sublist.refl []
  | cons o options ih =>
      rw [List.map_cons]
      cases hread : Clause.read? o with
      | none =>
          rw [List.filterMap_cons_none hread]
          apply ih.trans
          exact (List.sublist_cons_self (optionKey o) _).filter knownKeys.contains
      | some c =>
          have hkey : c.key = optionKey o := key_of_read? hread
          have hknown : knownKeys.contains (optionKey o) = true := by
            rw [List.contains_iff_mem, ← hkey]
            exact c.key_mem_knownKeys
          rw [List.filterMap_cons_some hread, List.map_cons, hkey, List.filter_cons_of_pos hknown]
          exact ih.cons_cons (optionKey o)

/-- However options are arranged, and whatever is passed over among them, the same clauses are read
up to their order. -/
theorem filterMap_read?_perm {options others arranged : List (List Char)}
    (hothers : ∀ o ∈ others, IsPassedOver o) (h : arranged.Perm (options ++ others)) :
    (arranged.filterMap Clause.read?).Perm (options.filterMap Clause.read?) := by
  have hnothing : others.filterMap Clause.read? = [] := by
    apply List.filterMap_eq_nil_iff.mpr
    intro o ho
    exact (hothers o ho).read?_eq_none
  have hread := h.filterMap Clause.read?
  rw [List.filterMap_append, hnothing, List.append_nil] at hread
  exact hread

theorem written_ne_nil (options : List (List Char)) : written options ≠ [] :=
  List.append_ne_nil_of_right_ne_nil _ (List.cons_ne_nil ';' [])

theorem written_oneLine {options : List (List Char)} (h : ∀ o ∈ options, IsOption o) :
    '\n' ∉ written options := by
  intro hmem
  rcases List.mem_append.mp hmem with hmem | hmem
  · rcases mem_joined hmem with hsep | ⟨option, hoption, hc⟩
    · exact absurd hsep (by decide)
    · exact (h option hoption).oneLine hc
  · exact absurd hmem (by decide)

end OptionList

/-! ## Lines with their options arranged -/

namespace SpacedLine

open OptionList

/-- A line whose header has its keywords is read with any option list, which is applied to the
header. -/
theorem exists_header_of_hasKeywords (l : SpacedLine) (h : l.frame.HasKeywords) :
    ∃ s : Rule, s.headerOnly = s ∧ s.header = l.frame.header ∧
      ∀ body, body ≠ [] → '\n' ∉ body →
        Rule.parse (l.textWith body) = .ok (s.applyAll (OptionList.clauses body)) := by
  obtain ⟨r, hrule, hheader⟩ := Frame.exists_rule_iff.mpr ⟨h, rfl⟩
  have hparse : Rule.parse l.text = .ok r := by
    rw [l.parse_eq, if_neg fun hcomment => Frame.not_hasKeywords_of_comment hcomment h, hrule]
  obtain ⟨s, hs, rfl, hbodies⟩ := l.exists_header_of_parse hparse
  refine ⟨s, hs, ?_, hbodies⟩
  rw [← hheader, Rule.header_applyAll]

/-- A line with a valid header gives one rule however its options are arranged, if none of the known
keys comes twice in them, and whatever options are put among them that are blank or whose key is not
known. The rule is the header with each option read by itself. -/
theorem parse_arranged (l : SpacedLine) (hheader : l.frame.HasKeywords)
    {options : List (List Char)} (hoptions : ∀ o ∈ options, IsOption o)
    (hkeys : KeysDiffer options) :
    ∃ s : Rule, s.headerOnly = s ∧ s.header = l.frame.header ∧
      ∀ others arranged : List (List Char),
        (∀ o ∈ others, IsOption o ∧ IsPassedOver o) → arranged.Perm (options ++ others) →
          Rule.parse (l.textWith (written arranged)) =
            .ok (s.applyAll (options.filterMap Clause.read?)) := by
  obtain ⟨s, hs, hwords, hbodies⟩ := l.exists_header_of_hasKeywords hheader
  refine ⟨s, hs, hwords, ?_⟩
  intro others arranged hothers hperm
  have harranged : ∀ o ∈ arranged, IsOption o := by
    intro o ho
    rcases List.mem_append.mp (hperm.subset ho) with hoption | hother
    · exact hoptions o hoption
    · exact (hothers o hother).1
  have hclauses : clauses (written arranged) = arranged.filterMap Clause.read? :=
    clauses_written fun o ho => (harranged o ho).isClosed
  have hread : (arranged.filterMap Clause.read?).Perm (options.filterMap Clause.read?) :=
    filterMap_read?_perm (fun o ho => (hothers o ho).2) hperm
  -- the keys of the clauses differ as those of the options do
  have hdiffer : ((options.filterMap Clause.read?).map Clause.key).Nodup :=
    (map_key_sublist options).nodup hkeys
  rw [hbodies _ (written_ne_nil arranged) (written_oneLine harranged), hclauses,
    Rule.applyAll_perm hread.symm hdiffer]

/-- A line whose last header word holds parentheses. -/
def parenthesizedPort : SpacedLine :=
  ofFrame
    { action := "drop".toList
      protocol := "udp".toList
      sourceAddress := "any".toList
      sourcePort := "any".toList
      direction := "<>".toList
      targetAddress := "any".toList
      targetPort := "a(b)".toList
      body := ";".toList }
    ⟨by decide, by decide, by decide⟩

/-- Six options in two orders, with a blank one and one of another key among them. A semicolon and
an escaped quote stand in the message, and the number of the depth cannot be read. -/
theorem parse_arranged_shuffled :
    let options := ["msg:\"a\\\"; b\"", "threshold: type both, count 3, seconds 9",
      " content :!\"c\"", "depth:deep", "nocase", "sid:7"].map String.toList
    let others := ["\t", "uricontent:\"(;)\""].map String.toList
    let arranged := ["uricontent:\"(;)\"", "sid:7", "nocase", "\t", "depth:deep",
      " content :!\"c\"", "msg:\"a\\\"; b\"",
      "threshold: type both, count 3, seconds 9"].map String.toList
    let r : Rule :=
      { action := .drop
        protocol := .udp
        direction := .bidirectional
        targetPort := "a(b)"
        message := "a\\\"; b"
        content := "c"
        negated := true
        nocase := true
        sid := 7
        thresholdType := some .both
        thresholdCount := 3
        thresholdSeconds := 9 }
    (∀ o ∈ options, IsOption o) ∧ KeysDiffer options ∧
      (∀ o ∈ others, IsOption o ∧ IsPassedOver o) ∧ arranged.Perm (options ++ others) ∧
      Rule.parse (parenthesizedPort.textWith (written options)) = .ok r ∧
      Rule.parse (parenthesizedPort.textWith (written arranged)) = .ok r := by
  intro options others arranged r
  have hheader : parenthesizedPort.frame.HasKeywords :=
    ⟨⟨.drop, rfl⟩, ⟨.udp, rfl⟩, ⟨.bidirectional, rfl⟩⟩
  have hoptions : ∀ o ∈ options, IsOption o := by decide +kernel
  have hkeys : KeysDiffer options := by decide +kernel
  have hothers : ∀ o ∈ others, IsOption o ∧ IsPassedOver o := by decide +kernel
  have hperm : arranged.Perm (options ++ others) := by decide +kernel
  have hread : Rule.parse (parenthesizedPort.textWith (written options)) = .ok r := by
    decide +kernel
  obtain ⟨s, -, -, hparse⟩ := parse_arranged parenthesizedPort hheader hoptions hkeys
  have hsame := hparse [] options (fun o ho => absurd ho List.not_mem_nil) (by simp)
  refine ⟨hoptions, hkeys, hothers, hperm, hread, ?_⟩
  rw [hparse others arranged hothers hperm, ← hsame, hread]

end SpacedLine

end RuleDesk
