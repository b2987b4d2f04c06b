import RuleDesk.Proofs.Rule.KeyOccurrences
import RuleDesk.Proofs.Rule.KnownKeys
import RuleDesk.Proofs.Rule.QuoteToggles
import RuleDesk.Proofs.Rule.RepeatedOptions
import RuleDesk.Proofs.Rule.Survival
import RuleDesk.Proofs.Rule.Verdicts

/-!
# Escaped quotes at the end of a value

A double quote behind a backslash does not close the text that it stands in, so such a quote may be
the last character of a quoted value. Reading strips the value of all double quotes at its end, of
the escaped one too, and what is read ends in the backslash (`EscapesEnd`). When it is written
again, the backslash stands before the closing quote, which then closes nothing, and the clause does
not survive (`Rule.exists_not_survives`).
-/

set_option autoImplicit false

namespace RuleDesk

open RuleDesk.Text

/-! ## Counting quotes -/

namespace OptionList

theorem toggles_of_ne {before : Option Char} (h : before ≠ some '\\') (s : List Char) :
    toggles before s = toggles none s := by
  cases s with
  | nil => rfl
  | cons c rest => rw [toggles, toggles, togglesQuote_of_ne h]

theorem toggles_append (before : Option Char) (s t : List Char) :
    toggles before (s ++ t) = toggles before s + toggles (s.getLast?.or before) t := by
  induction s generalizing before with
  | nil => exact (Nat.zero_add _).symm
  | cons c rest ih =>
      have hlast : (c :: rest).getLast?.or before = rest.getLast?.or (some c) := by
        rw [List.getLast?_cons]
        cases rest.getLast? with
        | none => rfl
        | some d => rfl
      rw [List.cons_append, toggles, toggles, ih, hlast, Nat.add_assoc]

end OptionList

open OptionList

/-! ## Texts that escape the quote behind them -/

/-- A text that ends in a backslash. Behind a double quote, none of its own quotes closes it. -/
structure EscapesEnd (v : List Char) : Prop where
  toggles_eq : toggles (some '"') v = 0
  getLast?_eq : v.getLast? = some '\\'

namespace EscapesEnd

variable {v : List Char}

/-- Between double quotes, such a text is not closed. -/
theorem isClosed_eq_false (h : EscapesEnd v) : isClosed false none ('"' :: v ++ ['"']) = false := by
  have hcount : toggles none ('"' :: v ++ ['"']) = 1 := by
    -- the closing quote stands behind the backslash
    have hlast : toggles (v.getLast?.or (some '"')) ['"'] = 0 := by
      rw [h.getLast?_eq]
      rfl
    rw [List.cons_append, toggles, toggles_append, h.toggles_eq, hlast]
    rfl
  rw [← Bool.not_eq_true, isClosed_iff, hcount]
  exact fun hclosed => absurd hclosed.1 (by decide)

theorem head?_ne (h : EscapesEnd v) : v.head? ≠ some '"' := by
  intro hhead
  obtain ⟨rest, rfl⟩ := List.head?_eq_some_iff.mp hhead
  have hcount := h.toggles_eq
  have hfirst : togglesQuote (some '"') '"' = true := by decide
  rw [toggles, if_pos hfirst] at hcount
  omega

/-- Such a text loses nothing when it is stripped of double quotes. -/
theorem strip_eq (h : EscapesEnd v) : strip (· == '"') v = v := by
  refine (strip_eq_self_iff v).mpr ((hasClearEnds_iff v).mpr ⟨?_, ?_⟩)
  · intro c hc
    exact beq_eq_false_iff_ne.mpr fun hquote => h.head?_ne (hquote ▸ hc)
  · intro c hc
    obtain rfl := Option.some.inj (h.getLast?_eq.symm.trans hc)
    decide

/-- What stands behind characters that are no backslashes escapes its end too. -/
theorem of_append {pre : List Char} (h : EscapesEnd (pre ++ v)) (hpre : '\\' ∉ pre) :
    EscapesEnd v where
  toggles_eq := by
    have hbefore : pre.getLast?.or (some '"') ≠ some '\\' := by
      intro hbackslash
      cases hlast : pre.getLast? with
      | none =>
          rw [hlast] at hbackslash
          exact absurd (Option.some.inj hbackslash) (by decide)
      | some c =>
          rw [hlast] at hbackslash
          obtain rfl := Option.some.inj hbackslash
          exact hpre (List.mem_of_getLast? hlast)
    have hcount := h.toggles_eq
    rw [toggles_append, toggles_of_ne hbefore] at hcount
    rw [toggles_of_ne (by decide)]
    omega
  getLast?_eq := by
    have hlast := h.getLast?_eq
    rw [List.getLast?_append, Option.or_eq_some_iff] at hlast
    rcases hlast with hlast | ⟨-, hlast⟩
    · exact hlast
    · exact absurd (List.mem_of_getLast? hlast) hpre

/-- If no quote of a text closes it, then its last one stands behind a backslash. -/
theorem of_concat_quote (h : toggles (some '"') (v ++ ['"']) = 0) : EscapesEnd v := by
  rw [toggles_append, Nat.add_eq_zero_iff, toggles] at h
  obtain ⟨htoggles, hquote⟩ := h
  refine ⟨htoggles, ?_⟩
  by_cases hbefore : v.getLast?.or (some '"') = some '\\'
  · rcases Option.or_eq_some_iff.mp hbefore with hlast | ⟨-, hfirst⟩
    · exact hlast
    · exact absurd (Option.some.inj hfirst) (by decide)
  · rw [togglesQuote_of_ne hbefore, if_pos (by decide)] at hquote
    omega

/-- Reading takes the escaped quote at the end of a quoted text away and leaves its backslash. -/
theorem of_unquote {text : List Char} (htoggles : toggles (some '"') text = 0)
    (hlast : text.getLast? = some '"') : EscapesEnd (unquote ('"' :: text ++ ['"'])) := by
  obtain ⟨v, rfl⟩ := List.getLast?_eq_some_iff.mp hlast
  have h : EscapesEnd v := of_concat_quote htoggles
  have hdouble : strip (· == '"') (v ++ ['"']) = v := by
    have hstrip : strip (· == '"') ([] ++ v ++ ['"']) = strip (· == '"') v :=
      strip_append_of_all v (by simp) (by simp)
    exact hstrip.trans h.strip_eq
  rw [unquote_quoted, unquote, hdouble]
  obtain ⟨pre, post, hv, hpre, hpost⟩ := exists_append_strip (· == '\'') v
  -- the backslash is the last character, so only the front can lose single quotes
  have hnil : post = [] := by
    by_contra hne
    have hback := h.getLast?_eq
    rw [hv, List.getLast?_append_of_ne_nil _ hne] at hback
    exact absurd (hpost _ (List.mem_of_getLast? hback)) (by decide)
  rw [hnil, List.append_nil] at hv
  rw [hv] at h
  exact h.of_append fun hmem => absurd (hpre _ hmem) (by decide)

/-- The mark of a negation leaves the rest of the text as it is. -/
theorem ofContent (h : EscapesEnd v) :
    ∃ negated w, Clause.ofContent v = .content negated w ∧ EscapesEnd w.toList := by
  by_cases hmark : v.head? = some '!'
  · obtain ⟨rest, rfl⟩ := List.head?_eq_some_iff.mp hmark
    have hwhole : EscapesEnd (['!'] ++ rest) := h
    have hrest : EscapesEnd rest := hwhole.of_append (by decide)
    refine ⟨true, _, rfl, ?_⟩
    rw [String.toList_ofList, hrest.strip_eq]
    exact hrest
  · refine ⟨false, _, Clause.ofContent_of_head hmark, ?_⟩
    rw [String.toList_ofList]
    exact h

end EscapesEnd

/-! ## Fields between double quotes -/

namespace FreeText

variable {f : FreeText}

/-- Whether the text of a field is written between double quotes. -/
def isQuoted : FreeText → Bool
  | message | content | pcre => true
  | classtype | reference | metadata => false

/-- An option of the field: its key, a colon, and a value in double quotes that ends in an escaped
quote. No quote of the value closes it. -/
def EndsInEscapedQuote (f : FreeText) (option : List Char) : Prop :=
  ∃ key value text, trim option = key ++ ':' :: value ∧ ':' ∉ key ∧ trim key = f.key ∧
    trim value = '"' :: text ++ ['"'] ∧ toggles (some '"') text = 0 ∧ text.getLast? = some '"'

/-- What is read from such an option escapes its end. -/
theorem EndsInEscapedQuote.exists_read? {option : List Char} (h : f.EndsInEscapedQuote option) :
    ∃ c v, Clause.read? option = some c ∧ c.freeText? = some (f, v) ∧ EscapesEnd v.toList := by
  obtain ⟨key, value, text, hoption, hcolon, hkey, hvalue, htoggles, hlast⟩ := h
  have hread : Clause.read? option = Clause.ofKey? f.key (unquote ('"' :: text ++ ['"'])) := by
    have hcut : cutAt? ':' (trim option) = some (key, value) := by
      rw [hoption, cutAt?_append hcolon]
    simp only [Clause.read?, hcut, hkey, hvalue]
  have hescapes := EscapesEnd.of_unquote htoggles hlast
  rw [hread]
  generalize unquote ('"' :: text ++ ['"']) = v at hescapes
  cases f with
  | content =>
      obtain ⟨negated, w, hcontent, hw⟩ := hescapes.ofContent
      exact ⟨_, w, (Clause.ofKey?_content v).trans (congrArg some hcontent), rfl, hw⟩
  | _ =>
      refine ⟨_, String.ofList v, Clause.ofKey?_text _ v, rfl, ?_⟩
      rw [String.toList_ofList]
      exact hescapes

end FreeText

namespace Clause

variable {c : Clause} {f : FreeText} {v : String}

theorem key_of_freeText? (h : c.freeText? = some (f, v)) : c.key = f.key := by
  cases c with
  | text o w =>
      obtain ⟨g, hg, hpair⟩ := Option.map_eq_some_iff.mp h
      obtain ⟨rfl, -⟩ := Prod.mk.inj hpair
      exact (FreeText.key_of_ofOption? hg).symm
  | content negated w =>
      obtain ⟨rfl, -⟩ := Prod.mk.inj (Option.some.inj h)
      rfl
  | number | nocase | threshold => exact absurd h (by simp [freeText?])

/-- A clause sets the field of its text. -/
theorem get_apply_of_freeText? (h : c.freeText? = some (f, v)) (s : Rule) :
    f.get (c.apply s) = v := by
  cases c with
  | text o w =>
      obtain ⟨g, hg, hpair⟩ := Option.map_eq_some_iff.mp h
      obtain ⟨rfl, rfl⟩ := Prod.mk.inj hpair
      rw [FreeText.get_of_ofOption? hg]
      exact (TextOption.get_set w s o o).trans (if_pos rfl)
  | content negated w =>
      obtain ⟨rfl, rfl⟩ := Prod.mk.inj (Option.some.inj h)
      rfl
  | number | nocase | threshold => exact absurd h (by simp [freeText?])

/-- A clause that writes its text between double quotes does not survive if the text escapes the
closing one. -/
theorem not_survives_of_escapesEnd (h : c.freeText? = some (f, v)) (hf : f.isQuoted = true)
    (hv : EscapesEnd v.toList) : c.survives = false := by
  have hopen := hv.isClosed_eq_false
  cases c with
  | text o w =>
      obtain ⟨g, hg, hpair⟩ := Option.map_eq_some_iff.mp h
      obtain ⟨rfl, rfl⟩ := Prod.mk.inj hpair
      have ho : o.isQuoted = true := by
        cases o with
        | message | pcre => rfl
        | flow => exact absurd hg (by simp [FreeText.ofOption?])
        | classtype | reference | metadata =>
            obtain rfl := Option.some.inj hg
            exact absurd hf (by decide)
      rw [survives, if_pos ho, hopen, Bool.false_and]
  | content negated w =>
      obtain ⟨rfl, rfl⟩ := Prod.mk.inj (Option.some.inj h)
      rw [survives, hopen, Bool.false_and, Bool.false_and]
  | number | nocase | threshold => exact absurd h (by simp [freeText?])

end Clause

namespace FreeText

variable {f : FreeText}

/-- Of the clauses that set a field, the last one decides. -/
theorem get_applyAll_of_last {front back : List Clause} {c : Clause} {v : String}
    (h : c.freeText? = some (f, v)) (hback : ∀ d ∈ back, d.key ≠ f.key) (s : Rule) :
    f.get (s.applyAll (front ++ c :: back)) = v := by
  have hsplit : s.applyAll (front ++ c :: back) = (c.apply (s.applyAll front)).applyAll back := by
    rw [Rule.applyAll, List.foldl_append]
    rfl
  rw [hsplit]
  rcases f.get_applyAll (c.apply (s.applyAll front)) back with hkept | hset
  · rw [hkept, Clause.get_apply_of_freeText? h]
  · obtain ⟨d, hd, hdset⟩ := List.mem_filterMap.mp hset
    exact absurd (Clause.key_of_freeText? hdset) (hback d hd)

/-- A field between double quotes that is not empty is written in a clause. -/
theorem exists_mem_clauses (hf : f.isQuoted = true) {r : Rule} (h : f.get r ≠ "") :
    ∃ c ∈ r.clauses, c.freeText? = some (f, f.get r) := by
  cases f with
  | message =>
      have hne : r.message ≠ "" := h
      exact ⟨.text .message r.message, by simp [Rule.clauses, textClause, hne], rfl⟩
  | content =>
      have hne : r.content ≠ "" := h
      exact ⟨.content r.negated r.content, by simp [Rule.clauses, Rule.contentClauses, hne], rfl⟩
  | pcre =>
      have hne : r.pcre ≠ "" := h
      exact ⟨.text .pcre r.pcre, by simp [Rule.clauses, textClause, hne], rfl⟩
  | classtype | reference | metadata => exact absurd hf (by decide)

end FreeText

/-! ## Lines -/

/-- The last option of a line for a field ends in an escaped quote. -/
def Rule.EndsInEscapedQuote (line : String) (f : FreeText) : Prop :=
  ∃ (frame : Frame) (front back : List (List Char)) (option : List Char),
    frame.FitsLongest (trim line.toList) ∧ OptionList.split frame.body = front ++ option :: back ∧
    (∀ other ∈ back, OptionList.optionKey other ≠ f.key) ∧ f.EndsInEscapedQuote option

/-- If the last option of a line for a field between double quotes ends in an escaped quote, the
rule that is read from the line has a clause that does not survive. -/
theorem Rule.exists_not_survives {line : String} {r : Rule} (h : Rule.parse line = .ok r)
    {f : FreeText} (hf : f.isQuoted = true) (hline : Rule.EndsInEscapedQuote line f) :
    ∃ c ∈ r.clauses, c.survives = false := by
  obtain ⟨frame, front, back, option, hframe, hsplit, hback, hoption⟩ := hline
  obtain ⟨c, v, hread, hset, hv⟩ := hoption.exists_read?
  -- The line was accepted, so the frame with the longest seventh word is the one that was read.
  have hrule : frame.rule = .ok r := by
    rcases parse_cases line with ⟨-, hempty⟩ | ⟨-, hnone, -⟩ | ⟨-, g, hg, hparse⟩
    · rw [h] at hempty
      cases hempty
    · exact absurd hframe.1 (hnone frame)
    · rw [hframe.unique hg, ← hparse, h]
  obtain ⟨s, -, hbody⟩ := Frame.exists_header_of_rule hrule
  have hclauses : OptionList.clauses frame.body =
      front.filterMap Clause.read? ++ c :: back.filterMap Clause.read? := by
    rw [OptionList.clauses, hsplit, List.filterMap_append, List.filterMap_cons_some hread]
  -- No option behind the escaped one sets its field again.
  have hget : f.get r = v := by
    have hr : Except.ok r = Except.ok (s.applyAll (OptionList.clauses frame.body)) :=
      hrule.symm.trans (hbody frame.body)
    rw [Except.ok.inj hr, hclauses]
    apply FreeText.get_applyAll_of_last hset
    intro d hd
    obtain ⟨other, hother, hreadOther⟩ := List.mem_filterMap.mp hd
    rw [OptionList.key_of_read? hreadOther]
    exact hback other hother
  have hne : f.get r ≠ "" := by
    rw [hget]
    rintro rfl
    exact absurd hv.getLast?_eq (by decide)
  obtain ⟨d, hd, hdset⟩ := FreeText.exists_mem_clauses hf hne
  exact ⟨d, hd, Clause.not_survives_of_escapesEnd hdset hf (hget ▸ hv)⟩

end RuleDesk
