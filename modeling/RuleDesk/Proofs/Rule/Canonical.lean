import Mathlib.Tactic.Common
import RuleDesk.Rule.Clause

/-!
# Canonical rules

The canonical form of a rule is what its text can hold: the flow in canonical order without unknown
words, the marks of the content only beside a content, and a threshold only if it is complete. The
clauses of a rule, applied to its header, give its canonical form, also after the parts of a
threshold that are unset have been lost.
-/

set_option autoImplicit false

namespace RuleDesk

/-- A rule as its text holds it. -/
def Rule.canonical (r : Rule) : Rule :=
  { r with
    flow := r.flowSet.text
    nocase := !r.content.isEmpty && r.nocase
    negated := !r.content.isEmpty && r.negated
    thresholdType := if r.hasThreshold then r.thresholdType else none
    thresholdTrack := if r.hasThreshold then r.thresholdTrack else none
    thresholdCount := if r.hasThreshold then r.thresholdCount else 0
    thresholdSeconds := if r.hasThreshold then r.thresholdSeconds else 0 }

/-- The rule with the header of another and no options. -/
def Rule.headerOnly (r : Rule) : Rule :=
  { action := r.action
    protocol := r.protocol
    sourceAddress := r.sourceAddress
    sourcePort := r.sourcePort
    direction := r.direction
    targetAddress := r.targetAddress
    targetPort := r.targetPort }

/-! ## Fields of options -/

/-- The field of a text option. -/
def TextOption.get (r : Rule) : TextOption → String
  | .message => r.message
  | .classtype => r.classtype
  | .reference => r.reference
  | .metadata => r.metadata
  | .pcre => r.pcre
  | .flow => r.flow

/-- The field of a number option. -/
def NumberOption.get (r : Rule) : NumberOption → UInt32
  | .sid => r.sid
  | .revision => r.revision
  | .priority => r.priority
  | .depth => r.depth
  | .offset => r.offset
  | .distance => r.distance
  | .within => r.within

theorem TextOption.set_get (r : Rule) (o : TextOption) : o.set (o.get r) r = r := by
  cases o <;> rfl

theorem NumberOption.set_get (r : Rule) (o : NumberOption) : o.set (o.get r) r = r := by
  cases o <;> rfl

theorem TextOption.get_set (v : String) (r : Rule) (o o' : TextOption) :
    o'.get (o.set v r) = if o' = o then v else o'.get r := by
  cases o <;> cases o' <;> rfl

/-! ## Runs of clauses -/

namespace Rule

theorem applyAll_append (r : Rule) (a b : List Clause) :
    r.applyAll (a ++ b) = (r.applyAll a).applyAll b :=
  List.foldl_append

theorem applyAll_textClause {r : Rule} {o : TextOption} (h : o.get r = "") (v : String) :
    r.applyAll (textClause o v) = o.set v r := by
  unfold textClause
  split
  · next hv =>
      rw [String.isEmpty_iff] at hv
      rw [hv, ← h]
      exact (o.set_get r).symm
  · rfl

theorem applyAll_numberClause {r : Rule} {o : NumberOption} (h : o.get r = 0) (v : UInt32) :
    r.applyAll (numberClause o v) = o.set v r := by
  unfold numberClause
  split
  · next hv =>
      rw [hv, ← h]
      exact (o.set_get r).symm
  · rfl

theorem applyAll_contentClauses {s : Rule} (r : Rule) (hcontent : s.content = "")
    (hnocase : s.nocase = false) (hnegated : s.negated = false) :
    s.applyAll r.contentClauses =
      { s with
        content := r.content
        nocase := !r.content.isEmpty && r.nocase
        negated := !r.content.isEmpty && r.negated } := by
  obtain ⟨⟩ := s
  subst hcontent hnocase hnegated
  unfold contentClauses
  split
  · next h =>
      rw [String.isEmpty_iff] at h
      simp [applyAll, h]
  · next h =>
      rw [Bool.not_eq_true] at h
      cases hn : r.nocase <;> simp [applyAll, Clause.apply, h]

end Rule

/-! ## Clauses of a rule -/

theorem eq_of_mem_textClause {o : TextOption} {v : String} {c : Clause}
    (h : c ∈ textClause o v) : v ≠ "" ∧ c = .text o v := by
  unfold textClause at h
  split at h
  · exact absurd h List.not_mem_nil
  · next hv => exact ⟨fun hempty => hv (by rw [hempty]; rfl), List.mem_singleton.mp h⟩

theorem eq_of_mem_numberClause {o : NumberOption} {v : UInt32} {c : Clause}
    (h : c ∈ numberClause o v) : c = .number o v := by
  unfold numberClause at h
  split at h
  · exact absurd h List.not_mem_nil
  · exact List.mem_singleton.mp h

theorem Rule.eq_of_mem_contentClauses {r : Rule} {c : Clause} (h : c ∈ r.contentClauses) :
    (r.content ≠ "" ∧ c = .content r.negated r.content) ∨ c = .nocase := by
  unfold contentClauses at h
  split at h
  · exact absurd h List.not_mem_nil
  · next hv =>
      cases h with
      | head => exact Or.inl ⟨fun hempty => hv (by rw [hempty]; rfl), rfl⟩
      | tail _ h =>
          split at h
          · exact Or.inr (List.mem_singleton.mp h)
          · exact absurd h List.not_mem_nil

theorem Rule.eq_of_mem_thresholdClauses {r : Rule} {c : Clause} (h : c ∈ r.thresholdClauses) :
    c = .threshold [.type r.thresholdType, .track r.thresholdTrack, .count r.thresholdCount,
      .seconds r.thresholdSeconds] := by
  unfold thresholdClauses at h
  split at h
  · exact List.mem_singleton.mp h
  · exact absurd h List.not_mem_nil

/-- What the clauses of a rule hold: the texts that are not empty, the flow, numbers, the content,
the case mark and the threshold. -/
theorem Rule.cases_of_mem_clauses {r : Rule} {c : Clause} (h : c ∈ r.clauses) :
    (∃ o : TextOption, o ≠ .flow ∧ o.get r ≠ "" ∧ c = .text o (o.get r)) ∨
      c = .text .flow r.flowSet.text ∨ (∃ (o : NumberOption) (v : UInt32), c = .number o v) ∨
      (r.content ≠ "" ∧ c = .content r.negated r.content) ∨ c = .nocase ∨
      c = .threshold [.type r.thresholdType, .track r.thresholdTrack, .count r.thresholdCount,
        .seconds r.thresholdSeconds] := by
  have htext : ∀ o : TextOption, o ≠ .flow → c ∈ textClause o (o.get r) →
      ∃ o : TextOption, o ≠ .flow ∧ o.get r ≠ "" ∧ c = .text o (o.get r) := fun o ho hmem =>
    ⟨o, ho, (eq_of_mem_textClause hmem).1, (eq_of_mem_textClause hmem).2⟩
  have hnumber : ∀ (o : NumberOption) (v : UInt32), c ∈ numberClause o v →
      ∃ (o : NumberOption) (v : UInt32), c = .number o v := fun o v hmem =>
    ⟨o, v, eq_of_mem_numberClause hmem⟩
  unfold clauses at h
  simp only [List.mem_append, or_assoc] at h
  obtain h | h | h | h | h | h | h | h | h | h | h | h | h | h := h
  · exact Or.inl (htext .message (by decide) h)
  · exact Or.inr (Or.inl (eq_of_mem_textClause h).2)
  · obtain h | h := eq_of_mem_contentClauses h
    · exact Or.inr (Or.inr (Or.inr (Or.inl h)))
    · exact Or.inr (Or.inr (Or.inr (Or.inr (Or.inl h))))
  · exact Or.inr (Or.inr (Or.inl (hnumber _ _ h)))
  · exact Or.inr (Or.inr (Or.inl (hnumber _ _ h)))
  · exact Or.inr (Or.inr (Or.inl (hnumber _ _ h)))
  · exact Or.inr (Or.inr (Or.inl (hnumber _ _ h)))
  · exact Or.inl (htext .pcre (by decide) h)
  · exact Or.inl (htext .classtype (by decide) h)
  · exact Or.inr (Or.inr (Or.inl (hnumber _ _ h)))
  · exact Or.inl (htext .reference (by decide) h)
  · exact Or.inl (htext .metadata (by decide) h)
  · exact Or.inr (Or.inr (Or.inr (Or.inr (Or.inr (eq_of_mem_thresholdClauses h)))))
  · cases h with
    | head => exact Or.inr (Or.inr (Or.inl ⟨_, _, rfl⟩))
    | tail _ h => exact Or.inr (Or.inr (Or.inl ⟨_, _, List.mem_singleton.mp h⟩))

/-! ## Clauses as read back -/

/-- Whether a part of a threshold has a value. -/
def ThresholdPart.isSet : ThresholdPart → Bool
  | .type value => value.isSome
  | .track value => value.isSome
  | .count _ | .seconds _ => true

/-- A clause as it is read back: without the parts of a threshold that have no value. -/
def Clause.reread : Clause → Clause
  | .threshold parts => .threshold (parts.filter ThresholdPart.isSet)
  | other => other

theorem map_reread_textClause (o : TextOption) (v : String) :
    (textClause o v).map Clause.reread = textClause o v := by
  unfold textClause
  split <;> rfl

theorem map_reread_numberClause (o : NumberOption) (v : UInt32) :
    (numberClause o v).map Clause.reread = numberClause o v := by
  unfold numberClause
  split <;> rfl

theorem map_reread_contentClauses (r : Rule) :
    r.contentClauses.map Clause.reread = r.contentClauses := by
  unfold Rule.contentClauses
  split
  · rfl
  · split <;> rfl

theorem Rule.applyAll_reread_thresholdClauses {s : Rule} (r : Rule)
    (htype : s.thresholdType = none) (htrack : s.thresholdTrack = none)
    (hcount : s.thresholdCount = 0) (hseconds : s.thresholdSeconds = 0) :
    s.applyAll (r.thresholdClauses.map Clause.reread) =
      { s with
        thresholdType := if r.hasThreshold then r.thresholdType else none
        thresholdTrack := if r.hasThreshold then r.thresholdTrack else none
        thresholdCount := if r.hasThreshold then r.thresholdCount else 0
        thresholdSeconds := if r.hasThreshold then r.thresholdSeconds else 0 } := by
  obtain ⟨⟩ := s
  subst htype htrack hcount hseconds
  unfold thresholdClauses
  split
  · cases r.thresholdType <;> cases r.thresholdTrack <;> rfl
  · rfl

/-- The clauses of a rule, as they are read back, make its header its canonical form. -/
theorem Rule.applyAll_reread_clauses (r : Rule) :
    r.headerOnly.applyAll (r.clauses.map Clause.reread) = r.canonical := by
  unfold clauses
  simp only [List.map_append, map_reread_textClause, map_reread_numberClause,
    map_reread_contentClauses, applyAll_append]
  rw [applyAll_textClause (o := .message) rfl, applyAll_textClause (o := .flow) rfl,
    applyAll_contentClauses r rfl rfl rfl, applyAll_numberClause (o := .depth) rfl,
    applyAll_numberClause (o := .offset) rfl, applyAll_numberClause (o := .distance) rfl,
    applyAll_numberClause (o := .within) rfl, applyAll_textClause (o := .pcre) rfl,
    applyAll_textClause (o := .classtype) rfl, applyAll_numberClause (o := .priority) rfl,
    applyAll_textClause (o := .reference) rfl, applyAll_textClause (o := .metadata) rfl,
    applyAll_reread_thresholdClauses r rfl rfl rfl rfl]
  simp only [applyAll, List.map_cons, List.map_nil, List.foldl_cons, List.foldl_nil,
    Clause.reread, Clause.apply, TextOption.set, NumberOption.set, headerOnly, canonical]

end RuleDesk
