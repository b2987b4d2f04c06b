import Mathlib.Data.List.Nodup
import RuleDesk.Proofs.Rule.Canonical
import RuleDesk.Proofs.Rule.Keywords

/-!
# Free texts

Six fields of a rule are written as they are, each in a clause of its own and none of them twice.
A clause sets at most one of them, so the text that such a field has after a run of clauses was
there before or stands in one of the clauses.
-/

set_option autoImplicit false

namespace RuleDesk

open RuleDesk.Text

/-- A field whose text is written as it is. -/
inductive FreeText where
  | message
  | classtype
  | reference
  | metadata
  | pcre
  | content
  deriving DecidableEq, Repr

namespace FreeText

/-- The key of the field's clause. -/
def key : FreeText → List Char
  | message => spelled TextOption.message
  | classtype => spelled TextOption.classtype
  | reference => spelled TextOption.reference
  | metadata => spelled TextOption.metadata
  | pcre => spelled TextOption.pcre
  | content => "content".toList

/-- The text of the field. -/
def get (r : Rule) : FreeText → String
  | message => r.message
  | classtype => r.classtype
  | reference => r.reference
  | metadata => r.metadata
  | pcre => r.pcre
  | content => r.content

/-- The field of a text option, which for the flow is written in canonical form only. -/
def ofOption? : TextOption → Option FreeText
  | .message => some message
  | .classtype => some classtype
  | .reference => some reference
  | .metadata => some metadata
  | .pcre => some pcre
  | .flow => none

theorem isPlain_key (f : FreeText) : ∀ c ∈ f.key, isPlain c = true := by
  apply List.all_eq_true.mp
  cases f <;> decide

theorem key_ne_nil (f : FreeText) : f.key ≠ [] := by
  cases f <;> decide

theorem key_of_ofOption? {o : TextOption} {f : FreeText} (h : ofOption? o = some f) :
    f.key = spelled o := by
  cases o with
  | flow => exact absurd h (by simp [ofOption?])
  | _ =>
      obtain rfl := Option.some.inj h
      rfl

theorem get_of_ofOption? {o : TextOption} {f : FreeText} (h : ofOption? o = some f) (r : Rule) :
    f.get r = o.get r := by
  cases o with
  | flow => exact absurd h (by simp [ofOption?])
  | _ =>
      obtain rfl := Option.some.inj h
      rfl

theorem exists_ofOption? {o : TextOption} (h : o ≠ .flow) : ∃ f, ofOption? o = some f := by
  cases o with
  | flow => exact absurd rfl h
  | _ => exact ⟨_, rfl⟩

theorem ofOption?_inj {o p : TextOption} {f : FreeText} (ho : ofOption? o = some f)
    (hp : ofOption? p = some f) : o = p := by
  cases o with
  | flow => exact absurd ho (by simp [ofOption?])
  | _ =>
      obtain rfl := Option.some.inj ho
      cases p with
      | _ => first | rfl | exact absurd hp (by simp [ofOption?])

theorem ofOption?_ne_content (o : TextOption) : ofOption? o ≠ some content := by
  cases o <;> simp [ofOption?]

theorem get_canonical (f : FreeText) (r : Rule) : f.get r.canonical = f.get r := by
  cases f <;> rfl

theorem get_headerOnly (f : FreeText) (r : Rule) : f.get r.headerOnly = "" := by
  cases f <;> rfl

end FreeText

/-- The field that a clause sets to a free text, and that text. -/
def Clause.freeText? : Clause → Option (FreeText × String)
  | .text o v => (FreeText.ofOption? o).map fun f => (f, v)
  | .content _ v => some (.content, v)
  | .number _ _ | .nocase | .threshold _ => none

/-- The field and the text of a clause determine it, negation apart. -/
theorem Clause.text_of_freeText? {o : TextOption} {v w : String} {f : FreeText} {d : Clause}
    (h : (Clause.text o v).freeText? = some (f, w)) (hd : d.freeText? = some (f, w)) :
    d = .text o v := by
  obtain ⟨g, hg, hpair⟩ := Option.map_eq_some_iff.mp h
  obtain ⟨rfl, rfl⟩ := Prod.mk.inj hpair
  cases d with
  | text p u =>
      obtain ⟨e, he, hpair⟩ := Option.map_eq_some_iff.mp hd
      obtain ⟨rfl, rfl⟩ := Prod.mk.inj hpair
      rw [FreeText.ofOption?_inj hg he]
  | content negated u =>
      obtain ⟨rfl, -⟩ := Prod.mk.inj (Option.some.inj hd)
      exact absurd hg (FreeText.ofOption?_ne_content o)
  | number p n => exact absurd hd (by simp [freeText?])
  | nocase => exact absurd hd (by simp [freeText?])
  | threshold parts => exact absurd hd (by simp [freeText?])

theorem Clause.content_of_freeText? {v : String} {d : Clause}
    (h : d.freeText? = some (.content, v)) : ∃ negated, d = .content negated v := by
  cases d with
  | text p u =>
      obtain ⟨e, he, hpair⟩ := Option.map_eq_some_iff.mp h
      obtain ⟨rfl, -⟩ := Prod.mk.inj hpair
      exact absurd he (FreeText.ofOption?_ne_content p)
  | content negated u =>
      obtain ⟨-, rfl⟩ := Prod.mk.inj (Option.some.inj h)
      exact ⟨negated, rfl⟩
  | number p n => exact absurd h (by simp [freeText?])
  | nocase => exact absurd h (by simp [freeText?])
  | threshold parts => exact absurd h (by simp [freeText?])

/-! ## Where a field's text comes from -/

theorem FreeText.get_foldl_threshold (f : FreeText) (parts : List ThresholdPart) (s : Rule) :
    f.get (parts.foldl ThresholdPart.apply s) = f.get s := by
  induction parts generalizing s with
  | nil => rfl
  | cons p parts ih =>
      rw [List.foldl_cons, ih]
      cases p <;> cases f <;> rfl

/-- A clause leaves a free text as it was, or it is the clause that sets it. -/
theorem FreeText.get_apply (f : FreeText) (s : Rule) (c : Clause) :
    f.get (c.apply s) = f.get s ∨ c.freeText? = some (f, f.get (c.apply s)) := by
  cases c with
  | text o v =>
      cases ho : ofOption? o with
      | none =>
          left
          cases o with
          | flow => cases f <;> rfl
          | _ => exact absurd ho (by simp [ofOption?])
      | some g =>
          -- the option sets its own field and leaves the other five
          by_cases hg : f = g
          · right
            subst hg
            have hget : f.get (Clause.apply s (.text o v)) = v := by
              rw [get_of_ofOption? ho]
              exact (TextOption.get_set v s o o).trans (if_pos rfl)
            rw [hget, Clause.freeText?, ho]
            rfl
          · left
            cases o with
            | flow => exact absurd ho (by simp [ofOption?])
            | _ =>
                obtain rfl := Option.some.inj ho
                cases f with
                | _ => first | rfl | exact absurd rfl hg
  | number o v =>
      left
      cases o <;> cases f <;> rfl
  | content negated v =>
      cases f with
      | content => exact Or.inr rfl
      | _ => exact Or.inl rfl
  | nocase =>
      left
      cases f <;> rfl
  | threshold parts => exact Or.inl (f.get_foldl_threshold parts s)

/-- A free text of a run of clauses was there before, or one of the clauses sets it. -/
theorem FreeText.get_applyAll (f : FreeText) (s : Rule) (ds : List Clause) :
    f.get (s.applyAll ds) = f.get s ∨
      (f, f.get (s.applyAll ds)) ∈ ds.filterMap Clause.freeText? := by
  induction ds generalizing s with
  | nil => exact Or.inl rfl
  | cons d ds ih =>
      have hstep : s.applyAll (d :: ds) = (d.apply s).applyAll ds := rfl
      rw [hstep]
      -- the last clause that sets the field decides
      rcases ih (d.apply s) with hrest | hrest
      · rcases f.get_apply s d with hd | hd
        · exact Or.inl (hrest.trans hd)
        · right
          rw [hrest]
          exact List.mem_filterMap.mpr ⟨d, List.mem_cons_self, hd⟩
      · right
        obtain ⟨e, he, hset⟩ := List.mem_filterMap.mp hrest
        exact List.mem_filterMap.mpr ⟨e, List.mem_cons_of_mem d he, hset⟩

/-! ## The free texts of a rule -/

/-- The free texts of a rule that are not empty, each with its field. -/
def Rule.freeTexts (r : Rule) : List (FreeText × String) :=
  r.clauses.filterMap Clause.freeText?

theorem Rule.eq_get_of_mem_freeTexts {r : Rule} {f : FreeText} {v : String}
    (h : (f, v) ∈ r.freeTexts) : v = f.get r ∧ v ≠ "" := by
  obtain ⟨c, hc, hset⟩ := List.mem_filterMap.mp h
  rcases cases_of_mem_clauses hc with
    ⟨o, ho, hne, rfl⟩ | rfl | ⟨o, w, rfl⟩ | ⟨hne, rfl⟩ | rfl | rfl
  · obtain ⟨g, hg⟩ := FreeText.exists_ofOption? ho
    simp only [Clause.freeText?, hg, Option.map_some, Option.some.injEq, Prod.mk.injEq] at hset
    obtain ⟨rfl, rfl⟩ := hset
    exact ⟨(FreeText.get_of_ofOption? hg r).symm, hne⟩
  · exact absurd hset (by simp [Clause.freeText?, FreeText.ofOption?])
  · exact absurd hset (by simp [Clause.freeText?])
  · simp only [Clause.freeText?, Option.some.injEq, Prod.mk.injEq] at hset
    obtain ⟨rfl, rfl⟩ := hset
    exact ⟨rfl, hne⟩
  · exact absurd hset (by simp [Clause.freeText?])
  · exact absurd hset (by simp [Clause.freeText?])

section Parts

variable {o : TextOption} {f : FreeText}

theorem fields_textClause (h : FreeText.ofOption? o = some f) (v : String) :
    (((textClause o v).filterMap Clause.freeText?).map Prod.fst).Sublist [f] := by
  unfold textClause
  split
  · exact List.nil_sublist [f]
  · simp [Clause.freeText?, h]

theorem freeTexts_flow (v : String) : (textClause .flow v).filterMap Clause.freeText? = [] := by
  unfold textClause
  split
  · rfl
  · rfl

theorem freeTexts_numberClause (n : NumberOption) (v : UInt32) :
    (numberClause n v).filterMap Clause.freeText? = [] := by
  unfold numberClause
  split
  · rfl
  · rfl

theorem fields_contentClauses (r : Rule) :
    ((r.contentClauses.filterMap Clause.freeText?).map Prod.fst).Sublist [.content] := by
  unfold Rule.contentClauses
  split
  · exact List.nil_sublist _
  · split <;> exact List.Sublist.refl _

theorem freeTexts_thresholdClauses (r : Rule) :
    r.thresholdClauses.filterMap Clause.freeText? = [] := by
  unfold Rule.thresholdClauses
  split
  · rfl
  · rfl

end Parts

/-- No field is written twice. -/
theorem Rule.fields_freeTexts (r : Rule) :
    (r.freeTexts.map Prod.fst).Sublist
      [.message, .content, .pcre, .classtype, .reference, .metadata] := by
  unfold freeTexts clauses
  simp only [List.filterMap_append, List.map_append, freeTexts_flow, freeTexts_numberClause,
    freeTexts_thresholdClauses, List.append_nil]
  have hmessage := fields_textClause (o := .message) rfl r.message
  have hcontent := fields_contentClauses r
  have hpcre := fields_textClause (o := .pcre) rfl r.pcre
  have hclasstype := fields_textClause (o := .classtype) rfl r.classtype
  have hreference := fields_textClause (o := .reference) rfl r.reference
  have hmetadata := fields_textClause (o := .metadata) rfl r.metadata
  exact ((((((hmessage.append hcontent).append hpcre).append hclasstype).append hreference).append
    hmetadata).append (List.Sublist.refl []))

theorem Rule.nodup_freeTexts (r : Rule) : r.freeTexts.Nodup := by
  apply List.Nodup.of_map Prod.fst
  apply List.Nodup.sublist r.fields_freeTexts
  decide

end RuleDesk
