import RuleDesk.Proofs.Rule.OptionDeletion
import RuleDesk.Proofs.Rule.SpacedLines

/-!
# Repeated options

What a text option has set does not matter if a later option sets it again, so of several options
with the key of a text all but the last can be deleted. A content option sets two fields, and it
only ever sets the negation: deleting all contents but the last keeps the text, and it keeps the
negation only if the last content is negated or none is.

Both follow from one law (`Overwrites.applyAll_keepLast`), which is about what is left of a rule when
some of its fields are erased.
-/

set_option autoImplicit false

namespace RuleDesk

open RuleDesk.Text

/-! ## Clauses that overwrite -/

/-- The clauses that satisfy `q` set certain fields. Erasing these fields with `others` leaves what
such a clause does not touch, and erasing with `rest` leaves what only the last such clause decides:
after it, all that `rest` leaves depends on what `others` has left before it. -/
structure Overwrites (q : Clause → Bool) (others rest : Rule → Rule) : Prop where
  skip {c : Clause} (hc : q c = true) (r : Rule) : others (c.apply r) = others r
  keep {c : Clause} (hc : q c = false) {r s : Rule} (h : others r = others s) :
    others (c.apply r) = others (c.apply s)
  set {c : Clause} (hc : q c = true) {r s : Rule} (h : others r = others s) :
    rest (c.apply r) = rest (c.apply s)
  apply (c : Clause) {r s : Rule} (h : rest r = rest s) : rest (c.apply r) = rest (c.apply s)

namespace Overwrites

variable {q : Clause → Bool} {others rest : Rule → Rule}

theorem applyAll (h : Overwrites q others rest) (cs : List Clause) {r s : Rule}
    (hrest : rest r = rest s) : rest (r.applyAll cs) = rest (s.applyAll cs) := by
  induction cs generalizing r s with
  | nil => exact hrest
  | cons c cs ih => exact ih (h.apply c hrest)

/-- What a clause has set does not matter if another one follows. -/
theorem applyAll_of_any (h : Overwrites q others rest) {cs : List Clause} (hany : cs.any q = true)
    {r s : Rule} (hothers : others r = others s) :
    rest (r.applyAll cs) = rest (s.applyAll cs) := by
  induction cs generalizing r s with
  | nil => cases hany
  | cons c cs ih =>
      cases hc : q c with
      | true => exact h.applyAll cs (h.set hc hothers)
      | false =>
          rw [List.any_cons, hc, Bool.false_or] at hany
          exact ih hany (h.keep hc hothers)

/-- Deleting all but the last of the clauses changes nothing that `rest` leaves. -/
theorem applyAll_keepLast (h : Overwrites q others rest) (cs : List Clause) (r : Rule) :
    rest (r.applyAll (keepLast q cs)) = rest (r.applyAll cs) := by
  induction cs generalizing r with
  | nil => rfl
  | cons c cs ih =>
      rw [keepLast]
      split
      · -- the clause is deleted, and one behind it sets the same fields
        next hboth =>
          obtain ⟨hc, hany⟩ := Bool.and_eq_true_iff.mp hboth
          rw [ih]
          exact h.applyAll_of_any hany (h.skip hc r).symm
      · exact ih (c.apply r)

end Overwrites

/-! ## Text options -/

namespace Clause

theorem eq_text_of_key {c : Clause} {o : TextOption} (h : c.key = spelled o) :
    ∃ v, c = .text o v := by
  -- the key of any other clause is looked up without success
  have hlookup : Vocabulary.ofWord? (String.ofList c.key) = some o := by rw [h, ofWord?_spelled]
  cases c with
  | text p v =>
      obtain rfl : p = o := Option.some.inj ((ofWord?_spelled p).symm.trans hlookup)
      exact ⟨v, rfl⟩
  | number p v => cases p <;> cases hlookup
  | content | nocase | threshold => cases hlookup

/-- Setting a text commutes with all clauses but those of its own option. -/
theorem apply_set {c : Clause} {o : TextOption} (h : c.key ≠ spelled o) (v : String) (r : Rule) :
    c.apply (o.set v r) = o.set v (c.apply r) := by
  cases c with
  | text p w => cases p <;> cases o <;> first | rfl | exact absurd rfl h
  | number p w => cases p <;> cases o <;> rfl
  | content negated w => cases o <;> rfl
  | nocase => cases o <;> rfl
  | threshold parts =>
      apply List.foldl_hom (fun s => o.set v s)
      intro s part
      cases part <;> cases o <;> rfl

end Clause

theorem TextOption.set_set (o : TextOption) (v w : String) (r : Rule) :
    o.set v (o.set w r) = o.set v r := by
  cases o <;> rfl

/-- The last clause of a text option decides its field. -/
theorem overwrites_text (o : TextOption) :
    Overwrites (fun c => c.key == spelled o) (fun r => o.set "" r) id where
  skip hc r := by
    obtain ⟨v, rfl⟩ := Clause.eq_text_of_key (beq_iff_eq.mp hc)
    exact o.set_set "" v r
  keep hc r s h := by
    have hother := beq_eq_false_iff_ne.mp hc
    rw [← Clause.apply_set hother, ← Clause.apply_set hother, h]
  set hc r s h := by
    obtain ⟨v, rfl⟩ := Clause.eq_text_of_key (beq_iff_eq.mp hc)
    show o.set v r = o.set v s
    rw [← o.set_set v "" r, h, o.set_set]
  apply c r s h := congrArg c.apply h

/-! ## Contents -/

/-- Whether the content of a clause is negated, and the content. -/
def Clause.content? : Clause → Option (Bool × String)
  | .content negated v => some (negated, v)
  | .text _ _ | .number _ _ | .nocase | .threshold _ => none

/-- The contents of an option list, each with its negation. -/
def OptionList.contents (body : List Char) : List (Bool × String) :=
  (OptionList.clauses body).filterMap Clause.content?

/-- Change the content and the negation of a rule. -/
def Rule.mapContent (f : String → String) (g : Bool → Bool) (r : Rule) : Rule :=
  { r with content := f r.content, negated := g r.negated }

namespace Clause

theorem key_eq_content (c : Clause) : (c.key == "content".toList) = c.content?.isSome := by
  cases c with
  | text o v => cases o <;> rfl
  | number o v => cases o <;> rfl
  | content negated v => rfl
  | nocase => rfl
  | threshold parts => rfl

theorem eq_content_of_content? {c : Clause} {content : Bool × String}
    (h : c.content? = some content) : c = .content content.1 content.2 := by
  cases c with
  | content negated v =>
      obtain rfl := Option.some.inj h
      rfl
  | text | number | nocase | threshold => cases h

/-- A content clause overwrites both fields, the old negation apart. -/
theorem mapContent_apply_content (negated : Bool) (v : String) (r : Rule) :
    ((Clause.content negated v).apply r).mapContent id (fun _ => false) =
      r.mapContent (fun _ => v) fun _ => false := rfl

theorem apply_mapContent {c : Clause} (h : c.content? = none) (f : String → String)
    (g : Bool → Bool) (r : Rule) : c.apply (r.mapContent f g) = (c.apply r).mapContent f g := by
  cases c with
  | text o v => cases o <;> rfl
  | number o v => cases o <;> rfl
  | content negated v => cases h
  | nocase => rfl
  | threshold parts =>
      apply List.foldl_hom (fun s => Rule.mapContent f g s)
      intro s part
      cases part <;> rfl

end Clause

theorem Rule.mapContent_mapContent (v w : String) (r : Rule) :
    (r.mapContent (fun _ => w) fun _ => false).mapContent (fun _ => v) (fun _ => false) =
      r.mapContent (fun _ => v) fun _ => false := rfl

/-- A rule that is known up to the negation is known with it. -/
theorem Rule.eq_of_mapContent_eq {r s : Rule} {negated : Bool}
    (h : r.mapContent id (fun _ => false) = s.mapContent id fun _ => false)
    (hnegated : r.negated = negated) : r = { s with negated := negated } := by
  subst hnegated
  have hset := congrArg (Rule.mapContent id fun _ => r.negated) h
  exact hset

/-- The last content decides the content, and nothing is said of the negation. -/
theorem overwrites_content :
    Overwrites (fun c => c.content?.isSome)
      (Rule.mapContent (fun _ => "") fun _ => false) (Rule.mapContent id fun _ => false) where
  skip hc r := by
    obtain ⟨content, hcontent⟩ := Option.isSome_iff_exists.mp hc
    obtain rfl := Clause.eq_content_of_content? hcontent
    rfl
  keep hc r s h := by
    have hnone := Option.isNone_iff_eq_none.mp (Option.isSome_eq_false_iff.mp hc)
    rw [← Clause.apply_mapContent hnone, ← Clause.apply_mapContent hnone, h]
  set hc r s h := by
    obtain ⟨⟨negated, v⟩, hcontent⟩ := Option.isSome_iff_exists.mp hc
    obtain rfl := Clause.eq_content_of_content? hcontent
    rw [Clause.mapContent_apply_content, Clause.mapContent_apply_content,
      ← Rule.mapContent_mapContent v "", h, Rule.mapContent_mapContent]
  apply c r s h := by
    cases hc : c.content? with
    | none => rw [← Clause.apply_mapContent hc, ← Clause.apply_mapContent hc, h]
    | some content =>
        obtain rfl := Clause.eq_content_of_content? hc
        have hset := congrArg (Rule.mapContent (fun _ => content.2) fun _ => false) h
        rw [Clause.mapContent_apply_content, Clause.mapContent_apply_content]
        exact hset

/-- The content of a rule is the last one that was applied, and it is negated if any was. -/
theorem content_applyAll (cs : List Clause) (s : Rule) :
    (s.applyAll cs).content =
        ((cs.filterMap Clause.content?).getLast?.map Prod.snd).getD s.content ∧
      (s.applyAll cs).negated = (s.negated || (cs.filterMap Clause.content?).any Prod.fst) := by
  induction cs generalizing s with
  | nil => exact ⟨rfl, (Bool.or_false _).symm⟩
  | cons c cs ih =>
      obtain ⟨hcontent, hnegated⟩ := ih (c.apply s)
      have hstep : s.applyAll (c :: cs) = (c.apply s).applyAll cs := rfl
      rw [hstep, hcontent, hnegated]
      cases hc : c.content? with
      | none =>
          have hcommute := Clause.apply_mapContent hc (fun _ => s.content) (fun _ => s.negated) s
          have hfixed : (c.apply s).mapContent (fun _ => s.content) (fun _ => s.negated) =
              c.apply s := hcommute.symm
          have hsame : (c.apply s).content = s.content := (congrArg Rule.content hfixed).symm
          have hsame' : (c.apply s).negated = s.negated := (congrArg Rule.negated hfixed).symm
          rw [List.filterMap_cons_none hc, hsame, hsame']
          exact ⟨rfl, rfl⟩
      | some content =>
          obtain rfl := Clause.eq_content_of_content? hc
          rw [List.filterMap_cons_some hc, List.getLast?_cons, List.any_cons]
          refine ⟨?_, ?_⟩
          · cases (cs.filterMap Clause.content?).getLast? <;> rfl
          · show (content.1 || s.negated || _) = _
            rw [Bool.or_comm content.1, Bool.or_assoc]

theorem OptionList.clauses_onlyLast_content (body : List Char) :
    clauses (onlyLast "content".toList body) =
      keepLast (fun c => c.content?.isSome) (clauses body) := by
  rw [clauses_onlyLast fun value => ⟨_, Clause.ofKey?_content value⟩]
  exact congrArg (keepLast · _) (funext Clause.key_eq_content)

/-- Of the contents only the last is kept. -/
theorem OptionList.contents_onlyLast (body : List Char) :
    contents (onlyLast "content".toList body) = (contents body).getLast?.toList := by
  rw [contents, clauses_onlyLast_content, filterMap_keepLast (q := fun _ => true), keepLast_true]
  · rfl
  · intro c
    cases c.content? <;> rfl

/-- Without the contents before the last, a rule that was not negated is negated exactly if the last
content is, and otherwise it is the same. -/
theorem Rule.applyAll_onlyLast_content {s : Rule} (hs : s.negated = false) (body : List Char) :
    s.applyAll (OptionList.clauses (OptionList.onlyLast "content".toList body)) =
      { s.applyAll (OptionList.clauses body) with
        negated := ((OptionList.contents body).getLast?.map Prod.fst).getD false } := by
  have hrest := overwrites_content.applyAll_keepLast (OptionList.clauses body) s
  rw [← OptionList.clauses_onlyLast_content] at hrest
  apply Rule.eq_of_mapContent_eq hrest
  -- the last content is the only one that is left
  obtain ⟨-, hnegated⟩ :=
    content_applyAll (OptionList.clauses (OptionList.onlyLast "content".toList body)) s
  have hkept := OptionList.contents_onlyLast body
  rw [OptionList.contents] at hkept
  rw [hnegated, hs, Bool.false_or, hkept]
  cases (OptionList.contents body).getLast? with
  | none => rfl
  | some content => exact Bool.or_false _

/-! ## Lines with repeated options -/

/-- The rules of frames that differ in the body only are made from one header. -/
theorem Frame.exists_header_of_rule {f : Frame} {r : Rule} (h : f.rule = .ok r) :
    ∃ s : Rule, s.headerOnly = s ∧ ∀ body,
      Frame.rule { f with body := body } = .ok (s.applyAll (OptionList.clauses body)) := by
  obtain ⟨⟨⟨action, haction⟩, ⟨protocol, hprotocol⟩, ⟨direction, hdirection⟩⟩, -⟩ :=
    Frame.exists_rule_iff.mp ⟨r, h, rfl⟩
  let header : Rule :=
    { action, protocol, direction,
      sourceAddress := String.ofList f.sourceAddress
      sourcePort := String.ofList f.sourcePort
      targetAddress := String.ofList f.targetAddress
      targetPort := String.ofList f.targetPort }
  refine ⟨header, rfl, ?_⟩
  intro body
  simp only [Frame.rule, haction, hprotocol, hdirection, headerKeyword, Vocabulary.ofWord,
    ofWord?_spelled]
  rfl

namespace SpacedLine

/-- An accepted line is accepted with any other option list too, which is then applied to the same
header. -/
theorem exists_header_of_parse (l : SpacedLine) {r : Rule} (h : Rule.parse l.text = .ok r) :
    ∃ s : Rule, s.headerOnly = s ∧ s.applyAll (OptionList.clauses l.frame.body) = r ∧
      ∀ body, body ≠ [] → '\n' ∉ body →
        Rule.parse (l.textWith body) = .ok (s.applyAll (OptionList.clauses body)) := by
  rw [l.parse_eq] at h
  split at h
  · cases h
  · next hplain =>
      obtain ⟨s, hs, hrules⟩ := Frame.exists_header_of_rule h
      refine ⟨s, hs, Except.ok.inj ((hrules l.frame.body).symm.trans h), ?_⟩
      intro body hne hline
      rw [← l.text_withBody hne hline, parse_eq]
      exact (if_neg hplain).trans (hrules body)

/-- Of the options with the key of a text all but the last can be deleted from an accepted line.
Deleting all contents but the last keeps the last content, and leaves it negated exactly if it is
itself, while a rule is read as negated if any of its contents is. -/
theorem onlyLast_decides (l : SpacedLine) {r : Rule} (h : Rule.parse l.text = .ok r) :
    let contents := OptionList.contents l.frame.body
    (∀ o : TextOption,
      Rule.parse (l.textWith (OptionList.onlyLast (spelled o) l.frame.body)) = .ok r) ∧
    Rule.parse (l.textWith (OptionList.onlyLast "content".toList l.frame.body)) =
      .ok { r with negated := (contents.getLast?.map Prod.fst).getD false } ∧
    r.content = (contents.getLast?.map Prod.snd).getD "" ∧
    r.negated = contents.any Prod.fst := by
  intro contents
  obtain ⟨s, hs, rfl, hbodies⟩ := l.exists_header_of_parse h
  have hdeleted : ∀ key, key ≠ [] →
      Rule.parse (l.textWith (OptionList.onlyLast key l.frame.body)) =
        .ok (s.applyAll (OptionList.clauses (OptionList.onlyLast key l.frame.body))) := by
    intro key hkey
    exact hbodies _ (OptionList.onlyLast_ne_nil hkey l.body_ne_nil)
      (OptionList.onlyLast_oneLine l.body_oneLine)
  have hfresh : s.content = "" ∧ s.negated = false := by
    rw [← hs]
    exact ⟨rfl, rfl⟩
  obtain ⟨hcontent, hnegated⟩ := content_applyAll (OptionList.clauses l.frame.body) s
  rw [hfresh.1] at hcontent
  rw [hfresh.2, Bool.false_or] at hnegated
  refine ⟨?_, ?_, hcontent, hnegated⟩
  · intro o
    rw [hdeleted _ (isWord_spelled o).1,
      OptionList.clauses_onlyLast fun value => ⟨_, Clause.ofKey?_text o value⟩]
    exact congrArg Except.ok ((overwrites_text o).applyAll_keepLast _ s)
  · rw [hdeleted _ (by decide)]
    exact congrArg Except.ok (Rule.applyAll_onlyLast_content hfresh.2 l.frame.body)

/-- A line with two messages and two contents, of which the first is negated. -/
def repeated : SpacedLine :=
  ofFrame
    { action := "alert".toList
      protocol := "tcp".toList
      sourceAddress := "any".toList
      sourcePort := "any".toList
      direction := "->".toList
      targetAddress := "any".toList
      targetPort := "any".toList
      body := "msg:Scan;content:!\"admin\";msg:Ping;content:\"login\"".toList }
    ⟨by decide, by decide, by decide⟩

theorem onlyLast_decides_repeated :
    Rule.parse repeated.text =
      .ok { message := "Ping", content := "login", negated := true } ∧
    Rule.parse (repeated.textWith (OptionList.onlyLast "msg".toList repeated.frame.body)) =
      .ok { message := "Ping", content := "login", negated := true } ∧
    Rule.parse (repeated.textWith (OptionList.onlyLast "content".toList repeated.frame.body)) =
      .ok { message := "Ping", content := "login", negated := false } := by
  have hread : Rule.parse repeated.text =
      .ok { message := "Ping", content := "login", negated := true } := by
    decide +kernel
  have hcontents : OptionList.contents repeated.frame.body = [(true, "admin"), (false, "login")] := by
    decide +kernel
  obtain ⟨htexts, hcontent, -, -⟩ := repeated.onlyLast_decides hread
  rw [hcontents] at hcontent
  exact ⟨hread, htexts .message, hcontent⟩

end SpacedLine

/-- The negation of the first content is read as one of the second. Without the first content the
same options give another rule. -/
theorem first_negation_kept :
    (∀ piece ∈ OptionList.split "content:!\"admin\"; content:\"login\"; sid:7;".toList,
      OptionList.isClosed false none piece = true) ∧
    OptionList.onlyLast "content".toList
        "content:!\"admin\"; content:\"login\"; sid:7;".toList =
      " content:\"login\"; sid:7;".toList ∧
    Rule.parse "alert tcp any any -> any any (content:!\"admin\"; content:\"login\"; sid:7;)" =
      .ok { content := "login", negated := true, sid := 7 } ∧
    Rule.parse "alert tcp any any -> any any ( content:\"login\"; sid:7;)" =
      .ok { content := "login", negated := false, sid := 7 } := by
  refine ⟨?_, ?_, ?_, ?_⟩
  · decide +kernel
  · decide +kernel
  · decide +kernel
  · decide +kernel

end RuleDesk
