import RuleDesk.Proofs.Rule.KnownKeys
import RuleDesk.Proofs.Rule.SameLine

/-!
# The order in which options are written

A rule writes one option for each thing it holds, in the order of the known keys
(`Rule.map_about_clauses`). If its texts stay where they are written, these options are found again
between the parentheses of its line, each with its own boundaries, whatever the header words are
(`Rule.split_encode`).
-/

set_option autoImplicit false

namespace RuleDesk

open RuleDesk.Text

/-- Whether a rule holds what an option is about. The identifier and the revision are written even
if they are zero. -/
def Rule.holds (r : Rule) : OptionKey → Bool
  | .message => !r.message.isEmpty
  | .flow => !r.flowSet.isEmpty
  | .content => !r.content.isEmpty
  | .nocase => !r.content.isEmpty && r.nocase
  | .depth => r.depth != 0
  | .offset => r.offset != 0
  | .distance => r.distance != 0
  | .within => r.within != 0
  | .pcre => !r.pcre.isEmpty
  | .classtype => !r.classtype.isEmpty
  | .priority => r.priority != 0
  | .reference => !r.reference.isEmpty
  | .metadata => !r.metadata.isEmpty
  | .threshold => r.hasThreshold
  | .sid => true
  | .revision => true

/-! ## The keys of a rule's clauses -/

section Keys

variable {p : OptionKey → Bool}

theorem map_about_textClause {o : TextOption} {v : String} (h : p o.about = !v.isEmpty) :
    (textClause o v).map Clause.about = [o.about].filter p := by
  unfold textClause
  cases hv : v.isEmpty with
  | true =>
      rw [hv] at h
      rw [if_pos rfl, List.filter_cons_of_neg (by simp [h])]
      rfl
  | false =>
      rw [hv] at h
      rw [if_neg Bool.false_ne_true, List.filter_cons_of_pos h]
      rfl

theorem map_about_numberClause {o : NumberOption} {v : UInt32} (h : p o.about = (v != 0)) :
    (numberClause o v).map Clause.about = [o.about].filter p := by
  unfold numberClause
  by_cases hv : v = 0
  · rw [if_pos hv, List.filter_cons_of_neg (by simp [h, hv])]
    rfl
  · rw [if_neg hv, List.filter_cons_of_pos (by simp [h, hv])]
    rfl

end Keys

namespace Rule

theorem map_about_contentClauses (r : Rule) :
    r.contentClauses.map Clause.about = [OptionKey.content, .nocase].filter r.holds := by
  unfold contentClauses
  cases hcontent : r.content.isEmpty <;> cases hnocase : r.nocase <;>
    simp [holds, hcontent, hnocase, Clause.about]

theorem map_about_thresholdClauses (r : Rule) :
    r.thresholdClauses.map Clause.about = [OptionKey.threshold].filter r.holds := by
  unfold thresholdClauses
  cases h : r.hasThreshold <;> simp [holds, h, Clause.about]

/-- The clauses of a rule are about what it holds, in the order of the known keys. -/
theorem map_about_clauses (r : Rule) :
    r.clauses.map Clause.about = (Vocabulary.all : List OptionKey).filter r.holds := by
  -- the keys are grouped as the clauses are: a content brings its case mark with it
  have hall : (Vocabulary.all : List OptionKey) =
      [OptionKey.message] ++ [OptionKey.flow] ++ [OptionKey.content, .nocase] ++
        [OptionKey.depth] ++ [OptionKey.offset] ++ [OptionKey.distance] ++ [OptionKey.within] ++
        [OptionKey.pcre] ++ [OptionKey.classtype] ++ [OptionKey.priority] ++
        [OptionKey.reference] ++ [OptionKey.metadata] ++ [OptionKey.threshold] ++
        [OptionKey.sid, .revision] := rfl
  have hflow : r.holds TextOption.flow.about = !r.flowSet.text.isEmpty := by
    rw [FlowSet.isEmpty_text]
    rfl
  rw [hall]
  simp only [clauses, List.map_append, List.filter_append]
  rw [map_about_textClause (p := r.holds) (o := .message) rfl,
    map_about_textClause hflow, map_about_contentClauses,
    map_about_numberClause (p := r.holds) (o := .depth) rfl,
    map_about_numberClause (p := r.holds) (o := .offset) rfl,
    map_about_numberClause (p := r.holds) (o := .distance) rfl,
    map_about_numberClause (p := r.holds) (o := .within) rfl,
    map_about_textClause (p := r.holds) (o := .pcre) rfl,
    map_about_textClause (p := r.holds) (o := .classtype) rfl,
    map_about_numberClause (p := r.holds) (o := .priority) rfl,
    map_about_textClause (p := r.holds) (o := .reference) rfl,
    map_about_textClause (p := r.holds) (o := .metadata) rfl, map_about_thresholdClauses]
  rfl

theorem map_key_clauses (r : Rule) :
    r.clauses.map Clause.key = ((Vocabulary.all : List OptionKey).filter r.holds).map spelled := by
  rw [← map_about_clauses, List.map_map]
  exact List.map_congr_left fun c _ => c.key_eq_spelled

/-- The identifier and the revision are the last two clauses. -/
theorem exists_clauses_eq (r : Rule) :
    ∃ front, r.clauses = front ++ [.number .sid r.sid, .number .revision r.revision] :=
  ⟨_, rfl⟩

/-! ## The options of a line -/

/-- The options that stand between the parentheses of a rule's line. -/
theorem split_chars_clauses {r : Rule} (h : r.StaysWritten) :
    (OptionList.split (OptionList.chars r.clauses)).map (List.dropWhile isBlank) =
      r.clauses.map Clause.chars := by
  obtain ⟨c, cs, hclauses⟩ := List.exists_cons_of_ne_nil r.clauses_ne_nil
  have hclosed : ∀ o ∈ c.chars :: cs.map Clause.chars,
      OptionList.isClosed false none o = true := by
    intro o ho
    rw [← List.map_cons, ← hclauses] at ho
    obtain ⟨d, hd, rfl⟩ := List.mem_map.mp ho
    exact h.isClosed hd
  -- every token but the first begins with the space behind the semicolon before it
  have hspace : ∀ d : Clause, (' ' :: d.chars).dropWhile isBlank = d.chars := by
    intro d
    rw [List.dropWhile_cons_of_pos (by decide), d.dropWhile_chars]
  rw [hclauses, OptionList.chars_eq_written, List.map_cons, OptionList.split_written hclosed,
    List.map_cons, c.dropWhile_chars, List.map_map, List.map_map]
  exact congrArg (c.chars :: ·) (List.map_congr_left fun d _ => hspace d)

/-- The options between the parentheses of a rule's line are the clauses of the rule, without the
blanks before them. Their keys stand in the order of the known keys, and none comes twice. The key
of an option is there exactly if the rule holds what the option is about, and the last two options
are the identifier and the revision. -/
theorem split_encode {r : Rule} (h : r.StaysWritten) :
    ∃ body, r.encode = String.ofList (joined [' '] r.header ++ ' ' :: '(' :: body ++ [')']) ∧
      let tokens := (OptionList.split body).map (List.dropWhile isBlank)
      let keys := tokens.map OptionList.optionKey
      tokens = r.clauses.map Clause.chars ∧
        keys.Sublist OptionList.knownKeys ∧ keys.Nodup ∧
        (∀ k : OptionKey, spelled k ∈ keys ↔ r.holds k = true) ∧
        ∃ front, tokens = front ++
          ["sid:".toList ++ numeral r.sid.toNat, "rev:".toList ++ numeral r.revision.toNat] := by
  have hkeys : (r.clauses.map Clause.chars).map OptionList.optionKey =
      ((Vocabulary.all : List OptionKey).filter r.holds).map spelled := by
    rw [← map_key_clauses, List.map_map]
    exact List.map_congr_left fun c _ => c.optionKey_chars
  refine ⟨OptionList.chars r.clauses, rfl, ?_⟩
  intro tokens keys
  have htokens : tokens = r.clauses.map Clause.chars := split_chars_clauses h
  have hwritten : keys = ((Vocabulary.all : List OptionKey).filter r.holds).map spelled := by
    rw [← hkeys, ← htokens]
  have hsub : keys.Sublist OptionList.knownKeys := by
    rw [hwritten]
    exact List.filter_sublist.map spelled
  refine ⟨htokens, hsub, hsub.nodup (by decide), ?_, ?_⟩
  · intro k
    rw [hwritten, List.mem_map_of_injective fun _ _ => spelled_inj, List.mem_filter]
    exact and_iff_right k.mem_all
  · obtain ⟨front, hfront⟩ := r.exists_clauses_eq
    refine ⟨front.map Clause.chars, ?_⟩
    rw [htokens, hfront, List.map_append]
    rfl

/-- Semicolons and colons stand in the quoted texts, and parentheses stand in these and in the
header words. The threshold has no type, so it is not written. -/
theorem split_encode_crowded :
    let r : Rule :=
      { sourceAddress := "(a;", targetPort := "b)"
        message := "a; sid:1; (b)"
        flow := "to_server, unknown ,established"
        content := "!x:;)"
        nocase := true
        within := 4
        pcre := "/;(/"
        priority := 0
        metadata := "a:b (c)"
        thresholdCount := 5
        thresholdSeconds := 60
        sid := 0 }
    r.StaysWritten ∧
      ∃ body, r.encode = String.ofList (joined [' '] r.header ++ ' ' :: '(' :: body ++ [')']) ∧
        (OptionList.split body).map (List.dropWhile isBlank) =
          ["msg:\"a; sid:1; (b)\"", "flow:established,to_server", "content:\"!x:;)\"",
            "nocase", "within:4", "pcre:\"/;(/\"", "metadata:a:b (c)", "sid:0",
            "rev:1"].map String.toList := by
  intro r
  have hstays : r.StaysWritten :=
    { message := ⟨by decide, by decide⟩
      content := ⟨by decide, by decide⟩
      pcre := ⟨by decide, by decide⟩
      classtype := ⟨by decide, by decide⟩
      reference := ⟨by decide, by decide⟩
      metadata := ⟨by decide, by decide⟩ }
  obtain ⟨body, hline, htokens, -⟩ := split_encode hstays
  refine ⟨hstays, body, hline, ?_⟩
  rw [htokens]
  decide +kernel

end Rule

end RuleDesk
