import RuleDesk.Proofs.Rule.Keywords
import RuleDesk.Proofs.Text.Splitting
import RuleDesk.Proofs.Validation.Faults

/-!
# Which hexadecimal blocks pass

The vertical bars of a content pair up from left to right, and a pair encloses what stands between
its two bars. Here the blocks that are checked are tied to the pairs without reference to how the
content is cut (`mem_hexBlocks_iff`), and the check of a block is stated by the characters in it
(`blockFaults_eq_nil_iff`).

The check counts every character of a block but the space as a digit. So it tells an even number of
digits from an odd one only as long as the other blank characters in the block are even in number.
-/

set_option autoImplicit false

namespace RuleDesk.Validation

open RuleDesk.Text

/-! ## Pairs of bars -/

/-- The content holds the block between the two bars of a pair: an even number of bars stands before
the one that opens it, and the next bar closes it. -/
def Encloses (content block : List Char) : Prop :=
  ∃ before after, content = before ++ '|' :: (block ++ '|' :: after) ∧
    before.count '|' % 2 = 0 ∧ '|' ∉ block

/-- Every second piece is enclosed, except the last one. -/
theorem mem_enclosed_iff {ps : List (List Char)} {block : List Char} :
    block ∈ enclosed ps ↔ ∃ j, ps[2 * j + 1]? = some block ∧ 2 * j + 2 < ps.length := by
  induction ps using enclosed.induct with
  | case1 first second third rest ih =>
      rw [enclosed, List.mem_cons, ih]
      constructor
      · rintro (rfl | ⟨j, hj, hlt⟩)
        · exact ⟨0, rfl, by simp⟩
        · refine ⟨j + 1, hj, ?_⟩
          simp only [List.length_cons] at hlt ⊢
          omega
      · rintro ⟨j, hj, hlt⟩
        cases j with
        | zero => exact .inl (Option.some.inj hj).symm
        | succ j =>
            refine .inr ⟨j, hj, ?_⟩
            simp only [List.length_cons] at hlt ⊢
            omega
  | case2 ps hshort =>
      -- fewer than three pieces enclose nothing
      have hlength : ps.length ≤ 2 := by
        rcases ps with _ | ⟨first, _ | ⟨second, _ | ⟨third, rest⟩⟩⟩
        · exact Nat.zero_le 2
        · exact Nat.le_succ 1
        · exact Nat.le_refl 2
        · exact absurd rfl (hshort first second third rest)
      rw [enclosed]
      · constructor
        · intro h
          exact absurd h List.not_mem_nil
        · rintro ⟨j, -, hlt⟩
          omega
      · exact hshort

/-- Between pieces without bars a block is enclosed if an odd number of pieces stands before it and
another one behind it. -/
theorem encloses_joined {front back : List (List Char)} {block : List Char} {j : Nat}
    (hpieces : ∀ piece ∈ front ++ block :: back, '|' ∉ piece) (hfront : front.length = 2 * j + 1)
    (hback : back ≠ []) : Encloses (joined ['|'] (front ++ block :: back)) block := by
  have hne : front ≠ [] := List.ne_nil_of_length_pos (by omega)
  refine ⟨joined ['|'] front, joined ['|'] back, ?_, ?_, ?_⟩
  · obtain ⟨next, rest, rfl⟩ := List.exists_cons_of_ne_nil hback
    rw [joined_append hne (List.cons_ne_nil block _), joined_cons_cons]
    simp only [List.append_assoc, List.cons_append, List.nil_append]
  · -- the pieces in front are those of the text that they make up
    have hcount := length_pieces '|' (joined ['|'] front)
    rw [pieces_joined hne fun piece hpiece => hpieces piece (List.mem_append_left _ hpiece),
      hfront] at hcount
    omega
  · exact hpieces block (List.mem_append_right front List.mem_cons_self)

/-- The enclosed texts are every second piece, except the last one. -/
theorem encloses_iff_pieces {content block : List Char} :
    Encloses content block ↔ ∃ j, (pieces '|' content)[2 * j + 1]? = some block ∧
      2 * j + 2 < (pieces '|' content).length := by
  constructor
  · rintro ⟨before, after, rfl, heven, hblock⟩
    have hcut : pieces '|' (before ++ '|' :: (block ++ '|' :: after)) =
        pieces '|' before ++ block :: pieces '|' after := by
      rw [pieces_append_cons, pieces_append_cons, pieces_of_not_mem hblock]
      rfl
    have hlength : (pieces '|' before).length = 2 * (before.count '|' / 2) + 1 := by
      rw [length_pieces]
      omega
    have hafter : 0 < (pieces '|' after).length :=
      List.length_pos_iff.mpr (piecesBy_ne_nil _ after)
    refine ⟨before.count '|' / 2, ?_, ?_⟩
    · rw [hcut, ← hlength, List.getElem?_append_right (Nat.le_refl _), Nat.sub_self]
      rfl
    · rw [hcut, List.length_append, List.length_cons, hlength]
      omega
  · rintro ⟨j, hj, hlt⟩
    obtain ⟨front, back, hsplit, hfront⟩ := exists_append_of_getElem? hj
    have hpieces : ∀ piece ∈ front ++ block :: back, '|' ∉ piece := by
      rw [← hsplit]
      exact fun piece => not_mem_of_mem_pieces
    have hback : back ≠ [] := by
      rintro rfl
      rw [hsplit, List.length_append, hfront, List.length_singleton] at hlt
      omega
    rw [← joined_pieces '|' content, hsplit]
    exact encloses_joined hpieces hfront hback

/-- The blocks that are checked are those that a pair of bars encloses. -/
theorem mem_hexBlocks_iff {content block : List Char} :
    block ∈ hexBlocks content ↔ Encloses content block := by
  rw [hexBlocks, mem_enclosed_iff, encloses_iff_pieces]

/-! ## The check of a block -/

/-- A blank character that is counted as a digit: any but the space. -/
def isCountedBlank (c : Char) : Bool :=
  isBlank c && c != ' '

theorem isBlank_of_isHexDigit {c : Char} (h : isHexDigit c = true) : isBlank c = false := by
  have hc : 48 ≤ c.toNat ∧ c.toNat ≤ 57 ∨ 97 ≤ c.toNat ∧ c.toNat ≤ 102 ∨
      65 ≤ c.toNat ∧ c.toNat ≤ 70 := by
    simp only [isHexDigit, Bool.or_eq_true, Bool.and_eq_true, decide_eq_true_eq, Char.le_def,
      UInt32.le_iff_toNat_le, or_assoc] at h
    exact h
  simp only [isBlank, Bool.or_eq_false_iff, Bool.and_eq_false_iff, decide_eq_false_iff_not,
    beq_eq_false_iff_ne]
  omega

/-- In a block of digits and blank characters, all but the spaces are counted. -/
theorem length_filter_ne_space {block : List Char}
    (h : ∀ c ∈ block, isHexDigit c = true ∨ isBlank c = true) :
    (block.filter (· != ' ')).length =
      block.countP isHexDigit + block.countP isCountedBlank := by
  rw [← List.countP_eq_length_filter]
  induction block with
  | nil => rfl
  | cons c block ih =>
      have hblock := ih fun d hd => h d (List.mem_cons_of_mem c hd)
      have hc : (if c != ' ' then 1 else 0) =
          (if isHexDigit c then 1 else 0) + (if isCountedBlank c then 1 else 0) := by
        unfold isCountedBlank
        -- no character is a digit and blank, so none is counted twice
        rcases h c List.mem_cons_self with hdigit | hblank
        · have hblank : isBlank c = false := isBlank_of_isHexDigit hdigit
          have hspace : c ≠ ' ' := by
            rintro rfl
            exact absurd hblank (by decide)
          simp [hdigit, hblank, hspace]
        · have hdigit : isHexDigit c = false := by
            apply Bool.eq_false_iff.mpr
            intro hdigit
            rw [isBlank_of_isHexDigit hdigit] at hblank
            exact Bool.false_ne_true hblank
          simp [hdigit, hblank]
      rw [List.countP_cons, List.countP_cons, List.countP_cons, hblock, hc]
      omega

/-- A block passes if it is not empty, has digits and blank characters only, and the characters that
are counted as digits are even in number. -/
theorem blockFaults_eq_nil_iff (block : List Char) :
    blockFaults block = [] ↔ block ≠ [] ∧ (∀ c ∈ block, isHexDigit c = true ∨ isBlank c = true) ∧
      (block.countP isHexDigit + block.countP isCountedBlank) % 2 = 0 := by
  have hnonHex : hasNonHex block = false ↔
      block ≠ [] ∧ ∀ c ∈ block, isHexDigit c = true ∨ isBlank c = true := by
    simp [hasNonHex]
  rw [blockFaults, List.append_eq_nil_iff, onlyIf_eq_nil_iff, onlyIf_eq_nil_iff, hnonHex,
    and_comm, and_assoc]
  refine and_congr_right fun hne => and_congr_right fun hall => ?_
  rw [hasOddHex, length_filter_ne_space hall]
  simp

/-! ## Faults of blocks -/

/-- The faults that are found in hexadecimal blocks. -/
inductive Fault.IsOfBlock : Fault → Prop where
  | odd (block : String) : IsOfBlock (.oddHex block)
  | nonHex (block : String) : IsOfBlock (.nonHex block)

/-- Of the wordings that begin with the same word, only those of blocks go on in this way. -/
theorem isPrefix_invalid_append (rest : List Char) :
    "Invalid hex".toList <+: "Invalid ".toList ++ rest ↔ "hex".toList <+: rest := by
  have hsplit : "Invalid hex".toList = "Invalid ".toList ++ "hex".toList := by decide
  rw [hsplit]
  exact List.prefix_append_right_inj _

theorem not_isPrefix_hex_of_head {rest : List Char} (h : rest.head? ≠ some 'h') :
    ¬ "hex".toList <+: rest := by
  rintro ⟨tail, rfl⟩
  exact h rfl

theorem Side.not_isPrefix_name (side : Side) (rest : List Char) :
    ¬ "hex".toList <+: side.name.toList ++ rest := by
  apply not_isPrefix_hex_of_head
  cases side with
  | source => exact (by decide : some 'S' ≠ some 'h')
  | target => exact (by decide : some 'D' ≠ some 'h')

/-- A fault is found in a block exactly if its wording says so. -/
theorem Fault.isPrefix_message_iff (fault : Fault) :
    "Invalid hex".toList <+: fault.message.toList ↔ fault.IsOfBlock := by
  have hblock : ∀ rest, "Invalid hex".toList <+: "Invalid hex: '|".toList ++ rest := by
    intro rest
    have hlead : "Invalid hex".toList <+: "Invalid hex: '|".toList := by decide
    exact hlead.trans (List.prefix_append _ _)
  cases fault with
  | oddHex block =>
      refine iff_of_true ?_ (.odd block)
      show _ <+: (toString "Invalid hex: '|" ++ toString block ++
        toString "|' — must have even number of hex chars.").toList
      simp only [String.toList_append, List.append_assoc]
      exact hblock _
  | nonHex block =>
      refine iff_of_true ?_ (.nonHex block)
      show _ <+: (toString "Invalid hex: '|" ++ toString block ++
        toString "|' — contains non-hex characters.").toList
      simp only [String.toList_append, List.append_assoc]
      exact hblock _
  | address side value =>
      refine iff_of_false ?_ fun h => by cases h
      show ¬ _ <+: (toString "Invalid " ++ toString side.name ++ toString " IP: '" ++
        toString value ++ toString "'").toList
      simp only [String.toList_append, List.append_assoc]
      exact fun h => side.not_isPrefix_name _ ((isPrefix_invalid_append _).mp h)
  | port side value =>
      refine iff_of_false ?_ fun h => by cases h
      show ¬ _ <+: (toString "Invalid " ++ toString side.name ++ toString " port: '" ++
        toString value ++ toString "'").toList
      simp only [String.toList_append, List.append_assoc]
      exact fun h => side.not_isPrefix_name _ ((isPrefix_invalid_append _).mp h)
  | flowWord word =>
      refine iff_of_false ?_ fun h => by cases h
      have hlead : (toString "Invalid flow option '").toList =
          "Invalid ".toList ++ "flow option '".toList := by decide
      have hother : ∀ rest, ¬ "hex".toList <+: "flow option '".toList ++ rest := by
        intro rest
        apply not_isPrefix_hex_of_head
        exact (by decide : some 'f' ≠ some 'h')
      show ¬ _ <+: (toString "Invalid flow option '" ++ toString word ++ toString "'.").toList
      simp only [String.toList_append, List.append_assoc, hlead]
      exact fun h => hother _ ((isPrefix_invalid_append _).mp h)
  | noMessage | messageCharacters | noSid | noRevision | depthWithoutContent | offsetWithoutContent
  | patternFormat | thresholdTrack | thresholdCount | thresholdSeconds =>
      exact iff_of_false (by decide) fun h => by cases h

/-- Only the blocks of the content have faults of blocks. -/
theorem mem_faults_iff_of_isOfBlock {r : Rule} {fault : Fault} (h : fault.IsOfBlock) :
    fault ∈ (report r).faults ↔
      ∃ block ∈ hexBlocks r.content.toList, fault ∈ blockFaults block := by
  have hcheck : fault.check = .content := by
    cases h <;> rfl
  have hmodifiers : fault ≠ .depthWithoutContent ∧ fault ≠ .offsetWithoutContent := by
    cases h <;> exact ⟨Fault.noConfusion, Fault.noConfusion⟩
  rw [mem_faults_iff, hcheck]
  simp only [Check.faults, contentFaults, List.mem_append, List.mem_flatMap, mem_onlyIf,
    hmodifiers, and_false, or_false]

theorem isOfBlock_of_mem_blockFaults {block : List Char} {fault : Fault}
    (h : fault ∈ blockFaults block) : fault.IsOfBlock := by
  rcases List.mem_append.mp h with hodd | hnonHex
  · rw [(mem_onlyIf.mp hodd).2]
    exact .odd _
  · rw [(mem_onlyIf.mp hnonHex).2]
    exact .nonHex _

/-! ## Contents whose blocks pass -/

theorem no_hexFault_iff_blockFaults (r : Rule) :
    (∀ fault ∈ (report r).faults, ¬ "Invalid hex".toList <+: fault.message.toList) ↔
      ∀ block ∈ hexBlocks r.content.toList, blockFaults block = [] := by
  constructor
  · intro hnone block hblock
    apply List.eq_nil_iff_forall_not_mem.mpr
    intro fault hfault
    have hkind := isOfBlock_of_mem_blockFaults hfault
    apply hnone fault ((mem_faults_iff_of_isOfBlock hkind).mpr ⟨block, hblock, hfault⟩)
    exact fault.isPrefix_message_iff.mpr hkind
  · intro hempty fault hfault hword
    -- the wording tells that the fault is one of a block, and no block has any
    have hkind := fault.isPrefix_message_iff.mp hword
    obtain ⟨block, hblock, hmem⟩ := (mem_faults_iff_of_isOfBlock hkind).mp hfault
    rw [hempty block hblock] at hmem
    exact absurd hmem List.not_mem_nil

/-- A report has no fault whose wording begins with the words for blocks exactly if every block that
a pair of bars encloses is not empty, has digits and blank characters only, and holds an even number
of digits and counted blanks together. -/
theorem no_hexFault_iff (r : Rule) :
    (∀ fault ∈ (report r).faults, ¬ "Invalid hex".toList <+: fault.message.toList) ↔
      ∀ block, Encloses r.content.toList block →
        block ≠ [] ∧ (∀ c ∈ block, isHexDigit c = true ∨ isBlank c = true) ∧
          (block.countP isHexDigit + block.countP isCountedBlank) % 2 = 0 := by
  rw [no_hexFault_iff_blockFaults]
  apply forall_congr'
  intro block
  rw [mem_hexBlocks_iff, blockFaults_eq_nil_iff]

/-- Two digits with a tab behind them are reported as an odd number of digits. -/
theorem tabbed_block_refused :
    (∀ block, Encloses "|00\t|".toList block →
        block ≠ [] ∧ (∀ c ∈ block, isHexDigit c = true ∨ isBlank c = true) ∧
          block.countP isHexDigit % 2 = 0) ∧
      Fault.oddHex "00\t" ∈ (report { message := "Tab in a block", content := "|00\t|" }).faults ∧
      "Invalid hex".toList <+: (Fault.oddHex "00\t").message.toList := by
  refine ⟨?_, by decide +kernel, (Fault.isPrefix_message_iff _).mpr (.odd _)⟩
  intro block hblock
  have hmem : block ∈ hexBlocks "|00\t|".toList := mem_hexBlocks_iff.mpr hblock
  have hblocks : hexBlocks "|00\t|".toList = ["00\t".toList] := by decide
  rw [hblocks, List.mem_singleton] at hmem
  subst hmem
  refine ⟨by decide, ?_, by decide⟩
  exact List.forall_mem_cons.mpr ⟨.inl (by decide), List.forall_mem_cons.mpr ⟨.inl (by decide),
    List.forall_mem_singleton.mpr (.inr (by decide))⟩⟩

end RuleDesk.Validation
