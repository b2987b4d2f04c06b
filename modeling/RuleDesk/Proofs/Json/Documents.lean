import Mathlib.Tactic.Common
import RuleDesk.Proofs.Json.Drafts
import RuleDesk.Proofs.Json.Literals
import RuleDesk.Proofs.Json.Numbers
import RuleDesk.Proofs.Json.PlainValues
import RuleDesk.Proofs.Text.Utf8

/-!
# Documents read back

The indented text of a value is read to the draft of that value, without a fault or a flaw, if the
numbers of the value are naturals of 64 bits and its containers nest no deeper than the reader
allows. Reading goes on where the text of the value ends, so the proof follows the layout: a value,
the items of an array after the first, the members of an object after the first. Each takes at most
three calls a character, and one more.
-/

set_option autoImplicit false

namespace RuleDesk.Json

open RuleDesk.Text

/-! ## Blanks -/

section Blanks

variable (level : Nat) (input : List Glyph)

theorem skipBlanks_newLine :
    skipBlanks ((newLine level).map .char ++ input) = skipBlanks input := by
  have hspaces (n : Nat) :
      skipBlanks ((List.replicate n ' ').map .char ++ input) = skipBlanks input := by
    induction n with
    | zero => rfl
    | succ n ih => exact ih
  exact hspaces (2 * level)

theorem readValue_space (fuel depth : Nat) :
    readValue fuel depth (.char ' ' :: input) = readValue fuel depth input := by
  cases fuel with
  | zero => rw [readValue, readValue]
  | succ fuel =>
      rw [readValue, readValue]
      rfl

end Blanks

/-! ## First characters -/

/-- Whether a text begins with a character that may begin a value. -/
def beginsValue : List Glyph → Bool
  | [] => false
  | g :: _ => !isJsonBlank g && g != .char ']'

theorem skipBlanks_of_beginsValue {input : List Glyph} (h : beginsValue input = true) :
    skipBlanks input = input := by
  cases input with
  | nil => rfl
  | cons g rest =>
      have hblank : isJsonBlank g = false := by
        simpa only [Bool.not_eq_true'] using (Bool.and_eq_true_iff.mp h).1
      rw [skipBlanks, List.dropWhile_cons_of_neg (by simp [hblank])]

theorem ne_of_isAsciiDigit {c d : Char} (hc : isAsciiDigit c = true) (hd : isAsciiDigit d = false) :
    c ≠ d := by
  intro h
  rw [h, hd] at hc
  exact Bool.false_ne_true hc

theorem beginsValue_digit {c : Char} (h : isAsciiDigit c = true) (rest : List Glyph) :
    beginsValue (.char c :: rest) = true := by
  have hne (d : Char) (hd : isAsciiDigit d = false) : c ≠ d := ne_of_isAsciiDigit h hd
  simp [beginsValue, isJsonBlank, hne ' ' rfl, hne '\n' rfl, hne '\t' rfl, hne '\r' rfl,
    hne ']' rfl]

theorem beginsValue_indented (level : Nat) {levels : Nat} {v : Value} (h : v.IsPlain levels)
    (rest : List Glyph) : beginsValue ((v.indented level).map .char ++ rest) = true := by
  cases v with
  | null => rfl
  | bool b => cases b <;> rfl
  | number n =>
      cases n with
      | natural n =>
          have hdigit (c : Char) (hc : c ∈ numeral n) : isAsciiDigit c = true :=
            isAsciiDigit_of_mem_numeral hc
          rcases List.exists_cons_of_ne_nil (numeral_ne_nil n) with ⟨c, cs, hdigits⟩
          have htext : (Value.number (.natural n)).indented level = c :: cs := hdigits
          rw [htext, List.map_cons, List.cons_append]
          exact beginsValue_digit (hdigit c (hdigits ▸ List.mem_cons_self)) _
      | negative n => exact absurd h id
      | real minus significand exponent => exact absurd h id
  | string s => rfl
  | array items => cases items <;> rfl
  | object members => rcases members with _ | ⟨⟨name, value⟩, members⟩ <;> rfl

/-! ## Scalars -/

theorem readValue_scalar {fuel depth : Nat} {c : Char} {rest : List Glyph}
    (h : beginsValue (.char c :: rest) = true) (harray : c ≠ '[') (hobject : c ≠ '\x7b') :
    readValue (fuel + 1) depth (.char c :: rest) = readScalar (.char c :: rest) := by
  rw [readValue, skipBlanks_of_beginsValue h]
  split
  · next heq => exact absurd (Glyph.char.inj (List.cons.inj heq).1) harray
  · next heq => exact absurd (Glyph.char.inj (List.cons.inj heq).1) hobject
  · rfl

theorem readScalar_string (s : String) (rest : List Glyph) :
    readScalar ((literal s).map .char ++ rest) = (.string none s, some rest) := by
  have h := readString_literal s rest
  simp only [literal, List.map_append, List.map_cons, List.map_nil, List.append_assoc,
    List.cons_append, List.nil_append, readScalar, h, StringRead.reading]

theorem readScalar_numeral {n : Nat} {rest : List Glyph} (h : n < UInt64.size)
    (hends : endsNumber rest = true) :
    readScalar ((numeral n).map .char ++ rest) = (.number none (.natural n), some rest) := by
  have hread := readNumber_numeral h hends
  rcases List.exists_cons_of_ne_nil (numeral_ne_nil n) with ⟨c, cs, hdigits⟩
  have hc : isAsciiDigit c = true :=
    isAsciiDigit_of_mem_numeral (n := n) (hdigits ▸ List.mem_cons_self)
  have hne (d : Char) (hd : isAsciiDigit d = false) : c ≠ d := ne_of_isAsciiDigit hc hd
  rw [hdigits, List.map_cons, List.cons_append] at hread ⊢
  simp [readScalar, hne 'n' rfl, hne 't' rfl, hne 'f' rfl, hne '"' rfl, hne '-' rfl,
    digit?_of_isAsciiDigit hc, hread, NumberRead.reading]

theorem readValue_numeral {fuel depth n : Nat} {rest : List Glyph} (h : n < UInt64.size)
    (hends : endsNumber rest = true) :
    readValue (fuel + 1) depth ((numeral n).map .char ++ rest) =
      (.number none (.natural n), some rest) := by
  have hread := readScalar_numeral h hends
  rcases List.exists_cons_of_ne_nil (numeral_ne_nil n) with ⟨c, cs, hdigits⟩
  have hc : isAsciiDigit c = true :=
    isAsciiDigit_of_mem_numeral (n := n) (hdigits ▸ List.mem_cons_self)
  rw [hdigits, List.map_cons, List.cons_append] at hread ⊢
  rw [readValue_scalar (beginsValue_digit hc _) (ne_of_isAsciiDigit hc rfl)
    (ne_of_isAsciiDigit hc rfl), hread]

/-! ## Steps between items -/

section Items

variable (fuel depth level : Nat) {input rest : List Glyph}

theorem readItems_close (first : Bool) (h : skipBlanks input = .char ']' :: rest) :
    readItems (fuel + 1) depth first input = ([], none, some rest) := by
  rw [readItems, h]
  rfl

theorem readItems_first (h : beginsValue input = true) :
    readItems (fuel + 1) depth true ((newLine level).map .char ++ input) =
      readItem fuel depth input := by
  rw [readItems, skipBlanks_newLine, skipBlanks_of_beginsValue h]
  split
  · exact absurd h Bool.false_ne_true
  · exact absurd h Bool.false_ne_true
  · rfl

theorem readItems_comma :
    readItems (fuel + 1) depth false (.char ',' :: rest) =
      match skipBlanks rest with
      | [] => .stopped (.ahead .endInValue [])
      | .char ']' :: after => .stopped (.ahead .trailingComma (.char ']' :: after))
      | next => readItem fuel depth next := by
  rw [readItems]
  rfl

theorem readItems_next (h : beginsValue input = true) :
    readItems (fuel + 1) depth false (.char ',' :: ((newLine level).map .char ++ input)) =
      readItem fuel depth input := by
  rw [readItems_comma, skipBlanks_newLine, skipBlanks_of_beginsValue h]
  split
  · exact absurd h Bool.false_ne_true
  · exact absurd h Bool.false_ne_true
  · rfl

/-- Items are an item and the items behind it. -/
theorem readItem_eq_cons {item : Draft} {items : List Draft} {after : List Glyph}
    (hitem : readValue fuel depth input = (item, some after))
    (hitems : readItems fuel depth false after = (items, none, some rest)) :
    readItem (fuel + 1) depth input = (item :: items, none, some rest) := by
  rw [readItem, hitem]
  exact congrArg (Items.cons item) hitems

end Items

/-! ## Steps between members -/

section Members

variable (fuel depth level : Nat) {input rest : List Glyph}

theorem readMembers_close (first : Bool) (h : skipBlanks input = .char '\x7d' :: rest) :
    readMembers (fuel + 1) depth first input = ([], none, some rest) := by
  rw [readMembers, h]
  rfl

theorem readMembers_first :
    readMembers (fuel + 1) depth true ((newLine level).map .char ++ .char '"' :: rest) =
      readMember fuel depth (.char '"' :: rest) := by
  rw [readMembers, skipBlanks_newLine]
  rfl

theorem readMembers_comma :
    readMembers (fuel + 1) depth false (.char ',' :: rest) =
      match skipBlanks rest with
      | [] => .stopped (.ahead .endInValue [])
      | .char '\x7d' :: after => .stopped (.ahead .trailingComma (.char '\x7d' :: after))
      | next => readMember fuel depth next := by
  rw [readMembers]
  rfl

theorem readMembers_next :
    readMembers (fuel + 1) depth false
        (.char ',' :: ((newLine level).map .char ++ .char '"' :: rest)) =
      readMember fuel depth (.char '"' :: rest) := by
  rw [readMembers_comma, skipBlanks_newLine]
  rfl

/-- Members are a member, with a colon and a space behind its name, and the members behind it. -/
theorem readMember_eq_cons (name : String) {item : Draft} {members : List (Name × Draft)}
    {after : List Glyph} (hitem : readValue fuel depth input = (item, some after))
    (hmembers : readMembers fuel depth false after = (members, none, some rest)) :
    readMember (fuel + 1) depth ((literal name).map .char ++ .char ':' :: .char ' ' :: input) =
      ((⟨name, none⟩, item) :: members, none, some rest) := by
  have hname := readString_literal name (.char ':' :: .char ' ' :: input)
  have hcolon (after : List Glyph) : skipBlanks (.char ':' :: after) = .char ':' :: after := rfl
  simp only [literal, List.map_append, List.map_cons, List.map_nil, List.append_assoc,
    List.cons_append, List.nil_append, readMember, hname, hcolon, readValue_space, hitem, hmembers]
  rfl

end Members

/-! ## Layout -/

section Layout

variable (level outer : Nat) (item : Value) (more : List Value) (name : String)
  (others : List (String × Value)) (rest : List Glyph)

theorem length_newLine_pos : 0 < (newLine level).length :=
  Nat.succ_pos _

theorem map_indented_array :
    ((Value.array (item :: more)).indented level).map Glyph.char ++ rest =
      .char '[' :: ((newLine (level + 1)).map .char ++
        ((item.indented (level + 1)).map .char ++
          ((indentedItems (level + 1) more).map .char ++
            ((newLine level).map .char ++ .char ']' :: rest)))) := by
  simp [Value.indented]

theorem length_indented_array :
    (item.indented (level + 1)).length + (indentedItems (level + 1) more).length + 4 ≤
      ((Value.array (item :: more)).indented level).length := by
  have hfirst := length_newLine_pos (level + 1)
  have hlast := length_newLine_pos level
  simp only [Value.indented, List.length_append, List.length_cons, List.length_nil]
  omega

theorem map_indentedItems_cons :
    (indentedItems level (item :: more)).map Glyph.char ++ ((newLine outer).map .char ++ rest) =
      .char ',' :: ((newLine level).map .char ++ ((item.indented level).map .char ++
        ((indentedItems level more).map .char ++ ((newLine outer).map .char ++ rest)))) := by
  simp [indentedItems]

theorem length_indentedItems_cons :
    (item.indented level).length + (indentedItems level more).length + 1 ≤
      (indentedItems level (item :: more)).length := by
  simp only [indentedItems, List.length_append, List.length_cons]
  omega

theorem endsNumber_indentedItems :
    endsNumber ((indentedItems level more).map .char ++ ((newLine outer).map .char ++ rest)) =
      true := by
  cases more <;> rfl

theorem map_indented_object :
    ((Value.object ((name, item) :: others)).indented level).map Glyph.char ++ rest =
      .char '\x7b' :: ((newLine (level + 1)).map .char ++
        ((literal name).map .char ++ .char ':' :: .char ' ' ::
          ((item.indented (level + 1)).map .char ++
            ((indentedMembers (level + 1) others).map .char ++
              ((newLine level).map .char ++ .char '\x7d' :: rest))))) := by
  simp [Value.indented]

theorem length_indented_object :
    (item.indented (level + 1)).length + (indentedMembers (level + 1) others).length + 4 ≤
      ((Value.object ((name, item) :: others)).indented level).length := by
  have hfirst := length_newLine_pos (level + 1)
  have hlast := length_newLine_pos level
  simp only [Value.indented, List.length_append, List.length_cons, List.length_nil]
  omega

theorem map_indentedMembers_cons :
    (indentedMembers level ((name, item) :: others)).map Glyph.char ++
        ((newLine outer).map .char ++ rest) =
      .char ',' :: ((newLine level).map .char ++
        ((literal name).map .char ++ .char ':' :: .char ' ' ::
          ((item.indented level).map .char ++
            ((indentedMembers level others).map .char ++
              ((newLine outer).map .char ++ rest))))) := by
  simp [indentedMembers]

theorem length_indentedMembers_cons :
    (item.indented level).length + (indentedMembers level others).length + 1 ≤
      (indentedMembers level ((name, item) :: others)).length := by
  simp only [indentedMembers, List.length_append, List.length_cons]
  omega

theorem endsNumber_indentedMembers :
    endsNumber ((indentedMembers level others).map .char ++ ((newLine outer).map .char ++ rest)) =
      true := by
  rcases others with _ | ⟨⟨name, value⟩, others⟩ <;> rfl

end Layout

/-! ## Values -/

theorem depthFlaw_of_pos {depth : Nat} (h : 0 < nestingLimit - depth) (rest : List Glyph) :
    depthFlaw depth rest = none :=
  if_pos (Nat.lt_of_sub_pos h)

theorem readValue_array {fuel depth : Nat} (hlevels : 0 < nestingLimit - depth)
    {items : List Draft} {rest after : List Glyph}
    (h : readItems fuel (depth + 1) true rest = (items, none, some after)) :
    readValue (fuel + 1) depth (.char '[' :: rest) = (.array none items none, some after) := by
  have hopen : skipBlanks (.char '[' :: rest) = .char '[' :: rest := rfl
  simp only [readValue, hopen, h, depthFlaw_of_pos hlevels]

theorem readValue_object {fuel depth : Nat} (hlevels : 0 < nestingLimit - depth)
    {members : List (Name × Draft)} {rest after : List Glyph}
    (h : readMembers fuel (depth + 1) true rest = (members, none, some after)) :
    readValue (fuel + 1) depth (.char '\x7b' :: rest) =
      (.object none members none, some after) := by
  have hopen : skipBlanks (.char '\x7b' :: rest) = .char '\x7b' :: rest := rfl
  simp only [readValue, hopen, h, depthFlaw_of_pos hlevels]

mutual

/-- The indented text of a plain value is read to its draft, up to the text that follows. -/
theorem readValue_indented (v : Value) (level fuel depth : Nat) (rest : List Glyph)
    (hplain : v.IsPlain (nestingLimit - depth)) (hfuel : 3 * (v.indented level).length + 1 ≤ fuel)
    (hends : endsNumber rest = true) :
    readValue fuel depth ((v.indented level).map .char ++ rest) = (v.draft, some rest) := by
  have hbegins := beginsValue_indented level hplain rest
  obtain ⟨fuel, rfl⟩ : ∃ k, fuel = k + 1 := ⟨fuel - 1, by omega⟩
  cases v with
  | null => exact readValue_scalar hbegins (by decide) (by decide)
  | bool b =>
      cases b with
      | true => exact readValue_scalar hbegins (by decide) (by decide)
      | false => exact readValue_scalar hbegins (by decide) (by decide)
  | number n =>
      cases n with
      | natural n => exact readValue_numeral hplain hends
      | negative n => exact absurd hplain id
      | real minus significand exponent => exact absurd hplain id
  | string s =>
      exact (readValue_scalar hbegins (by decide) (by decide)).trans (readScalar_string s rest)
  | array items =>
      obtain ⟨hlevels, hitems⟩ := hplain
      rw [Nat.sub_sub] at hitems
      cases items with
      | nil =>
          have hlength : ((Value.array []).indented level).length = 2 := rfl
          obtain ⟨fuel, rfl⟩ : ∃ k, fuel = k + 1 := ⟨fuel - 1, by omega⟩
          exact readValue_array hlevels (readItems_close fuel (depth + 1) true rfl)
      | cons item more =>
          have hlength := length_indented_array level item more
          obtain ⟨fuel, rfl⟩ : ∃ k, fuel = k + 2 := ⟨fuel - 2, by omega⟩
          -- the first item is read up to the others, and these up to the bracket
          have hitem := readValue_indented item (level + 1) fuel (depth + 1) _ hitems.1 (by omega)
            (endsNumber_indentedItems (level + 1) level more (.char ']' :: rest))
          have hmore := readItems_indented more (level + 1) level fuel (depth + 1) rest hitems.2
            (by omega)
          rw [map_indented_array]
          apply readValue_array hlevels
          rw [readItems_first _ _ _ (beginsValue_indented _ hitems.1 _)]
          exact readItem_eq_cons _ _ hitem hmore
  | object members =>
      obtain ⟨hlevels, hmembers⟩ := hplain
      rw [Nat.sub_sub] at hmembers
      rcases members with _ | ⟨⟨name, value⟩, more⟩
      · have hlength : ((Value.object []).indented level).length = 2 := rfl
        obtain ⟨fuel, rfl⟩ : ∃ k, fuel = k + 1 := ⟨fuel - 1, by omega⟩
        exact readValue_object hlevels (readMembers_close fuel (depth + 1) true rfl)
      · have hlength := length_indented_object level value name more
        obtain ⟨fuel, rfl⟩ : ∃ k, fuel = k + 2 := ⟨fuel - 2, by omega⟩
        have hitem := readValue_indented value (level + 1) fuel (depth + 1) _ hmembers.1 (by omega)
          (endsNumber_indentedMembers (level + 1) level more (.char '\x7d' :: rest))
        have hmore := readMembers_indented more (level + 1) level fuel (depth + 1) rest hmembers.2
          (by omega)
        rw [map_indented_object]
        apply readValue_object hlevels
        exact (readMembers_first _ _ _).trans (readMember_eq_cons _ _ name hitem hmore)

theorem readItems_indented (items : List Value) (level outer fuel depth : Nat) (rest : List Glyph)
    (hplain : ArePlain (nestingLimit - depth) items)
    (hfuel : 3 * (indentedItems level items).length + 1 ≤ fuel) :
    readItems fuel depth false
        ((indentedItems level items).map .char ++
          ((newLine outer).map .char ++ .char ']' :: rest)) =
      (draftItems items, none, some rest) := by
  cases items with
  | nil =>
      obtain ⟨fuel, rfl⟩ : ∃ k, fuel = k + 1 := ⟨fuel - 1, by omega⟩
      exact readItems_close fuel depth false (skipBlanks_newLine outer _)
  | cons item more =>
      have hlength := length_indentedItems_cons level item more
      obtain ⟨fuel, rfl⟩ : ∃ k, fuel = k + 2 := ⟨fuel - 2, by omega⟩
      have hitem := readValue_indented item level fuel depth _ hplain.1 (by omega)
        (endsNumber_indentedItems level outer more (.char ']' :: rest))
      have hmore := readItems_indented more level outer fuel depth rest hplain.2 (by omega)
      rw [map_indentedItems_cons, readItems_next _ _ _ (beginsValue_indented _ hplain.1 _)]
      exact readItem_eq_cons _ _ hitem hmore

theorem readMembers_indented (members : List (String × Value)) (level outer fuel depth : Nat)
    (rest : List Glyph) (hplain : MembersArePlain (nestingLimit - depth) members)
    (hfuel : 3 * (indentedMembers level members).length + 1 ≤ fuel) :
    readMembers fuel depth false
        ((indentedMembers level members).map .char ++
          ((newLine outer).map .char ++ .char '\x7d' :: rest)) =
      (draftMembers members, none, some rest) := by
  rcases members with _ | ⟨⟨name, value⟩, more⟩
  · obtain ⟨fuel, rfl⟩ : ∃ k, fuel = k + 1 := ⟨fuel - 1, by omega⟩
    exact readMembers_close fuel depth false (skipBlanks_newLine outer _)
  · have hlength := length_indentedMembers_cons level value name more
    obtain ⟨fuel, rfl⟩ : ∃ k, fuel = k + 2 := ⟨fuel - 2, by omega⟩
    have hitem := readValue_indented value level fuel depth _ hplain.1 (by omega)
      (endsNumber_indentedMembers level outer more (.char '\x7d' :: rest))
    have hmore := readMembers_indented more level outer fuel depth rest hplain.2 (by omega)
    rw [map_indentedMembers_cons]
    exact (readMembers_next _ _ _).trans (readMember_eq_cons _ _ name hitem hmore)

end

/-! ## Documents -/

theorem ofGlyphs_indented {v : Value} (h : v.IsPlain nestingLimit) :
    Document.ofGlyphs ((v.indented 0).map .char) = ⟨v.draft, none⟩ := by
  have hread := readValue_indented v 0 (3 * ((v.indented 0).map Glyph.char).length + 3) 0 [] h
    (by rw [List.length_map]; omega) rfl
  rw [List.append_nil] at hread
  rw [Document.ofGlyphs, hread]
  rfl

/-- The indented text of a plain value, given as octets, has the value that was written, with the
members of its objects sorted. -/
theorem readOctets_pretty {v : Value} (h : v.IsPlain nestingLimit) :
    readOctets (toOctets v.pretty.toList) = .ok v.sorted := by
  rw [readOctets, glyphs_toOctets, Value.pretty, String.toList_ofList, ofGlyphs_indented h,
    Document.value, value_draft]
  rfl

end RuleDesk.Json
