import RuleDesk.Proofs.Validation.Faults
import RuleDesk.Proofs.Validation.Words

/-!
# The grammar of addresses and ports

The checks of the address and port fields cut a text at its separators and look at the pieces. Here
the forms that they accept are given as a grammar, which builds texts up from their parts. A field
has a fault exactly if its text is not in the grammar (`mem_faults_field_iff`), so nothing may stand
before or after a form, and no field has a say about another.
-/

set_option autoImplicit false

namespace RuleDesk.Validation

open RuleDesk.Text

/-! ## The grammar -/

/-- From `least` to `most` decimal digits. -/
structure Digits (least most : Nat) (s : List Char) : Prop where
  least_le : least ≤ s.length
  le_most : s.length ≤ most
  digits : ∀ c ∈ s, isDecimalDigit c = true

/-- A text of a form, or an exclamation mark and a text of the form. -/
inductive Negatable (form : List Char → Prop) : List Char → Prop where
  | plain {s : List Char} (h : form s) : Negatable form s
  | negated {s : List Char} (h : form s) : Negatable form ('!' :: s)

/-- A text of a form between square brackets. -/
inductive Bracketed (form : List Char → Prop) : List Char → Prop where
  | mk {inner : List Char} (h : form inner) : Bracketed form ('[' :: inner ++ [']'])

/-- One or more texts of a form with commas between them. -/
inductive CommaList (form : List Char → Prop) : List Char → Prop where
  | mk {parts : List (List Char)} (hne : parts ≠ []) (h : ∀ part ∈ parts, form part) :
      CommaList form (joined [','] parts)

/-- A text of a form, which a separator and a text of another form may follow. -/
inductive Suffixed (sep : Char) (form tail : List Char → Prop) : List Char → Prop where
  | bare {s : List Char} (h : form s) : Suffixed sep form tail s
  | suffixed {s t : List Char} (h : form s) (ht : tail t) : Suffixed sep form tail (s ++ sep :: t)

/-- What a field may hold: `any`, a variable, or a number form or list that may be negated. -/
inductive FieldForm (number list : List Char → Prop) : List Char → Prop where
  | any : FieldForm number list "any".toList
  | named {name : List Char} (hne : name ≠ []) (h : ∀ c ∈ name, isWordCharacter c = true) :
      FieldForm number list ('$' :: name)
  | number {s : List Char} (h : Negatable number s) : FieldForm number list s
  | list {s : List Char} (h : Negatable (Bracketed list) s) : FieldForm number list s

/-- A port, or two with a colon between them. -/
def PortRange : List Char → Prop :=
  Suffixed ':' (Digits 1 5) (Digits 1 5)

/-- Four numbers with dots between them. -/
inductive DottedQuad : List Char → Prop where
  | mk {a b c d : List Char} (ha : Digits 1 3 a) (hb : Digits 1 3 b) (hc : Digits 1 3 c)
      (hd : Digits 1 3 d) : DottedQuad (joined ['.'] [a, b, c, d])

/-- A dotted quad, which a slash and one or two digits may follow. -/
def Network : List Char → Prop :=
  Suffixed '/' DottedQuad (Digits 1 2)

/-- The text of an address list, which is not looked at any closer than by its characters. -/
structure AddressList (s : List Char) : Prop where
  ne_nil : s ≠ []
  characters : ∀ c ∈ s,
    isWordCharacter c = true ∨ isBlank c = true ∨ c ∈ ['.', ',', '/', '!', '$']

/-- What a port field may hold. -/
def PortForm : List Char → Prop :=
  FieldForm PortRange (CommaList PortRange)

/-- What an address field may hold. -/
def AddressForm : List Char → Prop :=
  FieldForm Network AddressList

/-! ## Parts -/

section Parts

variable {s : List Char}

theorem isDigits_iff {least most : Nat} : isDigits least most s = true ↔ Digits least most s := by
  simp only [isDigits, Bool.and_eq_true, decide_eq_true_eq, List.all_eq_true]
  constructor
  · rintro ⟨⟨hleast, hmost⟩, hdigits⟩
    exact ⟨hleast, hmost, hdigits⟩
  · rintro ⟨hleast, hmost, hdigits⟩
    exact ⟨⟨hleast, hmost⟩, hdigits⟩

theorem Digits.not_mem {least most : Nat} (h : Digits least most s) {sep : Char}
    (hsep : isDecimalDigit sep = false) : sep ∉ s := by
  intro hmem
  rw [h.digits sep hmem] at hsep
  exact Bool.noConfusion hsep

/-- Whether each of the ranges lies in one of the others. -/
def liesIn (ranges others : Ranges) : Bool :=
  ranges.all fun range => others.any fun other =>
    Nat.ble other.1 range.1 && Nat.ble range.2 other.2

theorem covers_of_liesIn {ranges others : Ranges} (hin : liesIn ranges others = true) {c : Char}
    (h : ranges.covers c = true) : others.covers c = true := by
  obtain ⟨⟨first, last⟩, hrange, hc⟩ := List.any_eq_true.mp h
  have hany := List.all_eq_true.mp hin (first, last) hrange
  obtain ⟨⟨low, high⟩, hother, hwithin⟩ := List.any_eq_true.mp hany
  simp only [Bool.and_eq_true, Nat.ble_eq, decide_eq_true_eq] at hc hwithin
  refine List.any_eq_true.mpr ⟨(low, high), hother, ?_⟩
  simp only [Bool.and_eq_true, decide_eq_true_eq]
  omega

/-- Decimal digits are word characters. -/
theorem isWordCharacter_of_isDecimalDigit {c : Char} (h : isDecimalDigit c = true) :
    isWordCharacter c = true :=
  covers_of_liesIn (by decide +kernel) h

theorem bracketed?_eq_some_iff {inner : List Char} :
    bracketed? s = some inner ↔ s = '[' :: inner ++ [']'] := by
  constructor
  · exact eq_of_bracketed?
  · rintro rfl
    simp [bracketed?]

theorem any_bracketed?_iff {p : List Char → Bool} {form : List Char → Prop}
    (hform : ∀ t, p t = true ↔ form t) : (bracketed? s).any p = true ↔ Bracketed form s := by
  rw [Option.any_eq_true]
  constructor
  · rintro ⟨inner, hinner, hp⟩
    obtain rfl := bracketed?_eq_some_iff.mp hinner
    exact .mk ((hform inner).mp hp)
  · rintro ⟨h⟩
    exact ⟨_, bracketed?_eq_some_iff.mpr rfl, (hform _).mpr h⟩

/-- One exclamation mark is passed over, as long as no text of the form begins with one. -/
theorem positive_iff {p : List Char → Bool} {form : List Char → Prop}
    (hform : ∀ t, p t = true ↔ form t) (hmark : ∀ t, ¬ form ('!' :: t)) :
    p (positive s) = true ↔ Negatable form s := by
  rw [hform]
  constructor
  · intro h
    unfold positive at h
    split at h
    · exact .negated h
    · exact .plain h
  · intro h
    cases h with
    | negated h => exact h
    | plain h =>
        unfold positive
        split
        · exact absurd h (hmark _)
        · exact h

theorem isVariable_iff : isVariable s = true ↔
    ∃ name, s = '$' :: name ∧ name ≠ [] ∧ ∀ c ∈ name, isWordCharacter c = true := by
  constructor
  · intro h
    unfold isVariable at h
    split at h
    · next name =>
        simp only [Bool.and_eq_true, Bool.not_eq_true', List.isEmpty_eq_false_iff,
          List.all_eq_true] at h
        exact ⟨name, rfl, h⟩
    · exact absurd h (by simp)
  · rintro ⟨name, rfl, hne, hname⟩
    simp only [isVariable, Bool.and_eq_true, Bool.not_eq_true', List.isEmpty_eq_false_iff,
      List.all_eq_true]
    exact ⟨hne, hname⟩

/-- The four kinds of texts that a field may hold, as they are looked for. -/
theorem fieldForm_iff {p q : List Char → Bool} {number list : List Char → Prop}
    (hp : ∀ t, p t = true ↔ number t) (hq : ∀ t, q t = true ↔ Bracketed list t)
    (hmark : ∀ t, ¬ number ('!' :: t)) :
    (s == "any".toList || isVariable s || p (positive s) || q (positive s)) = true ↔
      FieldForm number list s := by
  -- a list begins with its bracket, so the mark of a negation cannot be a part of it
  have hbracket : ∀ t, ¬ Bracketed list ('!' :: t) := by
    rintro t ⟨⟩
  rw [Bool.or_eq_true, Bool.or_eq_true, Bool.or_eq_true, beq_iff_eq, isVariable_iff,
    positive_iff hp hmark, positive_iff hq hbracket]
  constructor
  · rintro (((rfl | ⟨name, rfl, hne, hname⟩) | h) | h)
    · exact .any
    · exact .named hne hname
    · exact .number h
    · exact .list h
  · intro h
    cases h with
    | any => exact .inl (.inl (.inl rfl))
    | named hne hname => exact .inl (.inl (.inr ⟨_, rfl, hne, hname⟩))
    | number h => exact .inl (.inr h)
    | list h => exact .inr h

end Parts

/-! ## Suffixes -/

section Suffixes

variable {sep : Char} {form tail : List Char → Prop}

theorem Suffixed.not_mem {c : Char} (hform : ∀ t, form t → c ∉ t) (htail : ∀ t, tail t → c ∉ t)
    (hsep : c ≠ sep) {s : List Char} (h : Suffixed sep form tail s) : c ∉ s := by
  cases h with
  | bare h => exact hform s h
  | @suffixed front back h ht =>
      intro hmem
      rcases List.mem_append.mp hmem with hmem | hmem
      · exact hform front h hmem
      · rcases List.mem_cons.mp hmem with hc | hmem
        · exact hsep hc
        · exact htail back ht hmem

/-- Whether a text is one piece that satisfies `p`, or such a piece and one that satisfies `q`. -/
def isSuffixed (sep : Char) (p q : List Char → Bool) (s : List Char) : Bool :=
  match pieces sep s with
  | [front] => p front
  | [front, back] => p front && q back
  | _ => false

/-- The pieces are the two parts of a text, as no separator stands in either of them. -/
theorem isSuffixed_iff {p q : List Char → Bool} (hp : ∀ t, p t = true ↔ form t)
    (hq : ∀ t, q t = true ↔ tail t) (hform : ∀ t, form t → sep ∉ t)
    (htail : ∀ t, tail t → sep ∉ t) (s : List Char) :
    isSuffixed sep p q s = true ↔ Suffixed sep form tail s := by
  constructor
  · intro h
    have hjoined := joined_pieces sep s
    unfold isSuffixed at h
    split at h
    · next front hpieces =>
        rw [hpieces] at hjoined
        obtain rfl : front = s := hjoined
        exact .bare ((hp front).mp h)
    · next front back hpieces =>
        rw [hpieces, joined_cons_cons, List.append_assoc] at hjoined
        obtain ⟨hfront, hback⟩ := Bool.and_eq_true_iff.mp h
        rw [← hjoined]
        exact .suffixed ((hp front).mp hfront) ((hq back).mp hback)
    · exact absurd h (by simp)
  · intro h
    cases h with
    | bare h =>
        simp only [isSuffixed, pieces_of_not_mem (hform s h)]
        exact (hp s).mpr h
    | @suffixed front back h ht =>
        have hcut : pieces sep (front ++ sep :: back) = [front, back] := by
          rw [pieces_append_cons, pieces_of_not_mem (hform front h),
            pieces_of_not_mem (htail back ht)]
          rfl
        simp only [isSuffixed, hcut]
        exact Bool.and_eq_true_iff.mpr ⟨(hp front).mpr h, (hq back).mpr ht⟩

end Suffixes

/-! ## Ports -/

theorem isPortRange_iff (s : List Char) : isPortRange s = true ↔ PortRange s := by
  have hcolon : isDecimalDigit ':' = false := by decide
  have hport : ∀ t, isPortNumber t = true ↔ Digits 1 5 t := fun t => isDigits_iff
  exact isSuffixed_iff hport hport (fun t ht => ht.not_mem hcolon)
    (fun t ht => ht.not_mem hcolon) s

theorem PortRange.not_mem {s : List Char} (h : PortRange s) {c : Char}
    (hdigit : isDecimalDigit c = false) (hcolon : c ≠ ':') : c ∉ s :=
  Suffixed.not_mem (fun _ ht => ht.not_mem hdigit) (fun _ ht => ht.not_mem hdigit) hcolon h

theorem all_pieces_iff {p : List Char → Bool} {form : List Char → Prop}
    (hform : ∀ t, p t = true ↔ form t) (hcomma : ∀ t, form t → ',' ∉ t) (s : List Char) :
    (pieces ',' s).all p = true ↔ CommaList form s := by
  rw [List.all_eq_true]
  constructor
  · intro h
    rw [← joined_pieces ',' s]
    exact .mk (piecesBy_ne_nil _ s) fun part hpart => (hform part).mp (h part hpart)
  · rintro ⟨hne, h⟩
    intro part hpart
    rw [pieces_joined hne fun part hpart => hcomma part (h part hpart)] at hpart
    exact (hform part).mpr (h part hpart)

theorem isPortList_iff (s : List Char) :
    isPortList s = true ↔ Bracketed (CommaList PortRange) s := by
  have hlist : isPortList s =
      (bracketed? s).any fun inner => (pieces ',' inner).all isPortRange := by
    unfold isPortList
    cases bracketed? s <;> rfl
  rw [hlist]
  apply any_bracketed?_iff
  exact all_pieces_iff isPortRange_iff fun t ht => ht.not_mem (by decide) (by decide)

theorem isPort_iff (s : List Char) : isPort s = true ↔ PortForm s := by
  apply fieldForm_iff isPortRange_iff isPortList_iff
  intro t h
  exact h.not_mem (by decide) (by decide) List.mem_cons_self

instance (s : List Char) : Decidable (PortForm s) :=
  decidable_of_iff _ (isPort_iff s)

/-- A list may be negated as a whole only, a port has five digits at most, and a line feed behind it
is not ignored. -/
example :
    PortForm "![80,8000:8080]".toList ∧ ¬ PortForm "[80,!443]".toList ∧
      ¬ PortForm "80:".toList ∧ ¬ PortForm "123456".toList ∧ ¬ PortForm "80\n".toList := by
  decide +kernel

/-! ## Addresses -/

theorem DottedQuad.not_mem {s : List Char} (h : DottedQuad s) {c : Char}
    (hdigit : isDecimalDigit c = false) (hdot : c ≠ '.') : c ∉ s := by
  obtain ⟨ha, hb, hc, hd⟩ := h
  intro hmem
  rcases mem_joined hmem with hsep | ⟨part, hpart, hin⟩
  · exact hdot (List.mem_singleton.mp hsep)
  · simp only [List.mem_cons, List.not_mem_nil, or_false] at hpart
    rcases hpart with rfl | rfl | rfl | rfl
    · exact ha.not_mem hdigit hin
    · exact hb.not_mem hdigit hin
    · exact hc.not_mem hdigit hin
    · exact hd.not_mem hdigit hin

theorem isDottedQuad_iff (s : List Char) : isDottedQuad s = true ↔ DottedQuad s := by
  constructor
  · intro h
    have hjoined := joined_pieces '.' s
    unfold isDottedQuad at h
    split at h
    · next a b c d hpieces =>
        rw [hpieces] at hjoined
        simp only [Bool.and_eq_true, isDigits_iff] at h
        obtain ⟨⟨⟨ha, hb⟩, hc⟩, hd⟩ := h
        rw [← hjoined]
        exact .mk ha hb hc hd
    · exact absurd h (by simp)
  · rintro ⟨ha, hb, hc, hd⟩
    have hdot : isDecimalDigit '.' = false := by decide
    have hcut := pieces_joined (List.cons_ne_nil _ _)
      (List.forall_mem_cons.mpr ⟨ha.not_mem hdot, List.forall_mem_cons.mpr ⟨hb.not_mem hdot,
        List.forall_mem_cons.mpr ⟨hc.not_mem hdot, List.forall_mem_singleton.mpr
          (hd.not_mem hdot)⟩⟩⟩)
    simp only [isDottedQuad, hcut, Bool.and_eq_true, isDigits_iff]
    exact ⟨⟨⟨ha, hb⟩, hc⟩, hd⟩

theorem isNetwork_iff (s : List Char) : isNetwork s = true ↔ Network s := by
  have hslash : isDecimalDigit '/' = false := by decide
  have hdot : '/' ≠ '.' := by decide
  exact isSuffixed_iff isDottedQuad_iff (fun t => isDigits_iff)
    (fun t ht => ht.not_mem hslash hdot) (fun t ht => ht.not_mem hslash) s

theorem Network.not_mem {s : List Char} (h : Network s) {c : Char}
    (hdigit : isDecimalDigit c = false) (hdot : c ≠ '.') (hslash : c ≠ '/') : c ∉ s :=
  Suffixed.not_mem (fun _ ht => ht.not_mem hdigit hdot) (fun _ ht => ht.not_mem hdigit) hslash h

theorem isAddressListCharacter_iff (c : Char) : isAddressListCharacter c = true ↔
    isWordCharacter c = true ∨ isBlank c = true ∨ c ∈ ['.', ',', '/', '!', '$'] := by
  simp only [isAddressListCharacter, Bool.or_eq_true, beq_iff_eq, List.mem_cons, List.not_mem_nil,
    or_false, or_assoc]
  constructor
  · rintro (hword | hdigit | hrest)
    · exact .inl hword
    · exact .inl (isWordCharacter_of_isDecimalDigit hdigit)
    · exact .inr hrest
  · rintro (hword | hrest)
    · exact .inl hword
    · exact .inr (.inr hrest)

theorem isAddressList_iff (s : List Char) : isAddressList s = true ↔ Bracketed AddressList s := by
  have hlist : isAddressList s =
      (bracketed? s).any fun inner => !inner.isEmpty && inner.all isAddressListCharacter := by
    unfold isAddressList
    cases bracketed? s <;> rfl
  rw [hlist]
  apply any_bracketed?_iff
  intro t
  simp only [Bool.and_eq_true, Bool.not_eq_true', List.isEmpty_eq_false_iff, List.all_eq_true,
    isAddressListCharacter_iff]
  constructor
  · rintro ⟨hne, hcharacters⟩
    exact ⟨hne, hcharacters⟩
  · rintro ⟨hne, hcharacters⟩
    exact ⟨hne, hcharacters⟩

theorem isAddress_iff (s : List Char) : isAddress s = true ↔ AddressForm s := by
  apply fieldForm_iff isNetwork_iff isAddressList_iff
  intro t h
  exact h.not_mem (by decide) (by decide) (by decide) List.mem_cons_self

instance (s : List Char) : Decidable (AddressForm s) :=
  decidable_of_iff _ (isAddress_iff s)

/-! ## Faults of fields -/

/-- The address at one end. -/
def Side.address (r : Rule) : Side → String
  | .source => r.sourceAddress
  | .target => r.targetAddress

/-- The port at one end. -/
def Side.port (r : Rule) : Side → String
  | .source => r.sourcePort
  | .target => r.targetPort

theorem address_mem_networkFaults {r : Rule} {side : Side} {value : String} :
    Fault.address side value ∈ networkFaults r ↔
      value = side.address r ∧ isAddress (side.address r).toList = false := by
  cases side with
  | source => simp [networkFaults, mem_onlyIf, Side.address, and_comm]
  | target => simp [networkFaults, mem_onlyIf, Side.address, and_comm]

theorem port_mem_networkFaults {r : Rule} {side : Side} {value : String} :
    Fault.port side value ∈ networkFaults r ↔
      value = side.port r ∧ isPort (side.port r).toList = false := by
  cases side with
  | source => simp [networkFaults, mem_onlyIf, Side.port, and_comm]
  | target => simp [networkFaults, mem_onlyIf, Side.port, and_comm]

/-- The address at an end has a fault exactly if it has none of the forms of addresses, and so has
the port if it has none of the forms of ports, whatever the other fields are. The fault names the
end and shows the text. -/
theorem mem_faults_field_iff (r : Rule) (side : Side) (value : String) :
    (Fault.address side value ∈ (report r).faults ↔
        value = side.address r ∧ ¬ AddressForm value.toList) ∧
      (Fault.port side value ∈ (report r).faults ↔
        value = side.port r ∧ ¬ PortForm value.toList) := by
  constructor
  · rw [mem_faults_iff]
    apply address_mem_networkFaults.trans
    apply and_congr_right
    rintro rfl
    rw [← isAddress_iff, Bool.not_eq_true]
  · rw [mem_faults_iff]
    apply port_mem_networkFaults.trans
    apply and_congr_right
    rintro rfl
    rw [← isPort_iff, Bool.not_eq_true]

end RuleDesk.Validation
