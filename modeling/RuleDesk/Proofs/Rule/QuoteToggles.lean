import RuleDesk.Proofs.Rule.OptionCuts

/-!
# Quotes that toggle

A double quote opens or closes quoted text unless a backslash stands right before it. Counting these
quotes says where a text stands without reading it step by step: a text is closed exactly if they
are even in number and an odd number of them stands before each of its semicolons
(`OptionList.isClosed_iff`).
-/

set_option autoImplicit false

namespace RuleDesk.OptionList

open RuleDesk.Text

/-- How many double quotes of a text open or close quoted text. `before` is the character before
the text. -/
def toggles (before : Option Char) : List Char → Nat
  | [] => 0
  | c :: rest => (if togglesQuote before c then 1 else 0) + toggles (some c) rest

/-- A text that can stand as one option: it is on one line, the quotes that toggle are even in
number, and each semicolon stands behind an odd number of them. -/
structure IsOption (option : List Char) : Prop where
  oneLine : '\n' ∉ option
  toggles_even : toggles none option % 2 = 0
  semicolons_inside : ∀ front back, option = front ++ ';' :: back → toggles none front % 2 = 1

/-! ## Closed texts -/

/-- Reading one character changes sides exactly if it adds one to the count. -/
theorem toNat_xor_add_mod_two (inside toggled : Bool) (n : Nat) :
    ((inside ^^ toggled).toNat + n) % 2 = (inside.toNat + ((if toggled then 1 else 0) + n)) % 2 := by
  cases inside with
  | false => cases toggled <;> simp
  | true =>
      cases toggled with
      | false => simp
      | true =>
          simp only [Bool.xor_self, Bool.toNat_false, Bool.toNat_true, if_true]
          omega

theorem isClosed_iff (inside : Bool) (before : Option Char) (s : List Char) :
    isClosed inside before s = true ↔
      (inside.toNat + toggles before s) % 2 = 0 ∧
        ∀ front back, s = front ++ ';' :: back →
          (inside.toNat + toggles before front) % 2 = 1 := by
  -- where the reading stands may change at every character, so the side it begins on is general
  induction s generalizing inside before with
  | nil => cases inside <;> simp [isClosed, toggles]
  | cons c rest ih =>
      rw [isClosed, Bool.and_eq_true, ih]
      simp only [toNat_xor_add_mod_two]
      constructor
      · rintro ⟨hhead, heven, hinside⟩
        refine ⟨heven, ?_⟩
        intro front back hs
        cases front with
        | nil =>
            -- the semicolon is the first character, so the reading begins inside quotes
            obtain ⟨rfl, -⟩ := List.cons.inj hs
            cases inside with
            | false => cases hhead
            | true => rfl
        | cons d front =>
            obtain ⟨rfl, hrest⟩ := List.cons.inj hs
            exact hinside front back hrest
      · rintro ⟨heven, hinside⟩
        refine ⟨?_, heven, ?_⟩
        · cases inside with
          | true => simp
          | false =>
              by_cases hc : c = ';'
              · subst hc
                exact absurd (hinside [] rest rfl) Nat.zero_ne_one
              · simp [hc]
        · intro front back hrest
          exact hinside (c :: front) back (congrArg (c :: ·) hrest)

/-! ## Options -/

theorem isOption_iff (option : List Char) :
    IsOption option ↔ '\n' ∉ option ∧ isClosed false none option = true := by
  have hclosed := isClosed_iff false none option
  simp only [Bool.toNat_false, Nat.zero_add] at hclosed
  rw [hclosed]
  constructor
  · rintro ⟨hline, heven, hinside⟩
    exact ⟨hline, heven, hinside⟩
  · rintro ⟨hline, heven, hinside⟩
    exact ⟨hline, heven, hinside⟩

instance (option : List Char) : Decidable (IsOption option) :=
  decidable_of_iff _ (isOption_iff option).symm

theorem IsOption.isClosed {option : List Char} (h : IsOption option) :
    isClosed false none option = true :=
  ((isOption_iff option).mp h).2

end RuleDesk.OptionList
