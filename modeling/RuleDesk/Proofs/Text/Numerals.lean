import Mathlib.Tactic.Common
import RuleDesk.Text.Numeral

/-!
# Numerals read back

The numeral of a number is one or more ASCII digits, and reading it gives the number, as long as it
keeps to the limit.
-/

set_option autoImplicit false

namespace RuleDesk.Text

theorem isAsciiDigit_of_isDigit {c : Char} (h : c.isDigit = true) : isAsciiDigit c = true := by
  simp only [Char.isDigit, Bool.and_eq_true, decide_eq_true_eq] at h
  simp only [isAsciiDigit, Bool.and_eq_true, decide_eq_true_eq]
  exact h

theorem isAsciiDigit_of_mem_numeral {c : Char} {n : Nat} (h : c ∈ numeral n) :
    isAsciiDigit c = true :=
  isAsciiDigit_of_isDigit (Nat.isDigit_of_mem_toDigits (by omega) (by omega) h)

theorem numeral_ne_nil (n : Nat) : numeral n ≠ [] :=
  Nat.toDigits_ne_nil

theorem digitsValue_numeral (n : Nat) : digitsValue (numeral n) = n := by
  have h : Nat.ofDigitChars 10 (Nat.toDigits 10 n) 0 = n :=
    Nat.ofDigitChars_toDigits (by omega) (by omega)
  rwa [Nat.ofDigitChars_eq_foldl] at h

theorem readDigits?_numeral (n : Nat) : readDigits? (numeral n) = some n := by
  have hempty : (numeral n).isEmpty = false := List.isEmpty_eq_false_iff.mpr (numeral_ne_nil n)
  have hall : (numeral n).all isAsciiDigit = true :=
    List.all_eq_true.mpr fun c hc => isAsciiDigit_of_mem_numeral hc
  simp [readDigits?, hempty, hall, digitsValue_numeral]

/-- A numeral has no sign before it. -/
theorem readNat?_numeral {limit n : Nat} (h : n ≤ limit) :
    readNat? limit (numeral n) = some n := by
  have hdigits : readNat? limit (numeral n) = (readDigits? (numeral n)).filter (· ≤ limit) := by
    unfold readNat?
    split
    · next rest hplus =>
        have hmem : '+' ∈ numeral n := hplus ▸ List.mem_cons_self
        exact absurd (isAsciiDigit_of_mem_numeral hmem) (by decide)
    · rfl
  rw [hdigits, readDigits?_numeral]
  simp [h]

@[simp] theorem readWord?_numeral (n : UInt32) : readWord? (numeral n.toNat) = some n := by
  have hn : n.toNat ≤ 0xFFFFFFFF := Nat.le_of_lt_succ n.toNat_lt
  rw [readWord?, readNat?_numeral hn]
  simp

end RuleDesk.Text
