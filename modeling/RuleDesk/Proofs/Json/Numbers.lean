import Mathlib.Tactic.Common
import RuleDesk.Json.Reader
import RuleDesk.Proofs.Text.Numerals

/-!
# Natural numbers read back

The decimal digits of a number have no leading zero, so the reader takes them for a number. Below
`2 ^ 64` no digit is dropped, and the number is read exactly if nothing that goes on a number comes
after its digits.
-/

set_option autoImplicit false

namespace RuleDesk.Json

open RuleDesk.Text

/-! ## Digits -/

/-- The number that a digit stands for. -/
def digitValue (c : Char) : Nat :=
  c.toNat - '0'.toNat

theorem digit?_of_isAsciiDigit {c : Char} (h : isAsciiDigit c = true) :
    digit? (.char c) = some (digitValue c) := by
  have hbounds : '0' ≤ c ∧ c ≤ '9' := by
    simpa only [isAsciiDigit, Bool.and_eq_true, decide_eq_true_eq] using h
  exact if_pos hbounds

/-- Only the numeral of zero begins with zero. -/
theorem numeral_eq_cons {n : Nat} (hpos : 0 < n) :
    ∃ c cs, numeral n = c :: cs ∧ digitValue c ≠ 0 := by
  induction n using Nat.strongRecOn with
  | _ n ih =>
      by_cases hsmall : n < 10
      · refine ⟨n.digitChar, [], Nat.toDigits_of_lt_base hsmall, ?_⟩
        have hvalue : digitValue n.digitChar = n := Nat.toNat_digitChar_sub_48_of_lt_ten hsmall
        omega
      · rcases ih (n / 10) (by omega) (by omega) with ⟨c, cs, hdigits, hc⟩
        refine ⟨c, cs ++ [(n % 10).digitChar], ?_, hc⟩
        have hlast : numeral n = numeral (n / 10) ++ [(n % 10).digitChar] :=
          Nat.toDigits_of_base_le (by decide) (by omega)
        rw [hlast, hdigits, List.cons_append]

/-! ## Runs of digits -/

/-- Whether a number ends before a text: neither a digit nor a fraction nor a power follows. -/
def endsNumber : List Glyph → Bool
  | [] => true
  | g :: _ => (digit? g).isNone && g != .char '.' && g != .char 'e' && g != .char 'E'

theorem spanDigits_of_endsNumber {rest : List Glyph} (h : endsNumber rest = true) :
    spanDigits rest = ([], rest) := by
  cases rest with
  | nil => rfl
  | cons g rest =>
      have hnone : digit? g = none := by
        simp only [endsNumber, Bool.and_eq_true, Option.isNone_iff_eq_none] at h
        exact h.1.1.1
      rw [spanDigits, hnone]

theorem spanDigits_append {cs : List Char} {rest : List Glyph}
    (hdigits : ∀ c ∈ cs, isAsciiDigit c = true) (hends : endsNumber rest = true) :
    spanDigits (cs.map .char ++ rest) = (cs.map digitValue, rest) := by
  induction cs with
  | nil => exact spanDigits_of_endsNumber hends
  | cons c cs ih =>
      have hc := digit?_of_isAsciiDigit (hdigits c List.mem_cons_self)
      have hcs := ih fun d hd => hdigits d (List.mem_cons_of_mem c hd)
      rw [List.map_cons, List.cons_append, spanDigits, hc, hcs, List.map_cons]

theorem le_ofDigitChars (cs : List Char) (significand : Nat) :
    significand ≤ Nat.ofDigitChars 10 cs significand := by
  rw [Nat.ofDigitChars_eq_ofDigitChars_zero]
  exact Nat.le_trans (Nat.le_mul_of_pos_left _ (Nat.pow_pos (by decide))) (Nat.le_add_right _ _)

/-- The digits of a number that keeps to the limit are all gathered. -/
theorem gather_of_le {significand : Nat} {cs : List Char}
    (h : Nat.ofDigitChars 10 cs significand ≤ significandLimit) :
    gather significand (cs.map digitValue) = (Nat.ofDigitChars 10 cs significand, []) := by
  induction cs generalizing significand with
  | nil => rfl
  | cons c cs ih =>
      have hstep : Nat.ofDigitChars 10 (c :: cs) significand =
          Nat.ofDigitChars 10 cs (significand * 10 + digitValue c) := by
        rw [Nat.ofDigitChars_cons, Nat.mul_comm]
        rfl
      rw [hstep] at h ⊢
      have hsofar := Nat.le_trans (le_ofDigitChars cs (significand * 10 + digitValue c)) h
      rw [List.map_cons, gather, if_neg (Nat.not_lt.mpr hsofar), ih h]

/-! ## Numbers -/

/-- Digits are read as the number they gather to, unless a zero leads them. -/
theorem readNumber_eq_natural {input rest : List Glyph} {d : Nat} {ds : List Nat} {n : Nat}
    (hspan : spanDigits input = (d :: ds, rest)) (hlead : d ≠ 0 ∨ ds = [])
    (hgather : gather 0 (d :: ds) = (n, [])) (hends : endsNumber rest = true) :
    readNumber false input = .done none (.natural n) rest := by
  rw [readNumber, hspan]
  split
  · next h => simp at h
  · next h => simp at h
  · next h =>
      obtain ⟨⟨hd, hds⟩, -⟩ := by simpa only [Prod.mk.injEq, List.cons.injEq] using h
      rcases hlead with hnonzero | hempty
      · exact absurd hd hnonzero
      · rw [hempty] at hds
        exact absurd hds (List.cons_ne_nil _ _).symm
  · next digits after _ _ _ h =>
      obtain ⟨rfl, rfl⟩ := by simpa only [Prod.mk.injEq] using h
      rw [hgather]
      dsimp only
      -- each of the three ways in which a number goes on begins with a glyph that is ruled out
      split
      · next h => simp [endsNumber] at hends
      · next h => simp [endsNumber] at hends
      · next h => simp [endsNumber] at hends
      · rfl
      · next hleft _ _ _ _ => exact absurd rfl hleft

/-- The numeral of a number below `2 ^ 64` is read as that number. -/
theorem readNumber_numeral {n : Nat} {rest : List Glyph} (h : n < UInt64.size)
    (hends : endsNumber rest = true) :
    readNumber false ((numeral n).map .char ++ rest) = .done none (.natural n) rest := by
  have hvalue : Nat.ofDigitChars 10 (numeral n) 0 = n := Nat.ofDigitChars_ten_toDigits
  have hgather : gather 0 ((numeral n).map digitValue) = (n, []) := by
    have hlimit : Nat.ofDigitChars 10 (numeral n) 0 ≤ significandLimit := by
      rw [hvalue]
      exact Nat.le_sub_one_of_lt h
    rw [gather_of_le hlimit, hvalue]
  have hspan : spanDigits ((numeral n).map .char ++ rest) = ((numeral n).map digitValue, rest) :=
    spanDigits_append (fun c hc => isAsciiDigit_of_mem_numeral hc) hends
  rcases Nat.eq_zero_or_pos n with hzero | hpos
  · subst hzero
    exact readNumber_eq_natural hspan (.inr rfl) hgather hends
  · rcases numeral_eq_cons hpos with ⟨c, cs, hdigits, hc⟩
    have hvalues : (numeral n).map digitValue = digitValue c :: cs.map digitValue := by
      rw [hdigits, List.map_cons]
    rw [hvalues] at hgather hspan
    exact readNumber_eq_natural hspan (.inl hc) hgather hends

end RuleDesk.Json
