import Mathlib.Tactic.Common
import RuleDesk.Json.Printer
import RuleDesk.Json.Reader

/-!
# String literals read back

A string literal is read as its string, whatever follows it. Every character is written so that the
reader adds just that character: raw, as a letter behind a backslash, or by its code point.
-/

set_option autoImplicit false

namespace RuleDesk.Json

open RuleDesk.Text

section Strings

variable (before : List Char) (rest : List Glyph)

/-! ## Steps of the reader -/

theorem readString_raw {c : Char} (hquote : c ≠ '"') (hslash : c ≠ '\\') (hlow : ¬ c.toNat < 0x20) :
    readString { chars := before } (.char c :: rest) =
      readString { chars := c :: before } rest := by
  simp [readString, hlow, Scan.settle, Scan.push]

theorem readString_quote :
    readString { chars := before } (.char '"' :: rest) =
      .done none (String.ofList before.reverse) rest :=
  rfl

theorem readString_letter {letter c : Char} (hletter : letter ≠ 'u')
    (hread : escapedBy? letter = some c) :
    readString { chars := before } (.char '\\' :: .char letter :: rest) =
      readString { chars := c :: before } rest := by
  have hslash : readString { chars := before } (.char '\\' :: .char letter :: rest) =
      readString { spot := .escape, chars := before } (.char letter :: rest) := rfl
  rw [hslash]
  simp [readString, hread, Scan.settle, Scan.push]

theorem readString_hexDigit {digit : Char} {owed value h : Nat}
    (hread : hexValue? (.char digit) = some h) :
    readString { spot := .hex (owed + 2) value, chars := before } (.char digit :: rest) =
      readString { spot := .hex (owed + 1) (value * 16 + h), chars := before } rest := by
  simp [readString, hread]

/-- A code unit that is half of no surrogate pair is a character of its own. -/
theorem readString_lastHexDigit {digit : Char} {value h : Nat}
    (hread : hexValue? (.char digit) = some h) (hunit : value * 16 + h < 0xD800) :
    readString { spot := .hex 1 value, chars := before } (.char digit :: rest) =
      readString { chars := Char.ofNat (value * 16 + h) :: before } rest := by
  have hlow : ¬ 0xDC00 ≤ value * 16 + h := by omega
  have hhigh : ¬ 0xD800 ≤ value * 16 + h := by omega
  simp [readString, hread, Scan.pushUnit, hlow, hhigh, Scan.push]

/-! ## Characters -/

theorem hexValue?_hexDigit (n : Nat) : hexValue? (.char (hexDigit n)) = some (n % 16) := by
  have hall : ∀ d < 16, hexValue? (.char (Nat.digitChar d)) = some d := by decide
  exact hall (n % 16) (Nat.mod_lt n (by decide))

/-- Two zeros and two digits spell a code point below U+0100. -/
theorem readString_codePoint {n : Nat} (h : n < 0x100) :
    readString { chars := before }
        (.char '\\' :: .char 'u' :: .char '0' :: .char '0' :: .char (hexDigit (n / 16)) ::
          .char (hexDigit n) :: rest) =
      readString { chars := Char.ofNat n :: before } rest := by
  have hzero : hexValue? (.char '0') = some 0 := by decide
  have hvalue : ((0 * 16 + 0) * 16 + n / 16 % 16) * 16 + n % 16 = n := by omega
  have hopen (input : List Glyph) :
      readString { chars := before } (.char '\\' :: .char 'u' :: input) =
        readString { spot := .hex 4 0, chars := before } input := rfl
  rw [hopen, readString_hexDigit _ _ hzero, readString_hexDigit _ _ hzero,
    readString_hexDigit _ _ (hexValue?_hexDigit (n / 16)),
    readString_lastHexDigit _ _ (hexValue?_hexDigit n) (by omega), hvalue]

/-- How a character is written: as a letter behind a backslash, by its code point, or raw. -/
theorem escaped_cases (c : Char) :
    (∃ letter, letter ≠ 'u' ∧ escapedBy? letter = some c ∧ escaped c = ['\\', letter]) ∨
      (c.toNat < 0x20 ∧
        escaped c = ['\\', 'u', '0', '0', hexDigit (c.toNat / 16), hexDigit c.toNat]) ∨
      (c ≠ '"' ∧ c ≠ '\\' ∧ ¬ c.toNat < 0x20 ∧ escaped c = [c]) := by
  fun_cases escaped c with
  | case1 h => exact .inl ⟨'"', by decide, by rw [h]; rfl, rfl⟩
  | case2 _ h => exact .inl ⟨'\\', by decide, by rw [h]; rfl, rfl⟩
  | case3 _ _ h => exact .inl ⟨'n', by decide, by rw [h]; rfl, rfl⟩
  | case4 _ _ _ h => exact .inl ⟨'r', by decide, by rw [h]; rfl, rfl⟩
  | case5 _ _ _ _ h => exact .inl ⟨'t', by decide, by rw [h]; rfl, rfl⟩
  | case6 _ _ _ _ _ h => exact .inl ⟨'b', by decide, by rw [h]; rfl, rfl⟩
  | case7 _ _ _ _ _ _ h => exact .inl ⟨'f', by decide, by rw [h]; rfl, rfl⟩
  | case8 _ _ _ _ _ _ _ hlow => exact .inr (.inl ⟨hlow, rfl⟩)
  | case9 hquote hslash _ _ _ _ _ hlow => exact .inr (.inr ⟨hquote, hslash, hlow, rfl⟩)

/-- What is written for a character adds that character. -/
theorem readString_escaped (c : Char) :
    readString { chars := before } ((escaped c).map .char ++ rest) =
      readString { chars := c :: before } rest := by
  rcases escaped_cases c with ⟨letter, hletter, hread, hwritten⟩ | ⟨hlow, hwritten⟩ |
    ⟨hquote, hslash, hlow, hwritten⟩
  · rw [hwritten]
    exact readString_letter before rest hletter hread
  · have hcode := readString_codePoint before rest (n := c.toNat) (by omega)
    rw [Char.ofNat_toNat] at hcode
    rw [hwritten]
    exact hcode
  · rw [hwritten]
    exact readString_raw before rest hquote hslash hlow

end Strings

/-! ## Literals -/

theorem readString_flatMap_escaped (before cs : List Char) (rest : List Glyph) :
    readString { chars := before } ((cs.flatMap escaped).map .char ++ .char '"' :: rest) =
      .done none (String.ofList (before.reverse ++ cs)) rest := by
  induction cs generalizing before with
  | nil => simpa using readString_quote before rest
  | cons c cs ih =>
      rw [List.flatMap_cons, List.map_append, List.append_assoc, readString_escaped, ih]
      simp

/-- Behind its opening quote a literal is read as its string, up to the text that follows. -/
theorem readString_literal (s : String) (rest : List Glyph) :
    readString {} ((s.toList.flatMap escaped).map .char ++ .char '"' :: rest) =
      .done none s rest := by
  have h := readString_flatMap_escaped [] s.toList rest
  simpa using h

end RuleDesk.Json
