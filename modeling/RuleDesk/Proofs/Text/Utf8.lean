import Mathlib.Tactic.Common
import RuleDesk.Text.Utf8

/-!
# Characters read back from their octets

Reading the octets of a character gives the character and goes on between characters. So the octets
of a text are read as its characters, without a flaw.
-/

set_option autoImplicit false

namespace RuleDesk.Text

/-! ## First octets -/

section Lead

variable {b : UInt8}

theorem lead_ascii (h : b.toNat < 0x80) : lead b = .whole (.char (Char.ofNat b.toNat)) := by
  have hb : b < 0x80 := UInt8.lt_iff_toNat_lt.mpr h
  rw [lead, if_pos hb]

theorem lead_two (hlow : 0xC2 ≤ b.toNat) (hhigh : b.toNat < 0xE0) :
    lead b = .more ⟨1, 0x80, 0xBF, b.toNat - 0xC0, 1⟩ := by
  simp only [lead, UInt8.lt_iff_toNat_lt, UInt8.reduceToNat]
  rw [if_neg (by omega), if_neg (by omega), if_pos hhigh]

/-- The least and the greatest octet that may follow the first of three. -/
def boundsOfThree (n : Nat) : UInt8 × UInt8 :=
  if n = 0xE0 then (0xA0, 0xBF) else if n = 0xED then (0x80, 0x9F) else (0x80, 0xBF)

theorem lead_three (hlow : 0xE0 ≤ b.toNat) (hhigh : b.toNat < 0xF0) :
    lead b =
      .more ⟨2, (boundsOfThree b.toNat).1, (boundsOfThree b.toNat).2, b.toNat - 0xE0, 1⟩ := by
  simp only [lead, boundsOfThree, UInt8.lt_iff_toNat_lt, ← UInt8.toNat_inj, UInt8.reduceToNat]
  rw [if_neg (by omega), if_neg (by omega), if_neg (by omega)]
  by_cases hfirst : b.toNat = 0xE0
  · simp [hfirst]
  · by_cases hlast : b.toNat = 0xED
    · simp [hlast]
    · simp [hfirst, hlast, hhigh]

/-- The least and the greatest octet that may follow the first of four. -/
def boundsOfFour (n : Nat) : UInt8 × UInt8 :=
  if n = 0xF0 then (0x90, 0xBF) else if n = 0xF4 then (0x80, 0x8F) else (0x80, 0xBF)

theorem lead_four (hlow : 0xF0 ≤ b.toNat) (hhigh : b.toNat < 0xF5) :
    lead b =
      .more ⟨3, (boundsOfFour b.toNat).1, (boundsOfFour b.toNat).2, b.toNat - 0xF0, 1⟩ := by
  simp only [lead, boundsOfFour, UInt8.lt_iff_toNat_lt, ← UInt8.toNat_inj, UInt8.reduceToNat]
  rw [if_neg (by omega), if_neg (by omega), if_neg (by omega), if_neg (by omega), if_neg (by omega),
    if_neg (by omega)]
  by_cases hfirst : b.toNat = 0xF0
  · simp [hfirst]
  · by_cases hlast : b.toNat = 0xF4
    · simp [hlast]
    · have hmiddle : b.toNat < 0xF4 := by omega
      simp [hfirst, hlast, hmiddle]

end Lead

/-! ## Continuation octets -/

/-- A continuation octet with given bits. -/
def tailOctet (bits : Nat) : UInt8 :=
  UInt8.ofNat (bits % 0x40 + 0x80)

theorem toNat_tailOctet (bits : Nat) : (tailOctet bits).toNat = bits % 0x40 + 0x80 := by
  rw [tailOctet, UInt8.toNat_ofNat']
  omega

/-- Reading goes on inside a character while octets are owed. -/
theorem readFrom_more {owed : Nat} {low high : UInt8} {bits read next : Nat} (rest : List UInt8)
    (hlow : low.toNat ≤ next % 0x40 + 0x80) (hhigh : next % 0x40 + 0x80 ≤ high.toNat) :
    readFrom (some ⟨owed + 2, low, high, bits, read⟩) (tailOctet next :: rest) =
      readFrom (some ⟨owed + 1, 0x80, 0xBF, bits * 64 + next % 0x40, read + 1⟩) rest := by
  have hin : low ≤ tailOctet next ∧ tailOctet next ≤ high := by
    rw [UInt8.le_iff_toNat_le, UInt8.le_iff_toNat_le, toNat_tailOctet]
    exact ⟨hlow, hhigh⟩
  rw [readFrom, if_pos hin]
  simp only [Started.push, toNat_tailOctet]
  rw [if_neg (by omega)]
  simp

/-- The last octet that is owed ends the character. -/
theorem readFrom_last {low high : UInt8} {bits read next : Nat} (rest : List UInt8)
    (hlow : low.toNat ≤ next % 0x40 + 0x80) (hhigh : next % 0x40 + 0x80 ≤ high.toNat) :
    readFrom (some ⟨1, low, high, bits, read⟩) (tailOctet next :: rest) =
      .char (Char.ofNat (bits * 64 + next % 0x40)) :: readFrom none rest := by
  have hin : low ≤ tailOctet next ∧ tailOctet next ≤ high := by
    rw [UInt8.le_iff_toNat_le, UInt8.le_iff_toNat_le, toNat_tailOctet]
    exact ⟨hlow, hhigh⟩
  rw [readFrom, if_pos hin]
  simp [Started.push, toNat_tailOctet]

/-! ## Characters -/

section Characters

variable {c : Char} (rest : List UInt8)

/-- The code points of characters leave out the surrogates. -/
theorem toNat_range (c : Char) : c.toNat < 0xD800 ∨ (0xDFFF < c.toNat ∧ c.toNat < 0x110000) :=
  c.valid

theorem readFrom_one_octet (h : c.toNat ≤ 0x7F) :
    readFrom none (String.utf8EncodeChar c ++ rest) = .char c :: readFrom none rest := by
  have hlead : (UInt8.ofNat c.toNat).toNat = c.toNat := by
    rw [UInt8.toNat_ofNat']
    omega
  have hoctets : String.utf8EncodeChar c = [UInt8.ofNat c.toNat] := if_pos h
  rw [hoctets, List.cons_append, List.nil_append, readFrom, lead_ascii (by omega), hlead,
    Char.ofNat_toNat]

theorem readFrom_two_octets (hlow : 0x7F < c.toNat) (hhigh : c.toNat ≤ 0x7FF) :
    readFrom none (String.utf8EncodeChar c ++ rest) = .char c :: readFrom none rest := by
  have hlead : (UInt8.ofNat (c.toNat / 64 % 32 + 0xC0)).toNat = c.toNat / 64 + 0xC0 := by
    rw [UInt8.toNat_ofNat']
    omega
  have hoctets : String.utf8EncodeChar c =
      [UInt8.ofNat (c.toNat / 64 % 32 + 0xC0), tailOctet c.toNat] := by
    rw [String.utf8EncodeChar]
    exact (if_neg (Nat.not_le.mpr hlow)).trans (if_pos hhigh)
  have hbits : c.toNat / 64 * 64 + c.toNat % 64 = c.toNat := by omega
  rw [hoctets, List.cons_append, List.cons_append, List.nil_append, readFrom,
    lead_two (by omega) (by omega), hlead]
  show readFrom (some _) _ = _
  rw [readFrom_last rest (by simp) (by simp; omega), Nat.add_sub_cancel, hbits, Char.ofNat_toNat]

theorem readFrom_three_octets (hlow : 0x7FF < c.toNat) (hhigh : c.toNat ≤ 0xFFFF) :
    readFrom none (String.utf8EncodeChar c ++ rest) = .char c :: readFrom none rest := by
  have hlead : (UInt8.ofNat (c.toNat / 4096 % 16 + 0xE0)).toNat = c.toNat / 4096 + 0xE0 := by
    rw [UInt8.toNat_ofNat']
    omega
  have hoctets : String.utf8EncodeChar c =
      [UInt8.ofNat (c.toNat / 4096 % 16 + 0xE0), tailOctet (c.toNat / 64), tailOctet c.toNat] := by
    have hone : ¬ c.toNat ≤ 0x7F := by omega
    rw [String.utf8EncodeChar]
    exact ((if_neg hone).trans (if_neg (Nat.not_le.mpr hlow))).trans (if_pos hhigh)
  -- the bounds after the first octet keep out what has a shorter form, and the surrogates
  have hbounds : (boundsOfThree (c.toNat / 4096 + 0xE0)).1.toNat ≤ c.toNat / 64 % 64 + 0x80 ∧
      c.toNat / 64 % 64 + 0x80 ≤ (boundsOfThree (c.toNat / 4096 + 0xE0)).2.toNat := by
    have hrange := toNat_range c
    rw [boundsOfThree]
    split
    · constructor <;> simp <;> omega
    · split
      · constructor <;> simp
        omega
      · constructor <;> simp
        omega
  have hbits : (c.toNat / 4096 * 64 + c.toNat / 64 % 64) * 64 + c.toNat % 64 = c.toNat := by omega
  rw [hoctets, List.cons_append, List.cons_append, List.cons_append, List.nil_append, readFrom,
    lead_three (by omega) (by omega), hlead]
  show readFrom (some _) _ = _
  rw [readFrom_more _ hbounds.1 hbounds.2, readFrom_last rest (by simp) (by simp; omega),
    Nat.add_sub_cancel, hbits, Char.ofNat_toNat]

theorem readFrom_four_octets (hlow : 0xFFFF < c.toNat) :
    readFrom none (String.utf8EncodeChar c ++ rest) = .char c :: readFrom none rest := by
  have hrange := toNat_range c
  have hlead : (UInt8.ofNat (c.toNat / 262144 % 8 + 0xF0)).toNat = c.toNat / 262144 + 0xF0 := by
    rw [UInt8.toNat_ofNat']
    omega
  have hoctets : String.utf8EncodeChar c =
      [UInt8.ofNat (c.toNat / 262144 % 8 + 0xF0), tailOctet (c.toNat / 4096),
        tailOctet (c.toNat / 64), tailOctet c.toNat] := by
    have hone : ¬ c.toNat ≤ 0x7F := by omega
    have htwo : ¬ c.toNat ≤ 0x7FF := by omega
    rw [String.utf8EncodeChar]
    exact ((if_neg hone).trans (if_neg htwo)).trans (if_neg (Nat.not_le.mpr hlow))
  -- here they keep out what has a shorter form, and what lies above the last code point
  have hbounds : (boundsOfFour (c.toNat / 262144 + 0xF0)).1.toNat ≤ c.toNat / 4096 % 64 + 0x80 ∧
      c.toNat / 4096 % 64 + 0x80 ≤ (boundsOfFour (c.toNat / 262144 + 0xF0)).2.toNat := by
    rw [boundsOfFour]
    split
    · constructor <;> simp <;> omega
    · split
      · constructor <;> simp
        omega
      · constructor <;> simp
        omega
  have hbits : ((c.toNat / 262144 * 64 + c.toNat / 4096 % 64) * 64 + c.toNat / 64 % 64) * 64 +
      c.toNat % 64 = c.toNat := by omega
  rw [hoctets, List.cons_append, List.cons_append, List.cons_append, List.cons_append,
    List.nil_append, readFrom, lead_four (by omega) (by omega), hlead]
  show readFrom (some _) _ = _
  rw [readFrom_more _ hbounds.1 hbounds.2, readFrom_more _ (by simp) (by simp; omega),
    readFrom_last rest (by simp) (by simp; omega), Nat.add_sub_cancel, hbits, Char.ofNat_toNat]

/-- The octets of a character are read as that character, whatever follows them. -/
theorem readFrom_utf8EncodeChar (c : Char) (rest : List UInt8) :
    readFrom none (String.utf8EncodeChar c ++ rest) = .char c :: readFrom none rest := by
  by_cases hone : c.toNat ≤ 0x7F
  · exact readFrom_one_octet rest hone
  · by_cases htwo : c.toNat ≤ 0x7FF
    · exact readFrom_two_octets rest (by omega) htwo
    · by_cases hthree : c.toNat ≤ 0xFFFF
      · exact readFrom_three_octets rest (by omega) hthree
      · exact readFrom_four_octets rest (by omega)

end Characters

/-! ## Texts -/

/-- The octets of a text are read as its characters. -/
theorem glyphs_toOctets (s : List Char) : glyphs (toOctets s) = s.map .char := by
  induction s with
  | nil => rfl
  | cons c rest ih =>
      have hsplit : toOctets (c :: rest) = String.utf8EncodeChar c ++ toOctets rest := by
        rw [toOctets, List.flatMap_cons]
        rfl
      rw [glyphs, hsplit, readFrom_utf8EncodeChar, List.map_cons]
      exact congrArg (Glyph.char c :: ·) ih

/-- A text comes back from its octets, since none of them is a flaw. -/
theorem lossyText_toOctets (s : List Char) : lossyText (toOctets s) = s := by
  rw [lossyText, glyphs_toOctets, List.map_map]
  exact List.map_id s

end RuleDesk.Text
