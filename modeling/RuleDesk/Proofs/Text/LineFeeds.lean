import Mathlib.Tactic.Common
import RuleDesk.Text.Utf8

/-!
# Octets around a line feed

A line feed stands between characters: it continues none, and no character of several octets is
read as one. So the octets before a line feed and those behind it are read on their own, also where
the octets before it break off inside a character, and a text has as many line feeds as its octets.
-/

set_option autoImplicit false

namespace RuleDesk.Text

theorem toNat_ofNat_of_isValidChar {n : Nat} (h : n.isValidChar) : (Char.ofNat n).toNat = n := by
  rw [Char.ofNat, dif_pos h]
  rfl

/-! ## Started characters -/

/-- The bits of a started character after the least octet that may follow. -/
def Started.least (s : Started) : Nat :=
  s.bits * 64 + (s.low.toNat - 0x80)

/-- Whether a started character ends above the ASCII range: no ASCII octet continues it, and there
are bits enough for the octets that are owed. -/
structure Started.IsLong (s : Started) : Prop where
  above_ascii : 0x80 ≤ s.low.toNat
  two_le_least : 2 ≤ s.least
  least_of_last : s.owed ≤ 1 → 0x80 ≤ s.least

theorem Started.bits_push (s : Started) (b : UInt8) :
    (s.push b).bits = s.bits * 64 + (b.toNat - 0x80) := by
  simp only [push]

theorem Started.least_push (s : Started) (b : UInt8) :
    (s.push b).least = (s.push b).bits * 64 := by
  have hlow : (s.push b).low.toNat - 0x80 = 0 := by
    simp only [push]
    decide
  unfold least
  omega

theorem Started.least_le_bits_push {s : Started} {b : UInt8} (hb : s.low ≤ b) :
    s.least ≤ (s.push b).bits := by
  have hlow := UInt8.le_iff_toNat_le.mp hb
  have hbits := s.bits_push b
  unfold least
  omega

/-- A character with more octets to come stays long. -/
theorem Started.IsLong.push {s : Started} (h : s.IsLong) {b : UInt8} (hb : s.low ≤ b) :
    (s.push b).IsLong := by
  have hbits : 2 ≤ (s.push b).bits := Nat.le_trans h.two_le_least (least_le_bits_push hb)
  have hleast : 0x80 ≤ (s.push b).least := by
    rw [least_push]
    omega
  exact ⟨Nat.le_refl _, Nat.le_trans (by decide) hleast, fun _ => hleast⟩

/-- The last octet of a long character does not make it a line feed. -/
theorem Started.IsLong.ofNat_bits_ne {s : Started} (h : s.IsLong) {b : UInt8} (hb : s.low ≤ b)
    (hlast : (s.push b).owed = 0) : Char.ofNat (s.push b).bits ≠ '\n' := by
  have howed : s.owed ≤ 1 := Nat.le_of_sub_eq_zero hlast
  have hbits : 0x80 ≤ (s.push b).bits :=
    Nat.le_trans (h.least_of_last howed) (least_le_bits_push hb)
  by_cases hvalid : (s.push b).bits.isValidChar
  · intro hchar
    have hnat := congrArg Char.toNat hchar
    rw [toNat_ofNat_of_isValidChar hvalid] at hnat
    have hten : '\n'.toNat = 10 := rfl
    omega
  · rw [Char.ofNat, dif_neg hvalid]
    decide

/-! ## First octets -/

/-- A first octet leaves enough bits: the bounds of the next octet make up for bits of zero. -/
theorem isLong_of_bits {owed bits read : Nat} {low high : UInt8} (hlow : 0x80 ≤ low.toNat)
    (htwo : 2 ≤ bits * 64 + (low.toNat - 0x80))
    (hlast : owed ≤ 1 → 0x80 ≤ bits * 64 + (low.toNat - 0x80)) :
    Started.IsLong ⟨owed, low, high, bits, read⟩ :=
  ⟨hlow, htwo, hlast⟩

/-- An octet that begins a character of several octets begins a long one. -/
theorem isLong_of_lead {b : UInt8} {s : Started} (h : lead b = .more s) : s.IsLong := by
  simp only [lead, UInt8.lt_iff_toNat_lt, ← UInt8.toNat_inj, UInt8.reduceToNat] at h
  split at h
  · exact Lead.noConfusion h
  split at h
  · exact Lead.noConfusion h
  split at h
  · obtain rfl := Lead.more.inj h
    apply isLong_of_bits <;> simp only [UInt8.reduceToNat] <;> omega
  split at h
  · obtain rfl := Lead.more.inj h
    apply isLong_of_bits <;> simp
  split at h
  · obtain rfl := Lead.more.inj h
    apply isLong_of_bits <;> simp
  split at h
  · obtain rfl := Lead.more.inj h
    apply isLong_of_bits <;> simp only [UInt8.reduceToNat] <;> omega
  split at h
  · obtain rfl := Lead.more.inj h
    apply isLong_of_bits <;> simp
  split at h
  · obtain rfl := Lead.more.inj h
    apply isLong_of_bits <;> simp only [UInt8.reduceToNat] <;> omega
  split at h
  · obtain rfl := Lead.more.inj h
    apply isLong_of_bits <;> simp
  · exact Lead.noConfusion h

/-- An octet that stands for itself is a character of the ASCII range or a flaw. -/
theorem cases_of_lead {b : UInt8} {g : Glyph} (h : lead b = .whole g) :
    (b.toNat < 0x80 ∧ g = .char (Char.ofNat b.toNat)) ∨ (0x80 ≤ b.toNat ∧ g = .flaw 1) := by
  simp only [lead, UInt8.lt_iff_toNat_lt, UInt8.reduceToNat] at h
  split at h
  · next hascii => exact Or.inl ⟨hascii, (Lead.whole.inj h).symm⟩
  · next hascii =>
      refine Or.inr ⟨Nat.not_lt.mp hascii, ?_⟩
      repeat' split at h
      all_goals
        first
          | exact (Lead.whole.inj h).symm
          | exact Lead.noConfusion h

/-- An octet that stands for itself is read as a line feed exactly if it is one. -/
theorem shown_of_lead {b : UInt8} {g : Glyph} (h : lead b = .whole g) :
    g.shown = '\n' ↔ b = 0x0A := by
  rcases cases_of_lead h with ⟨hascii, rfl⟩ | ⟨hascii, rfl⟩
  · constructor
    · intro hchar
      have hnat := congrArg Char.toNat hchar
      rw [Glyph.shown, toNat_ofNat_of_isValidChar (Or.inl (by omega))] at hnat
      exact UInt8.toNat_inj.mp hnat
    · rintro rfl
      rfl
  · constructor
    · intro hchar
      exact absurd hchar (by decide)
    · rintro rfl
      exact absurd hascii (by decide)

/-! ## Steps -/

/-- Whether a reading stands between characters or in a long one. -/
def IsReading (s : Option Started) : Prop :=
  ∀ t ∈ s, t.IsLong

theorem isReading_none : IsReading none := by
  intro t ht
  cases ht

theorem isReading_some {s : Started} (h : s.IsLong) : IsReading (some s) := by
  rintro t ht
  obtain rfl := Option.mem_some_iff.mp ht
  exact h

/-- How many line feeds a list of glyphs shows. -/
def lineFeeds (gs : List Glyph) : Nat :=
  (gs.map Glyph.shown).count '\n'

theorem lineFeeds_append (front back : List Glyph) :
    lineFeeds (front ++ back) = lineFeeds front + lineFeeds back := by
  rw [lineFeeds, List.map_append, List.count_append]
  rfl

/-- What one octet does to a reading, whatever follows it: it gives glyphs, which show a line feed
exactly if the octet is one, and it leaves a reading to go on from. -/
structure IsStep (s : Option Started) (b : UInt8) (front : List Glyph) (next : Option Started) :
    Prop where
  readFrom_cons : ∀ rest, readFrom s (b :: rest) = front ++ readFrom next rest
  lineFeeds_eq : lineFeeds front = if b = 0x0A then 1 else 0
  isReading : IsReading next

/-- An octet between characters. -/
theorem exists_step_between (b : UInt8) : ∃ front next, IsStep none b front next := by
  cases h : lead b with
  | whole g =>
      have hcount : lineFeeds [g] = if b = 0x0A then 1 else 0 := by
        simp only [lineFeeds, List.map_cons, List.map_nil, List.count_singleton, beq_iff_eq,
          shown_of_lead h]
      exact ⟨[g], none, fun rest => by rw [readFrom, h]; rfl, hcount, isReading_none⟩
  | more s =>
      have hb : b ≠ 0x0A := by
        rintro rfl
        have hlead : lead 0x0A = .whole (.char '\n') := by decide
        rw [hlead] at h
        exact Lead.noConfusion h
      have hcount : lineFeeds [] = if b = 0x0A then 1 else 0 := by
        rw [if_neg hb]
        rfl
      exact ⟨[], some s, fun rest => by rw [readFrom, h]; rfl, hcount,
        isReading_some (isLong_of_lead h)⟩

/-- An octet that does not continue a character ends it with a flaw and is read between characters.
-/
theorem readFrom_broken {s : Started} {b : UInt8} (h : ¬ (s.low ≤ b ∧ b ≤ s.high))
    (rest : List UInt8) :
    readFrom (some s) (b :: rest) = .flaw s.read :: readFrom none (b :: rest) := by
  simp only [readFrom, if_neg h]

theorem exists_step {s : Option Started} (hs : IsReading s) (b : UInt8) :
    ∃ front next, IsStep s b front next := by
  cases s with
  | none => exact exists_step_between b
  | some s =>
      have hlong : s.IsLong := hs s rfl
      by_cases hin : s.low ≤ b ∧ b ≤ s.high
      · have hb : b ≠ 0x0A := by
          rintro rfl
          have hten : s.low.toNat ≤ 10 := UInt8.le_iff_toNat_le.mp hin.1
          have habove := hlong.above_ascii
          omega
        by_cases hlast : (s.push b).owed = 0
        · refine ⟨[.char (Char.ofNat (s.push b).bits)], none, fun rest => ?_, ?_, isReading_none⟩
          · simp only [readFrom, if_pos hin, if_pos hlast]
            rfl
          · have hchar := hlong.ofNat_bits_ne hin.1 hlast
            simp [lineFeeds, Glyph.shown, hchar, hb]
        · refine ⟨[], some (s.push b), fun rest => ?_, ?_, isReading_some (hlong.push hin.1)⟩
          · simp only [readFrom, if_pos hin, if_neg hlast]
            rfl
          · rw [if_neg hb]
            rfl
      · -- the flaw shows no line feed, so the octet counts as it does between characters
        obtain ⟨front, next, hstep⟩ := exists_step_between b
        refine ⟨.flaw s.read :: front, next, fun rest => ?_, ?_, hstep.isReading⟩
        · rw [readFrom_broken hin, hstep.readFrom_cons]
          rfl
        · have hflaw : lineFeeds [.flaw s.read] = 0 := rfl
          rw [← hstep.lineFeeds_eq, ← List.singleton_append, lineFeeds_append, hflaw, Nat.zero_add]

/-! ## Whole texts -/

theorem readFrom_append_lineFeed {s : Option Started} (hs : IsReading s) (a b : List UInt8) :
    readFrom s (a ++ 0x0A :: b) = readFrom s a ++ .char '\n' :: readFrom none b := by
  induction a generalizing s with
  | nil =>
      cases s with
      | none => rfl
      | some s =>
          have hout : ¬ (s.low ≤ 0x0A ∧ 0x0A ≤ s.high) := by
            rintro ⟨hlow, -⟩
            have hten : s.low.toNat ≤ 10 := UInt8.le_iff_toNat_le.mp hlow
            have habove := (hs s rfl).above_ascii
            omega
          rw [List.nil_append, readFrom_broken hout]
          rfl
  | cons c a ih =>
      obtain ⟨front, next, hstep⟩ := exists_step hs c
      rw [List.cons_append, hstep.readFrom_cons, hstep.readFrom_cons, ih hstep.isReading,
        List.append_assoc]

theorem lineFeeds_readFrom {s : Option Started} (hs : IsReading s) (octets : List UInt8) :
    lineFeeds (readFrom s octets) = octets.count 0x0A := by
  induction octets generalizing s with
  | nil => cases s <;> rfl
  | cons c octets ih =>
      obtain ⟨front, next, hstep⟩ := exists_step hs c
      rw [hstep.readFrom_cons, lineFeeds_append, hstep.lineFeeds_eq, ih hstep.isReading,
        List.count_cons, Nat.add_comm]
      simp only [beq_iff_eq]

/-- The text around a line feed is the text of the octets before it and that of those behind it. -/
theorem lossyText_append_lineFeed (a b : List UInt8) :
    lossyText (a ++ 0x0A :: b) = lossyText a ++ '\n' :: lossyText b := by
  rw [lossyText, glyphs, readFrom_append_lineFeed isReading_none, List.map_append, List.map_cons]
  rfl

/-- A text has the line feeds of its octets. -/
theorem count_lossyText (octets : List UInt8) :
    (lossyText octets).count '\n' = octets.count 0x0A :=
  lineFeeds_readFrom isReading_none octets

end RuleDesk.Text
