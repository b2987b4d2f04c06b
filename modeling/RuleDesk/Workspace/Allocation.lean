import RuleDesk.Workspace.Basic

/-!
# Copies numbered in words

Identifiers are words of 32 bits, and there are only so many of them above the largest in use. Here
the copies of the selected rules are numbered by operations on words alone, from the number of
selected rules to the last identifier. Each operation says whether its exact result is a word. Where
words are known to be left above the largest one this is asked for, and running out of them is
refused; elsewhere a result that is no word has wrapped, which is a failure of its own.
-/

set_option autoImplicit false

namespace RuleDesk

/-! ## Words -/

namespace Word

/-- The word of a number, unless the number is too large for one. -/
def ofNat? (n : Nat) : Option UInt32 :=
  if n < UInt32.size then some (UInt32.ofNat n) else none

/-- The sum of two words, unless it wraps. A sum that has wrapped is less than its summands. -/
def sum? (a b : UInt32) : Option UInt32 :=
  if a + b < a then none else some (a + b)

/-- The difference of two words, unless it wraps. -/
def difference? (a b : UInt32) : Option UInt32 :=
  if a < b then none else some (a - b)

/-- A word and those that come after it, so many steps on, unless a step wraps. -/
def ascend? (word : UInt32) : Nat → Option (List UInt32)
  | 0 => some [word]
  | steps + 1 => do
      let next ← sum? word 1
      let words ← ascend? next steps
      return word :: words

/-- The words from the first to the last, both included. No step is taken from the last one. -/
def through? (first last : UInt32) : Option (List UInt32) :=
  if last < first then some [] else ascend? first (last.toNat - first.toNat)

end Word

/-! ## Copies -/

/-- Why rules were not copied. -/
inductive CopyFailure where
  | refused (cause : WorkspaceError)
  /-- A word wrapped. No copying is meant to fail in this way. -/
  | wrapped
  deriving DecidableEq, Repr

/-- What an operation on words gives where it is not meant to wrap. -/
def CopyFailure.unlessWrapped {α : Type} : Option α → Except CopyFailure α
  | some a => .ok a
  | none => .error .wrapped

namespace Workspace

/-- The largest identifier in use, zero if there is none, or the floor if that is larger. -/
def topWord (w : Workspace) : UInt32 :=
  max ((w.rules.map (·.sid)).max?.getD 0) sidFloor

/-- The identifier of the next copy, unless the top one is the largest of all. -/
def nextWord? (w : Workspace) : Option UInt32 :=
  Word.sum? w.topWord 1

/-- Add a copy of each selected rule under the identifiers from the first to the last that is
needed, each found by operations on words, and give these identifiers. The selection is cleared. -/
def duplicateInWords (w : Workspace) : Except CopyFailure (List UInt32 × Workspace) := do
  if w.selection.isEmpty then throw (.refused (.input .nothingSelected))
  let count ← CopyFailure.unlessWrapped (Word.ofNat? w.selection.length)
  let some first := w.nextWord? | throw (.refused (.input .sidsExhausted))
  let steps ← CopyFailure.unlessWrapped (Word.difference? count 1)
  let some last := Word.sum? first steps | throw (.refused (.input .sidsExhausted))
  let sids ← CopyFailure.unlessWrapped (Word.through? first last)
  let copies := List.zipWith copyOf w.selected sids
  return (copies.map (·.sid), { w with rules := w.rules ++ copies, selection := [] })

end Workspace

end RuleDesk
