/-!
# Keywords

A vocabulary is a finite type whose members have one spelling each. Reading a keyword accepts
exactly those spellings.
-/

set_option autoImplicit false

namespace RuleDesk

/-- A finite vocabulary: what its members are called together, all of them in order, and the
spelling of each. -/
class Vocabulary (α : Type) where
  noun : String
  all : List α
  spelling : α → String

/-- A word that a vocabulary does not have. -/
structure UnknownKeyword where
  noun : String
  word : String
  deriving DecidableEq, Repr

/-- The wording of an unknown keyword. -/
def UnknownKeyword.message (e : UnknownKeyword) : String :=
  s!"Unknown {e.noun} '{e.word}'"

namespace Vocabulary

variable {α : Type} [Vocabulary α]

/-- The member with a given spelling. -/
def ofWord? (word : String) : Option α :=
  (all : List α).find? (fun a => spelling a == word)

/-- The member with a given spelling, or the word that has none. -/
def ofWord (α : Type) [Vocabulary α] (word : String) : Except UnknownKeyword α :=
  match ofWord? word with
  | some a => .ok a
  | none => .error ⟨noun α, word⟩

/-- The spellings of a vocabulary, in order. -/
def words (α : Type) [Vocabulary α] : List String :=
  (all : List α).map spelling

end Vocabulary

end RuleDesk
