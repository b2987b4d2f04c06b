import RuleDesk.Text.Blank

/-!
# Pieces of a text

Cutting a text at every character of a class gives one piece more than there are such characters;
joining the pieces with the separator gives the text back when the class is a single character.
Words are the non-empty pieces between blank characters.
-/

set_option autoImplicit false

namespace RuleDesk.Text

/-- The pieces of a sequence between the items that satisfy `p`; never empty as a list. -/
def piecesBy {α : Type} (p : α → Bool) : List α → List (List α)
  | [] => [[]]
  | c :: rest =>
      if p c then [] :: piecesBy p rest
      else
        match piecesBy p rest with
        | [] => [[c]]
        | piece :: pieces => (c :: piece) :: pieces

/-- The pieces of a text between the occurrences of one character. -/
def pieces (sep : Char) (s : List Char) : List (List Char) :=
  piecesBy (· == sep) s

/-- Write the pieces one after the other with `sep` between them. -/
def joined (sep : List Char) : List (List Char) → List Char
  | [] => []
  | [piece] => piece
  | piece :: pieces => piece ++ sep ++ joined sep pieces

/-- The maximal runs of characters that are not blank, in order. -/
def words (s : List Char) : List (List Char) :=
  (piecesBy isBlank s).filter (fun piece => !piece.isEmpty)

/-- The text before the first `sep` and the text after it, if there is one. -/
def cutAt? (sep : Char) : List Char → Option (List Char × List Char)
  | [] => none
  | c :: rest =>
      if c == sep then some ([], rest)
      else (cutAt? sep rest).map fun (before, after) => (c :: before, after)

/-- The items before the first occurrence of a pattern, and those behind it. -/
def cutAround? {α : Type} [BEq α] (pattern : List α) : List α → Option (List α × List α)
  | [] => if pattern.isEmpty then some ([], []) else none
  | a :: rest =>
      if pattern.isPrefixOf (a :: rest) then some ([], (a :: rest).drop pattern.length)
      else (cutAround? pattern rest).map fun (before, after) => (a :: before, after)

/-! ## Laws -/

theorem piecesBy_ne_nil {α : Type} (p : α → Bool) (s : List α) : piecesBy p s ≠ [] := by
  cases s with
  | nil => simp [piecesBy]
  | cons c rest =>
      unfold piecesBy
      split
      · simp
      · split <;> simp

/-- Joining the pieces with the separator gives the text back. -/
theorem joined_pieces (sep : Char) (s : List Char) : joined [sep] (pieces sep s) = s := by
  unfold pieces
  induction s with
  | nil => rfl
  | cons c rest ih =>
      have hne := piecesBy_ne_nil (· == sep) rest
      by_cases hc : c = sep
      · subst hc
        cases hp : piecesBy (· == c) rest with
        | nil => exact absurd hp hne
        | cons piece more =>
            rw [hp] at ih
            simp [piecesBy, hp, joined, ih]
      · cases hp : piecesBy (· == sep) rest with
        | nil => exact absurd hp hne
        | cons piece more =>
            rw [hp] at ih
            cases more with
            | nil => simp_all [piecesBy, joined]
            | cons next rest' => simp_all [piecesBy, joined]

end RuleDesk.Text
