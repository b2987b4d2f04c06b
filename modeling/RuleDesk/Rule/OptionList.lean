import RuleDesk.Rule.Clause

/-!
# Option lists

The text between the parentheses of a rule is cut into options at each semicolon that stands
outside double quotes. A double quote opens or closes quoted text unless a backslash stands right
before it. What follows the last cut is an option of its own, unless it is empty.
-/

set_option autoImplicit false

namespace RuleDesk.OptionList

open RuleDesk.Text

/-- Whether a character, standing behind `before`, opens or closes quoted text. -/
def togglesQuote (before : Option Char) (c : Char) : Bool :=
  c == '"' && before != some '\\'

/-- The pieces of a body between its cuts. `inside` holds within quoted text and `before` is the
character before the body. -/
def cut (inside : Bool) (before : Option Char) : List Char → List (List Char)
  | [] => [[]]
  | c :: rest =>
      if c == ';' && !inside then [] :: cut false (some c) rest
      else
        match cut (inside ^^ togglesQuote before c) (some c) rest with
        | [] => [[c]]
        | piece :: pieces => (c :: piece) :: pieces

/-- Drop the last piece if it is empty. -/
def dropEmptyLast : List (List Char) → List (List Char)
  | [] => []
  | [piece] => if piece.isEmpty then [] else [piece]
  | piece :: pieces => piece :: dropEmptyLast pieces

/-- The options of a body. -/
def split (body : List Char) : List (List Char) :=
  dropEmptyLast (cut false none body)

/-- The clauses of a body that are known and have an effect. -/
def clauses (body : List Char) : List Clause :=
  (split body).filterMap Clause.read?

/-- The text of a list of clauses: a semicolon after each, and a space between them. -/
def chars (clauses : List Clause) : List Char :=
  joined [';', ' '] (clauses.map Clause.chars) ++ [';']

theorem cut_ne_nil (inside : Bool) (before : Option Char) (body : List Char) :
    cut inside before body ≠ [] := by
  cases body with
  | nil => simp [cut]
  | cons c rest =>
      unfold cut
      split
      · simp
      · split <;> simp

end RuleDesk.OptionList
