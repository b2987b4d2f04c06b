import RuleDesk.Text.Invisible

/-!
# Quoted text in messages

A text is quoted so that every character of it can be seen: a quote, a backslash, tab, line feed,
carriage return and NUL have a short escape, other characters without a shape of their own are
written by their code point in hexadecimal, and all else stands as it is.
-/

set_option autoImplicit false

namespace RuleDesk.Text

/-- The hexadecimal digits of a number, lower case, without leading zeros. -/
def hexNumeral (n : Nat) : List Char :=
  Nat.toDigits 16 n

/-- One character inside quotes. -/
def quotedChar (c : Char) : List Char :=
  match c with
  | '\x00' => ['\\', '0']
  | '\t' => ['\\', 't']
  | '\n' => ['\\', 'n']
  | '\r' => ['\\', 'r']
  | '"' => ['\\', '"']
  | '\\' => ['\\', '\\']
  | _ =>
      if c.toNat < 0x20 || isInvisible c then
        ['\\', 'u', '\x7b'] ++ hexNumeral c.toNat ++ ['\x7d']
      else [c]

/-- The text between double quotes, with escapes. -/
def quoted (s : String) : String :=
  String.ofList ('"' :: s.toList.flatMap quotedChar ++ ['"'])

end RuleDesk.Text
