/-
  Texts quoted for messages: between double quotes, with a backslash before a quote and a
  backslash, short escapes for NUL, tab and line ends, and `\u` with the code in braces for every
  other character that is not visible by itself.

  * `quoted` writes a text in this form; `backquoted` puts one between marks as it is.
-/
import TableService.Text.Visible

namespace TableService.Text

/-- The digits of a number in lower-case hexadecimal. -/
def hex (n : Nat) : List Char := Nat.toDigits 16 n

/-- A character inside a quoted text. -/
def quotedChar (c : Char) : List Char :=
  if c = '"' then ['\\', '"']
  else if c = '\\' then ['\\', '\\']
  else if c = '\n' then ['\\', 'n']
  else if c = '\r' then ['\\', 'r']
  else if c = '\t' then ['\\', 't']
  else if c.toNat = 0 then ['\\', '0']
  else if isVisible c then [c]
  else ['\\', 'u', '\x7b'] ++ hex c.toNat ++ ['\x7d']

/-- The text between quotes. -/
def quoted (s : String) : String :=
  String.ofList ('"' :: s.toList.flatMap quotedChar ++ ['"'])

/-- The text after a grave accent and before an apostrophe. -/
def backquoted (s : String) : String := String.singleton (Char.ofNat 0x60) ++ s ++ "'"

end TableService.Text
