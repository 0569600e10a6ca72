import SourceTutor.Text.Printable

/-!
# Quoted texts

A text between double quotes, in one line. Tab, line feed, carriage return, the zero character,
the backslash and the quote have short escapes; any other character that is not printable is
written as its code point in hexadecimal digits between braces.
-/

set_option autoImplicit false

namespace SourceTutor.Text

/-- The hexadecimal digits of a number, in lower case. -/
def hexDigits (n : Nat) : List Char := Nat.toDigits 16 n

/-- How one character is written inside the quotes. -/
def quotedChar (c : Char) : List Char :=
  if c == '\t' then ['\\', 't']
  else if c == '\n' then ['\\', 'n']
  else if c == '\r' then ['\\', 'r']
  else if c == '\x00' then ['\\', '0']
  else if c == '\\' then ['\\', '\\']
  else if c == '"' then ['\\', '"']
  else if isPrintable c then [c]
  else ['\\', 'u', '\x7b'] ++ hexDigits c.toNat ++ ['\x7d']

/-- The text between quotes. -/
def quoted (s : String) : String :=
  String.ofList (['"'] ++ s.toList.flatMap quotedChar ++ ['"'])

end SourceTutor.Text
