import SourceTutor.Json.Basic

/-!
# Writing JSON

A document is written with one element or member to a line, indented by two spaces for each level;
an empty array or object takes no lines. In a text the quote, the backslash and the control
characters are escaped, and everything else stands as it is.
-/

set_option autoImplicit false

namespace SourceTutor.Json

/-- A hexadecimal digit in lower case. -/
def hexDigit (n : Nat) : Char := Nat.digitChar (n % 16)

/-- How one character of a text is written. -/
def escapedChar (c : Char) : List Char :=
  if c == '"' then ['\\', '"']
  else if c == '\\' then ['\\', '\\']
  else if c == '\x08' then ['\\', 'b']
  else if c == '\x0c' then ['\\', 'f']
  else if c == '\n' then ['\\', 'n']
  else if c == '\r' then ['\\', 'r']
  else if c == '\t' then ['\\', 't']
  else if c.toNat < 0x20 then ['\\', 'u', '0', '0', hexDigit (c.toNat / 16), hexDigit c.toNat]
  else [c]

/-- A text in quotes. A text that is none is written as an empty one. -/
def quotedText (s : Option String) : List Char :=
  ['"'] ++ (s.getD "").toList.flatMap escapedChar ++ ['"']

/-- A new line at the given level. -/
def newLine (level : Nat) : List Char := '\n' :: List.replicate (2 * level) ' '

mutual

/-- The value as it stands at the given level. -/
def render (level : Nat) : Json → List Char
  | .null => ['n', 'u', 'l', 'l']
  | .bool b => if b then ['t', 'r', 'u', 'e'] else ['f', 'a', 'l', 's', 'e']
  | .number literal => literal.toList
  | .text s => quotedText s
  | .array [] => ['[', ']']
  | .array (v :: vs) =>
    ['['] ++ newLine (level + 1) ++ render (level + 1) v ++ renderElements (level + 1) vs ++
      newLine level ++ [']']
  | .object [] => ['\x7b', '\x7d']
  | .object ((name, v) :: ms) =>
    ['\x7b'] ++ newLine (level + 1) ++ quotedText name ++ [':', ' '] ++ render (level + 1) v ++
      renderMembers (level + 1) ms ++ newLine level ++ ['\x7d']

/-- The further elements of an array. -/
def renderElements (level : Nat) : List Json → List Char
  | [] => []
  | v :: vs => [','] ++ newLine level ++ render level v ++ renderElements level vs

/-- The further members of an object. -/
def renderMembers (level : Nat) : List (Option String × Json) → List Char
  | [] => []
  | (name, v) :: ms =>
    [','] ++ newLine level ++ quotedText name ++ [':', ' '] ++ render level v ++
      renderMembers level ms

end

/-- The text of a document. -/
def print (v : Json) : String := String.ofList (render 0 v)

end SourceTutor.Json
