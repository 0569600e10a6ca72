import SourceTutor.Json.Token

/-!
# Percent escapes

In a web address a character that may not stand as it is is written as its bytes in UTF-8, each as a
percent sign and two hexadecimal digits. Which characters of ASCII these are depends on the part of
the address; control characters and everything beyond ASCII never stand as they are.
-/

set_option autoImplicit false

namespace SourceTutor.Address

/-! ## What is escaped where -/

/-- What is escaped in a fragment. -/
def escapedInFragment (c : Char) : Bool := [' ', '"', '<', '>', '\x60'].contains c

/-- What is escaped in the query of an address of the web; elsewhere the single quote is not. -/
def escapedInQuery (web : Bool) (c : Char) : Bool :=
  [' ', '"', '#', '<', '>'].contains c || (web && c == '\'')

/-- What is escaped in a path. -/
def escapedInPath (c : Char) : Bool :=
  escapedInFragment c || ['#', '?', '\x7b', '\x7d'].contains c

/-- What is escaped in the name of a user or in a password. -/
def escapedInUser (c : Char) : Bool :=
  escapedInPath c || ['/', ':', ';', '=', '@', '[', '\\', ']', '^', '|'].contains c

/-! ## Writing and reading -/

/-- A hexadecimal digit in upper case. -/
def hexDigit (n : Nat) : Char := (Nat.digitChar n).toUpper

/-- The escape of a byte. -/
def escapeByte (b : UInt8) : List Char := ['%', hexDigit (b.toNat / 16), hexDigit (b.toNat % 16)]

/-- The text with the characters of a class, control characters and everything beyond ASCII
escaped. -/
def escape (p : Char → Bool) (s : List Char) : List Char :=
  s.flatMap fun c =>
    if c.toNat < 0x20 || 0x7E < c.toNat || p c then (String.utf8EncodeChar c).flatMap escapeByte
    else [c]

/-- The bytes that a text with escapes stands for. A percent sign without two digits stands for
itself. -/
def unescape : List Char → List UInt8
  | '%' :: a :: b :: s =>
    match Json.hexValue? a, Json.hexValue? b with
    | some x, some y => UInt8.ofNat (x * 16 + y) :: unescape s
    | _, _ => 0x25 :: unescape (a :: b :: s)
  | c :: s => String.utf8EncodeChar c ++ unescape s
  | [] => []

/-- The text that a text with escapes stands for, if its bytes are text. -/
def unescapeText? (s : List Char) : Option (List Char) :=
  (String.fromUTF8? ⟨(unescape s).toArray⟩).map String.toList

end SourceTutor.Address
