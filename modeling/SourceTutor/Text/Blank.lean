/-!
# Blank characters

The white space of the Unicode standard: twenty-five code points. A text is trimmed by dropping
them at both ends.
-/

set_option autoImplicit false

namespace SourceTutor.Text

/-- Whether the character is white space. -/
def isBlank (c : Char) : Bool :=
  let n := c.toNat
  (0x09 ≤ n && n ≤ 0x0D) || n == 0x20 || n == 0x85 || n == 0xA0 || n == 0x1680 ||
    (0x2000 ≤ n && n ≤ 0x200A) || n == 0x2028 || n == 0x2029 || n == 0x202F || n == 0x205F ||
    n == 0x3000

/-- The text without the white space before it. -/
def trimStart (s : List Char) : List Char := s.dropWhile isBlank

/-- The text without the white space after it. -/
def trimEnd (s : List Char) : List Char := (s.reverse.dropWhile isBlank).reverse

/-- The text without the white space around it. -/
def trim (s : String) : String := String.ofList (trimEnd (trimStart s.toList))

/-- Whether the text holds nothing but white space. -/
def isBlankText (s : String) : Bool := s.toList.all isBlank

end SourceTutor.Text
