import SourceTutor.Text.Decoding

/-!
# File names

A name is a sequence of bytes without slashes. A name whose bytes are text is written as this text.
In any other name a byte that belongs to no character is written as a slash and the character with
the number of the byte: `/þ.c` is the name of the bytes `FE 2E 63`. No text can be taken for such a
name, since a text between slashes has none.

In what is printed or compared with texts, a name is replaced by what it reads as, which two names
may share.
-/

set_option autoImplicit false

namespace SourceTutor

/-- The order of two lists: by the first place at which they differ, a shorter list first. -/
def listLe {α : Type} [DecidableEq α] (before : α → α → Bool) : List α → List α → Bool
  | [], _ => true
  | _ :: _, [] => false
  | a :: k, b :: l => if a = b then listLe before k l else before a b

namespace FileName

/-- Whether the name is text. -/
def isText (name : String) : Bool := !name.toList.contains '/'

/-- The bytes that these characters stand for, where a slash makes a byte of the character behind
it. -/
def bytesOf : List Char → List UInt8
  | [] => []
  | '/' :: c :: rest => UInt8.ofNat c.toNat :: bytesOf rest
  | c :: rest => String.utf8EncodeChar c ++ bytesOf rest

/-- The bytes of a name. -/
def bytes (name : String) : List UInt8 := bytesOf name.toList

/-- The number of bytes of a name. -/
def size (name : String) : Nat := (bytes name).length

/-- What a name reads as. -/
def text (name : String) : String :=
  if isText name then name else String.ofList (Text.readLeniently none (bytes name))

/-- The order of bytes. -/
def byteBefore (x y : UInt8) : Bool := decide (x.toNat < y.toNat)

/-- The order of names is that of their bytes; two spellings of one name are in the order of
texts. -/
def before (a b : String) : Bool :=
  if bytes a = bytes b then decide (a < b) else listLe byteBefore (bytes a) (bytes b)

end FileName

end SourceTutor
