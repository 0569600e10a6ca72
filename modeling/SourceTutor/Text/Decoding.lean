/-!
# Reading bytes as text

The bytes of a file are text when they are well-formed UTF-8. Any other sequence of bytes is read
with one character per byte, the byte's value being the character's code point, so that no byte is
lost either way.

The bytes of a name are read leniently: what is well-formed stands for its characters, and where a
character has begun that is not finished, or none has, the replacement character stands for the
bytes that are passed over.
-/

set_option autoImplicit false

namespace SourceTutor.Text

/-- The text with one character per byte. -/
def ofBytes (bytes : ByteArray) : String :=
  String.ofList (bytes.toList.map fun b => Char.ofNat b.toNat)

/-- The text that the bytes stand for. -/
def decode (bytes : ByteArray) : String :=
  match String.fromUTF8? bytes with
  | some s => s
  | none => ofBytes bytes

/-! ## Reading leniently -/

/-- A character of several bytes that has begun. -/
structure Unfinished where
  /-- How many bytes are still to come. -/
  missing : Nat
  /-- The next byte is at least this one, -/
  low : Nat
  /-- and at most this one. -/
  high : Nat
  /-- The number in the bits so far. -/
  bits : Nat

/-- The character that stands for bytes that are none. -/
def replacement : Char := '\uFFFD'

/-- What a byte begins. The bounds of the second byte leave out the forms that are longer than need
be, the surrogates and what lies beyond the last character. -/
def unfinished? (b : Nat) : Option Unfinished :=
  if 0xC2 ≤ b ∧ b ≤ 0xDF then some ⟨1, 0x80, 0xBF, b - 0xC0⟩
  else if 0xE0 ≤ b ∧ b ≤ 0xEF then
    some ⟨2, if b = 0xE0 then 0xA0 else 0x80, if b = 0xED then 0x9F else 0xBF, b - 0xE0⟩
  else if 0xF0 ≤ b ∧ b ≤ 0xF4 then
    some ⟨3, if b = 0xF0 then 0x90 else 0x80, if b = 0xF4 then 0x8F else 0xBF, b - 0xF0⟩
  else none

/-- What is read at the first byte of a character. -/
def readFirst (b : Nat) : List Char × Option Unfinished :=
  if b < 0x80 then ([Char.ofNat b], none)
  else match unfinished? b with
    | some u => ([], some u)
    | none => ([replacement], none)

/-- What is read at a byte, when this character is unfinished. -/
def readNext (u : Unfinished) (b : Nat) : List Char × Option Unfinished :=
  if u.low ≤ b ∧ b ≤ u.high then
    let bits := 64 * u.bits + (b - 0x80)
    if u.missing = 1 then ([Char.ofNat bits], none)
    else ([], some ⟨u.missing - 1, 0x80, 0xBF, bits⟩)
  else (replacement :: (readFirst b).1, (readFirst b).2)

/-- The characters of the bytes, behind what may be unfinished. -/
def readLeniently : Option Unfinished → List UInt8 → List Char
  | none, [] => []
  | some _, [] => [replacement]
  | none, b :: rest =>
    (readFirst b.toNat).1 ++ readLeniently (readFirst b.toNat).2 rest
  | some u, b :: rest =>
    (readNext u b.toNat).1 ++ readLeniently (readNext u b.toNat).2 rest

end SourceTutor.Text
