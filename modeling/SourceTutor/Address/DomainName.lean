import SourceTutor.Text.LowerCase
import SourceTutor.Text.Printable

/-!
# Domain names

The name of a host is a list of labels between points. Names are compared in a common form: letters
and digits of other shapes become plain ones, capitals small ones, and ideographic full stops
points; invisible characters vanish. A label that still goes beyond ASCII is written in ASCII
behind the mark `xn--`: first its ASCII characters, then for each of the others, by code point, how
far it lies from the one before, in digits of base 36 whose weights adapt to the distances seen.
-/

set_option autoImplicit false

namespace SourceTutor.Address

/-! ## The common form -/

/-- The code point of the ASCII character of which another is a shape: full-width forms, letters and
digits in circles, and mathematical alphabets. -/
def asciiShape? (n : Nat) : Option Nat :=
  if 0xFF01 ≤ n && n ≤ 0xFF5E then some (n - 0xFF01 + 0x21)
  else if 0x2460 ≤ n && n ≤ 0x2468 then some (n - 0x2460 + 0x31)
  else if 0x24B6 ≤ n && n ≤ 0x24E9 then some ((n - 0x24B6) % 26 + 0x61)
  else if 0x1D400 ≤ n && n ≤ 0x1D6A3 then some ((n - 0x1D400) % 26 + 0x61)
  else if 0x1D7CE ≤ n && n ≤ 0x1D7FF then some ((n - 0x1D7CE) % 10 + 0x30)
  else none

/-- Characters that count for nothing in a name. -/
def silentInNames : Text.CodePoints :=
  ⟨[0xAD, 0xAE, 0x34F, 0x350, 0x180B, 0x180E, 0x180F, 0x1810, 0x200B, 0x200C, 0x2060, 0x2061,
    0x2064, 0x2065, 0xFE00, 0xFE10, 0xFEFF, 0xFF00, 0xE0100, 0xE01F0]⟩

/-- What a character becomes in the common form of a name. -/
def nameForm (c : Char) : List Char :=
  if c == '\u3002' || c == '\uFF61' then ['.']
  else if silentInNames.contains c then []
  else match asciiShape? c.toNat with
    | some n => [(Char.ofNat n).toLower]
    | none => Text.lowerChar c

/-- Whether a character beyond ASCII may stand in a name. -/
def isNameChar (c : Char) : Bool := !Text.unprintable.contains c && !Text.fillers.contains c

/-! ## Labels in ASCII -/

/-- The digits of base 36: letters, then decimal digits. -/
def digitOf (n : Nat) : Char := Char.ofNat (if n < 26 then n + 0x61 else n - 26 + 0x30)

/-- The value of a digit of base 36. -/
def digitValue? (c : Char) : Option Nat :=
  if 'a' ≤ c && c ≤ 'z' then some (c.toNat - 0x61)
  else if c.isDigit then some (c.toNat - 0x30 + 26)
  else none

/-- The value from which on a digit at a place is not the last of its number. -/
def threshold (bias place : Nat) : Nat :=
  if place ≤ bias then 1 else if bias + 26 ≤ place then 26 else place - bias

theorem threshold_pos (bias place : Nat) : 0 < threshold bias place := by
  unfold threshold
  split
  · decide
  · split <;> omega

/-- A number in digits, the least significant first. -/
def digits (bias place n : Nat) : List Char :=
  let t := threshold bias place
  if n < t then [digitOf n]
  else digitOf (t + (n - t) % (36 - t)) :: digits bias (place + 36) ((n - t) / (36 - t))
  termination_by n
  decreasing_by
    have h := threshold_pos bias place
    exact Nat.lt_of_le_of_lt (Nat.div_le_self _ _) (by omega)

/-- How often a distance has to be divided by 35 to come below the bound, times 36, and what is
left of it. -/
def scaled (distance place : Nat) : Nat × Nat :=
  if 455 < distance then scaled (distance / 35) (place + 36) else (place, distance)
  termination_by distance
  decreasing_by exact Nat.div_lt_self (by omega) (by decide)

/-- The bias after a distance, when `count` characters have been placed. -/
def adapted (distance count : Nat) (first : Bool) : Nat :=
  let d := if first then distance / 700 else distance / 2
  let (place, rest) := scaled (d + d / count) 0
  place + 36 * rest / (rest + 38)

/-- The writing of a label as far as it has come. -/
structure LabelWriter where
  out : List Char
  /-- The distance from the last character placed. -/
  distance : Nat
  /-- The bias of the next number. -/
  bias : Nat
  placed : Nat

/-- Pass over a character of the label while those with code point `n` are placed; `basic` is the
number of ASCII characters. -/
def LabelWriter.pass (basic n : Nat) (w : LabelWriter) (c : Char) : LabelWriter :=
  if c.toNat < n then { w with distance := w.distance + 1 }
  else if c.toNat == n then
    ⟨w.out ++ digits w.bias 36 w.distance, 0,
      adapted w.distance (w.placed + 1) (w.placed == basic), w.placed + 1⟩
  else w

/-- Place the characters with the code points given, ascending, from code point `n` on. -/
def LabelWriter.placeAll (label : List Char) (basic : Nat) :
    Nat → List Nat → LabelWriter → LabelWriter
  | _, [], w => w
  | n, m :: ms, w =>
    let w := { w with distance := w.distance + (m - n) * (w.placed + 1) }
    let w := label.foldl (pass basic m) w
    placeAll label basic (m + 1) ms { w with distance := w.distance + 1 }

/-- Whether a character is in ASCII. -/
def isAscii (c : Char) : Bool := c.toNat < 0x80

/-- A label beyond ASCII, in ASCII without the mark. -/
def encodeLabel (label : List Char) : List Char :=
  let plain := label.filter isAscii
  let others := ((label.filter (!isAscii ·)).map Char.toNat).mergeSort.eraseReps
  let start := if plain.isEmpty then [] else plain ++ ['-']
  (LabelWriter.placeAll label plain.length 0x80 others ⟨start, 0, 72, plain.length⟩).out

/-- Read a number of base 36; the weight of its next digit comes second. -/
def readDigits? (bias : Nat) : Nat → Nat → Nat → List Char → Option (Nat × List Char)
  | _, _, _, [] => none
  | place, weight, n, c :: s =>
    match digitValue? c with
    | none => none
    | some d =>
      let t := threshold bias place
      if d < t then some (n + d * weight, s)
      else readDigits? bias (place + 36) (weight * (36 - t)) (n + d * weight) s

/-- Place the characters that numbers stand for into a label: `n` is the code point and `index`
the place reached. The first argument bounds their count. -/
def placeRead? : Nat → Nat → Nat → Nat → List Char → List Char → Option (List Char)
  | _, _, _, _, label, [] => some label
  | 0, _, _, _, _, _ => none
  | fuel + 1, bias, n, index, label, s =>
    match readDigits? bias 36 1 index s with
    | none => none
    | some (reached, rest) =>
      let count := label.length + 1
      let n := n + reached / count
      let place := reached % count
      if n.isValidChar then
        placeRead? fuel (adapted (reached - index) count (index == 0)) n (place + 1)
          (label.take place ++ Char.ofNat n :: label.drop place) rest
      else none

/-- The label that a text in ASCII stands for, read without its mark. -/
def decodeLabel? (s : List Char) : Option (List Char) :=
  match (s.reverse.dropWhile (· != '-')).reverse with
  | [] => placeRead? s.length 72 0x80 0 [] s
  | plain => placeRead? s.length 72 0x80 0 plain.dropLast (s.drop plain.length)

/-! ## Names -/

/-- The mark of a label that stands for one beyond ASCII. -/
def labelMark : List Char := ['x', 'n', '-', '-']

/-- Whether a label beyond ASCII may stand in a name: it is in the common form and does not start
with a character that extends the one before. -/
def isLabel (label : List Char) : Bool :=
  label.any (!isAscii ·) && label.all (fun c => isAscii c || isNameChar c) &&
    label.flatMap nameForm == label &&
    (label.head?.map (!Text.graphemeExtenders.contains ·)).getD true

/-- A label of a name in ASCII. -/
def asciiLabel? (label : List Char) : Option (List Char) :=
  if labelMark.isPrefixOf label then
    if label.all isAscii && ((decodeLabel? (label.drop labelMark.length)).map isLabel).getD false
    then some label else none
  else if label.all isAscii then some label
  else if isLabel label then some (labelMark ++ encodeLabel label)
  else none

/-- Characters of ASCII that no name of a host has. -/
def isForbiddenInNames (c : Char) : Bool :=
  c.toNat ≤ 0x20 || c.toNat == 0x7F ||
    ['#', '%', '/', ':', '<', '>', '?', '@', '[', '\\', ']', '^', '|'].contains c

/-- The name of a host in the common form and in ASCII. -/
def domainName? (s : List Char) : Option (List Char) := do
  let labels ← ((s.flatMap nameForm).splitOn '.').mapM asciiLabel?
  let name := ['.'].intercalate labels
  if name.isEmpty || name.any isForbiddenInNames then none else some name

end SourceTutor.Address
