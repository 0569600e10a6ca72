import SourceTutor.Json.Token
import SourceTutor.Toml.Basic

/-!
# Texts, numbers and moments in TOML

Each reader takes the characters that are left and yields what it has read together with the rest,
or nothing. A text stands in single or double quotes, one or three of them; only double quotes have
escapes. A number may have underscores between its digits. A date and a time are joined by a `T` or
a space; of the part of a second the first nine digits count.
-/

set_option autoImplicit false

namespace SourceTutor.Toml

/-- Reads something from the front of the characters. -/
abbrev Reader (α : Type) := List Char → Option (α × List Char)

/-- Whether the character is a space or a tab. -/
def isBlank (c : Char) : Bool := c == ' ' || c == '\t'

/-- The rest behind spaces and tabs. -/
def skipBlanks (s : List Char) : List Char := s.dropWhile isBlank

/-- The rest behind a line end. -/
def lineEnd? : List Char → Option (List Char)
  | '\n' :: rest => some rest
  | '\r' :: '\n' :: rest => some rest
  | _ => none

/-- Whether a character may stand in a comment or in a text as it is: no control character but the
tab. -/
def isPlain (c : Char) : Bool := c == '\t' || (0x20 ≤ c.toNat && c.toNat != 0x7F)

/-! ## Texts -/

/-- The number that a list of hexadecimal digits stands for. -/
def hexNumber? (digits : List Char) : Option Nat :=
  digits.foldlM (fun n c => (Json.hexValue? c).map (n * 16 + ·)) 0

/-- The character whose code point is written with so many hexadecimal digits. -/
def codePoint? (count : Nat) : Reader Char := fun s =>
  let digits := s.take count
  if digits.length < count then none
  else match hexNumber? digits with
    | none => none
    | some n => if n.isValidChar then some (Char.ofNat n, s.drop count) else none

/-- The character that an escape stands for, read behind the backslash. -/
def escape? : Reader Char
  | 'b' :: rest => some ('\x08', rest)
  | 't' :: rest => some ('\t', rest)
  | 'n' :: rest => some ('\n', rest)
  | 'f' :: rest => some ('\x0c', rest)
  | 'r' :: rest => some ('\r', rest)
  | '"' :: rest => some ('"', rest)
  | '\\' :: rest => some ('\\', rest)
  | 'u' :: rest => codePoint? 4 rest
  | 'U' :: rest => codePoint? 8 rest
  | _ => none

/-- Read a text in double quotes up to the closing one; the number bounds its length. -/
def quotedBody? : Nat → Reader (List Char)
  | 0, _ => none
  | _, [] => none
  | fuel + 1, c :: s =>
    if c == '"' then some ([], s)
    else if c == '\\' then
      match escape? s with
      | none => none
      | some (e, rest) => (quotedBody? fuel rest).map fun r => (e :: r.1, r.2)
    else if isPlain c then (quotedBody? fuel s).map fun r => (c :: r.1, r.2)
    else none

/-- Read a text in single quotes up to the closing one. -/
def literalBody? : Reader (List Char)
  | [] => none
  | c :: s =>
    if c == '\'' then some ([], s)
    else if isPlain c then (literalBody? s).map fun r => (c :: r.1, r.2)
    else none

/-- The rest behind spaces, tabs and line ends. -/
def skipLines : List Char → List Char
  | '\n' :: s => skipLines s
  | '\r' :: '\n' :: s => skipLines s
  | c :: s => if isBlank c then skipLines s else c :: s
  | [] => []

/-- The rest behind a backslash that ends its line: all white space up to the next character. -/
def continuation? (s : List Char) : Option (List Char) :=
  (lineEnd? (skipBlanks s)).map skipLines

/-- Read the quotes at the front of a text in three quotes. Up to two belong to the text; three
close it, and up to two more before them belong to the text as well. The result says whether the
text goes on. -/
def quoteRun (quote : Char) (s : List Char) : List Char × Bool × List Char :=
  let count := (s.takeWhile (· == quote)).length
  if count < 3 then (List.replicate count quote, true, s.drop count)
  else
    let inside := min (count - 3) 2
    (List.replicate inside quote, false, s.drop (inside + 3))

/-- Read a text in three quotes up to its end; `escapes` says whether the backslash escapes. -/
def longBody? (quote : Char) (escapes : Bool) : Nat → Reader (List Char)
  | 0, _ => none
  | _, [] => none
  | fuel + 1, c :: s =>
    if c == quote then
      match quoteRun quote (c :: s) with
      | (_, true, []) => none
      | (quotes, true, rest) =>
        (longBody? quote escapes fuel rest).map fun r => (quotes ++ r.1, r.2)
      | (quotes, false, rest) => some (quotes, rest)
    else if escapes && c == '\\' then
      match continuation? s with
      | some rest => longBody? quote escapes fuel rest
      | none =>
        match escape? s with
        | none => none
        | some (e, rest) => (longBody? quote escapes fuel rest).map fun r => (e :: r.1, r.2)
    else match lineEnd? (c :: s) with
      | some rest => (longBody? quote escapes fuel rest).map fun r => ('\n' :: r.1, r.2)
      | none =>
        if isPlain c then (longBody? quote escapes fuel s).map fun r => (c :: r.1, r.2) else none

/-- The rest behind a line end at the very front of a text in three quotes. -/
def dropFirstLineEnd (s : List Char) : List Char := (lineEnd? s).getD s

/-- Read a text in one quote on each side; the number bounds its length. -/
def shortText? (bound : Nat) : Reader String
  | '"' :: s => (quotedBody? bound s).map fun r => (String.ofList r.1, r.2)
  | '\'' :: s => (literalBody? s).map fun r => (String.ofList r.1, r.2)
  | _ => none

/-- Read a text; the number bounds its length. -/
def text? (bound : Nat) : Reader String
  | '"' :: '"' :: '"' :: s =>
    (longBody? '"' true bound (dropFirstLineEnd s)).map fun r => (String.ofList r.1, r.2)
  | '\'' :: '\'' :: '\'' :: s =>
    (longBody? '\'' false bound (dropFirstLineEnd s)).map fun r => (String.ofList r.1, r.2)
  | s => shortText? bound s

/-! ## Numbers -/

/-- The further digits of a class, an underscore being allowed before each. -/
def moreDigits (p : Char → Bool) : List Char → List Char × List Char
  | '_' :: d :: rest =>
    if p d then
      let r := moreDigits p rest
      (d :: r.1, r.2)
    else ([], '_' :: d :: rest)
  | c :: rest =>
    if p c then
      let r := moreDigits p rest
      (c :: r.1, r.2)
    else ([], c :: rest)
  | [] => ([], [])

/-- Read at least one digit of a class. -/
def digits? (p : Char → Bool) : Reader (List Char)
  | c :: rest =>
    if p c then
      let r := moreDigits p rest
      some (c :: r.1, r.2)
    else none
  | [] => none

/-- Read the digits of a decimal integer: a zero alone, or no zero in front. -/
def wholeDigits? : Reader (List Char)
  | '0' :: rest => some (['0'], rest)
  | s => digits? Char.isDigit s

/-- The number that digits stand for in a base. -/
def number (base : Nat) (digits : List Char) : Nat :=
  digits.foldl (fun n c => n * base + (Json.hexValue? c).getD 0) 0

/-- Read a sign; whether it is a minus. -/
def sign : List Char → Bool × List Char
  | '-' :: rest => (true, rest)
  | '+' :: rest => (false, rest)
  | s => (false, s)

/-- An integer of sixty-four bits. -/
def integerOf? (negative : Bool) (n : Nat) : Option Toml :=
  let i : Int := if negative then -(n : Int) else n
  if Int64.minValue.toInt ≤ i && i ≤ Int64.maxValue.toInt then some (.integer i) else none

/-- Read an integer in another base, behind its mark. -/
def based? (base : Nat) (p : Char → Bool) : Reader Toml := fun s =>
  match digits? p s with
  | none => none
  | some (ds, rest) => (integerOf? false (number base ds)).map fun v => (v, rest)

/-- Read the digits behind a point, if there is one. -/
def fraction? : Reader (Option (List Char))
  | '.' :: s => (digits? Char.isDigit s).map fun r => (some r.1, r.2)
  | s => some (none, s)

/-- Read an exponent, if there is one. -/
def exponent? : Reader (Option Int)
  | c :: s =>
    if c == 'e' || c == 'E' then
      let (negative, rest) := sign s
      (digits? Char.isDigit rest).map fun r =>
        let n : Int := number 10 r.1
        (some (if negative then -n else n), r.2)
    else some (none, c :: s)
  | [] => some (none, [])

/-- A decimal number; one with a point or an exponent is not an integer, and must not be too great
to be finite when it is positive. -/
def decimalOf? (negative : Bool) (whole : List Char) (places : Option (List Char))
    (exponent : Option Int) : Option Toml :=
  match places, exponent with
  | none, none => integerOf? negative (number 10 whole)
  | _, _ =>
    let after := places.getD []
    let v := Binary.double.ofDecimal negative (number 10 (whole ++ after))
      (exponent.getD 0 - after.length)
    if v == .infinite false then none else some (.float v)

/-- Read a decimal number without its sign. -/
def decimal? (negative : Bool) : Reader Toml := fun s =>
  match wholeDigits? s with
  | none => none
  | some (whole, s) =>
    match fraction? s with
    | none => none
    | some (places, s) =>
      match exponent? s with
      | none => none
      | some (exponent, s) =>
        (decimalOf? negative whole places exponent).map fun v => (v, s)

/-- Whether the character is a digit of a base up to eight. -/
def isDigitBelow (base : Nat) (c : Char) : Bool := c.isDigit && c.toNat < 0x30 + base

/-- Read a number. -/
def number? : Reader Toml
  | '0' :: 'x' :: s => based? 16 (fun c => (Json.hexValue? c).isSome) s
  | '0' :: 'o' :: s => based? 8 (isDigitBelow 8) s
  | '0' :: 'b' :: s => based? 2 (isDigitBelow 2) s
  | s =>
    match sign s with
    | (negative, 'i' :: 'n' :: 'f' :: rest) => some (.float (.infinite negative), rest)
    | (_, 'n' :: 'a' :: 'n' :: rest) => some (.float .nan, rest)
    | (negative, rest) => decimal? negative rest

/-! ## Moments -/

/-- Read a number of exactly so many digits that lies between two bounds. -/
def fixed? (count low high : Nat) : Reader Nat := fun s =>
  let ds := s.take count
  if ds.length = count && ds.all Char.isDigit then
    let n := number 10 ds
    if low ≤ n && n ≤ high then some (n, s.drop count) else none
  else none

/-- The rest behind a character. -/
def mark? (c : Char) : List Char → Option (List Char)
  | d :: rest => if d == c then some rest else none
  | [] => none

/-- Whether a year has a leap day. -/
def isLeapYear (year : Nat) : Bool := year % 4 == 0 && (year % 100 != 0 || year % 400 == 0)

/-- The number of days of a month. -/
def daysIn (year month : Nat) : Nat :=
  if month == 2 then (if isLeapYear year then 29 else 28)
  else if month == 4 || month == 6 || month == 9 || month == 11 then 30
  else 31

/-- Read a date. -/
def date? : Reader Date := fun s => do
  let (year, s) ← fixed? 4 0 9999 s
  let s ← mark? '-' s
  let (month, s) ← fixed? 2 1 12 s
  let s ← mark? '-' s
  let (day, s) ← fixed? 2 1 (daysIn year month) s
  some (⟨year, month, day⟩, s)

/-- Read the part of a second, if there is one, in nanoseconds. -/
def subsecond (s : List Char) : Nat × List Char :=
  match s with
  | '.' :: d :: rest =>
    if d.isDigit then
      let ds := (d :: rest.takeWhile Char.isDigit).take 9
      (number 10 ds * Nat.pow 10 (9 - ds.length), rest.dropWhile Char.isDigit)
    else (0, s)
  | _ => (0, s)

/-- Read a time of day. -/
def time? : Reader DayTime := fun s => do
  let (hour, s) ← fixed? 2 0 23 s
  let s ← mark? ':' s
  let (minute, s) ← fixed? 2 0 59 s
  let s ← mark? ':' s
  let (second, s) ← fixed? 2 0 60 s
  let (nanos, s) := subsecond s
  some (⟨hour, minute, second, nanos⟩, s)

/-- Read a distance in hours and minutes, as minutes. -/
def distance? : Reader Nat := fun s => do
  let (hours, s) ← fixed? 2 0 23 s
  let s ← mark? ':' s
  let (minutes, s) ← fixed? 2 0 59 s
  some (hours * 60 + minutes, s)

/-- Read a distance from universal time, if there is one. -/
def offset (s : List Char) : Option Offset × List Char :=
  match s with
  | c :: rest =>
    if c == 'Z' || c == 'z' then (some .universal, rest)
    else if c == '+' || c == '-' then
      match distance? rest with
      | some (n, rest) => (some (.minutes (if c == '-' then -(n : Int) else n)), rest)
      | none => (none, s)
    else (none, s)
  | [] => (none, s)

/-- Read the time that follows a date, if there is one. -/
def timeAfterDate? : Reader DayTime
  | c :: rest => if c == 'T' || c == 't' || c == ' ' then time? rest else none
  | [] => none

/-- Read a moment. -/
def moment? : Reader Moment := fun s =>
  match date? s with
  | none => (time? s).map fun r => (.time r.1, r.2)
  | some (d, s) =>
    match timeAfterDate? s with
    | none => some (.date d, s)
    | some (t, s) =>
      let (distance, s) := offset s
      some (.both d t distance, s)

end SourceTutor.Toml
