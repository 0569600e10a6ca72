import SourceTutor.Address.DomainName
import SourceTutor.Address.Escape

/-!
# Hosts

A host is a name or a number. A name whose last label is a number is an address of the fourth
version: up to four numbers in decimal, octal or hexadecimal digits, the last of which fills all the
bytes that are left. An address of the sixth version stands in brackets: eight numbers of sixteen
bits, a run of zeros written as `::` and the last two perhaps as four decimal bytes.
-/

set_option autoImplicit false

namespace SourceTutor.Address

/-- Where a service is found. -/
inductive Host where
  /-- A name; the empty name is no host. -/
  | name (text : List Char)
  /-- An address of the fourth version. -/
  | four (n : Nat)
  /-- The eight numbers of an address of the sixth version. -/
  | six (pieces : List Nat)
  deriving DecidableEq

/-! ## Addresses of the fourth version -/

/-- The number that digits stand for. -/
def ofDigits (base : Nat) (s : List Char) : Nat :=
  s.foldl (fun n c => n * base + (Json.hexValue? c).getD 0) 0

/-- The number that a part stands for: hexadecimal behind `0x`, octal behind another zero. No digits
behind a mark are zero. -/
def partNumber? : List Char → Option Nat
  | [] => none
  | '0' :: 'x' :: s => ofBase? 16 s
  | '0' :: 'X' :: s => ofBase? 16 s
  | '0' :: c :: s => ofBase? 8 (c :: s)
  | s => ofBase? 10 s
where
  /-- The number of digits that all belong to the base. -/
  ofBase? (base : Nat) (s : List Char) : Option Nat :=
    if s.all fun c => ((Json.hexValue? c).map (decide <| · < base)).getD false then
      some (ofDigits base s)
    else none

/-- The labels of a name without an empty one at the end. -/
def labelsOf (name : List Char) : List (List Char) :=
  let labels := name.splitOn '.'
  if labels.length != 1 && labels.getLast? == some [] then labels.dropLast else labels

/-- Whether the last label of a name is a number. -/
def endsInNumber (name : List Char) : Bool :=
  match (labelsOf name).getLast? with
  | none => false
  | some last =>
    (!last.isEmpty && last.all Char.isDigit) || (partNumber? last).isSome

/-- The address of the fourth version that a name stands for. -/
def four? (name : List Char) : Option Nat := do
  let numbers ← (labelsOf name).mapM partNumber?
  let last ← numbers.getLast?
  let bytes := numbers.dropLast
  if numbers.length ≤ 4 && bytes.all (· < 256) && last < Nat.pow 256 (4 - bytes.length) then
    some (bytes.foldl (fun n b => n * 256 + b) 0 * Nat.pow 256 (4 - bytes.length) + last)
  else none

/-! ## Addresses of the sixth version -/

/-- The number that one to four hexadecimal digits stand for. -/
def piece? (s : List Char) : Option Nat :=
  if 1 ≤ s.length && s.length ≤ 4 && s.all fun c => (Json.hexValue? c).isSome then
    some (ofDigits 16 s)
  else none

/-- The byte that decimal digits without a zero in front stand for. -/
def byte? (s : List Char) : Option Nat :=
  if !s.isEmpty && s.all Char.isDigit && (s.head? != some '0' || s.length == 1) &&
      ofDigits 10 s < 256 then
    some (ofDigits 10 s)
  else none

/-- The numbers between colons; the last may be written as four decimal bytes where that is
allowed. -/
def pieces? (bytesAtEnd : Bool) : List (List Char) → Option (List Nat)
  | [] => some []
  | [last] =>
    if bytesAtEnd && last.contains '.' then
      match (last.splitOn '.').mapM byte? with
      | some [a, b, c, d] => some [a * 256 + b, c * 256 + d]
      | _ => none
    else (piece? last).map fun n => [n]
  | s :: rest =>
    match piece? s, pieces? bytesAtEnd rest with
    | some n, some ns => some (n :: ns)
    | _, _ => none

/-- The parts between colons on both sides of a double colon, or on one side if there is none. -/
def sides? : List (List Char) → Option (List (List Char) × Option (List (List Char)))
  | [[], [], []] => some ([], some [])
  | [] :: [] :: right => some ([], some right)
  | [] :: _ => none
  | parts =>
    match parts.span (!·.isEmpty) with
    | (left, []) => some (left, none)
    | (_, [_]) => none
    | (left, [_, []]) => some (left, some [])
    | (left, _ :: right) => some (left, some right)

/-- The address of the sixth version that a text between brackets stands for. -/
def six? (s : List Char) : Option (List Nat) :=
  match sides? (s.splitOn ':') with
  | none => none
  | some (left, none) =>
    match pieces? true left with
    | some ns => if ns.length == 8 then some ns else none
    | none => none
  | some (left, some right) =>
    match pieces? false left, pieces? true right with
    | some ns, some ms =>
      if ns.length + ms.length < 8 then
        some (ns ++ List.replicate (8 - ns.length - ms.length) 0 ++ ms)
      else none
    | _, _ => none

/-- The length of the run of zeros at the front. -/
def zeros (ns : List Nat) : Nat := (ns.takeWhile (· == 0)).length

/-- The place and the length of the first of the longest runs of zeros. -/
def longestZeros (ns : List Nat) : Nat × Nat :=
  (List.range ns.length).foldl
    (fun best i => if best.2 < zeros (ns.drop i) then (i, zeros (ns.drop i)) else best) (0, 0)

/-- Numbers in hexadecimal digits with colons between them. -/
def colons (ns : List Nat) : List Char := [':'].intercalate (ns.map (Nat.toDigits 16))

/-- The text of an address of the sixth version: the first of the longest runs of at least two
zeros is left out. -/
def sixText (ns : List Nat) : List Char :=
  let (i, n) := longestZeros ns
  if n < 2 then colons ns
  else colons (ns.take i) ++ [':', ':'] ++ colons (ns.drop (i + n))

/-! ## Hosts -/

namespace Host

/-- The text of a host. -/
def text : Host → List Char
  | name s => s
  | four n =>
    ['.'].intercalate ([n / 16777216, n / 65536 % 256, n / 256 % 256, n % 256].map (Nat.toDigits 10))
  | six ns => ['['] ++ sixText ns ++ [']']

/-- The text between brackets, if a text starts with one. -/
def bracketed? (s : List Char) : Option (Option Host) :=
  match s with
  | '[' :: rest =>
    some (if rest.getLast? == some ']' then (six? rest.dropLast).map six else none)
  | _ => none

/-- The host of an address of the web or of a file. -/
def ofWeb? (s : List Char) : Option Host :=
  match bracketed? s with
  | some host => host
  | none =>
    match (unescapeText? s).bind domainName? with
    | none => none
    | some domain => if endsInNumber domain then (four? domain).map four else some (name domain)

/-- Whether a character may not stand in a name of a host outside the web. -/
def isForbidden (c : Char) : Bool :=
  ['\x00', '\t', '\n', '\r', ' ', '#', '/', ':', '<', '>', '?', '@', '[', '\\', ']', '^',
    '|'].contains c

/-- The host of any other address. Its name means nothing here. -/
def ofOther? (s : List Char) : Option Host :=
  match bracketed? s with
  | some host => host
  | none => if s.any isForbidden then none else some (name (escape (fun _ => false) s))

end Host

end SourceTutor.Address
