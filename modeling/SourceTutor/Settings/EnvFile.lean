import SourceTutor.Text.Alphanumeric
import SourceTutor.Text.Blank

/-!
# Environment files

A file of lines `NAME=value`. A quote that is open at the end of a line, a backslash there, or white
space at the very end of the file joins the next line to it; a line that starts with `#` is skipped
and a `#` behind white space ends its line. A value may have parts in single quotes, where nothing
is special, and in double quotes; outside single quotes a backslash escapes, and `$NAME` stands for
a variable of the environment or else for an earlier entry. A line that is none of this is passed
over.
-/

set_option autoImplicit false

namespace SourceTutor.EnvFile

open SourceTutor.Text

/-! ## Lines -/

/-- The bytes of a file cut behind each line feed; a line that is not text is `none`. -/
def physicalLines (bytes : List UInt8) (line : List UInt8) : List (Option String) :=
  let finished (line : List UInt8) := String.fromUTF8? ⟨line.reverse.toArray⟩
  match bytes with
  | [] => if line.isEmpty then [] else [finished line]
  | b :: rest =>
    if b == 10 then finished (b :: line) :: physicalLines rest []
    else physicalLines rest (b :: line)

/-- Where in a line the reader is. -/
inductive Spot where
  | plain
  /-- Behind white space. -/
  | blank
  /-- Behind a backslash. -/
  | escape
  | single
  /-- Behind a backslash in single quotes. -/
  | singleEscape
  | double
  /-- Behind a backslash in double quotes. -/
  | doubleEscape
  deriving DecidableEq

/-- The spot behind a character that is nothing special where it stands. -/
def Spot.open (c : Char) : Spot :=
  if c == '\\' then .escape else if c == '"' then .double else if c == '\'' then .single else .plain

/-- The spot behind a character. -/
def Spot.next (spot : Spot) (c : Char) : Spot :=
  match spot with
  | .plain => if isBlank c && c != '\n' && c != '\r' then .blank else .open c
  | .blank => .open c
  | .escape => .plain
  | .single => if c == '\\' then .singleEscape else if c == '\'' then .plain else .single
  | .singleEscape => .single
  | .double => if c == '\\' then .doubleEscape else if c == '"' then .plain else .double
  | .doubleEscape => .double

/-- The spot at the end of a line; or, with nothing, a comment starts behind the characters that
come back. -/
def lastSpot (spot : Spot) : List Char → Option Spot × List Char
  | [] => (some spot, [])
  | c :: s =>
    if spot == .blank && c == '#' then (none, [])
    else
      let (last, kept) := lastSpot (spot.next c) s
      (last, c :: kept)

/-- A line, given last character first, without the line end behind it. -/
def withoutLineEnd : List Char → List Char
  | '\n' :: '\r' :: before => before.reverse
  | '\n' :: before => before.reverse
  | line => line.reverse

/-- Join the lines that belong together. `begun` is a line that has been begun, last character
first, and `spot` where it has been left. -/
def logicalLines (begun : List Char) (spot : Spot) : List (Option String) → List (List Char)
  | [] => []
  | none :: rest => logicalLines [] .plain rest
  | some line :: rest =>
    let line := line.toList
    if begun.isEmpty && (trimStart line).head? == some '#' then logicalLines [] .plain rest
    else match lastSpot spot line with
      | (none, kept) => (kept.reverse ++ begun).reverse :: logicalLines [] .plain rest
      | (some .plain, _) => withoutLineEnd (line.reverse ++ begun) :: logicalLines [] .plain rest
      | (some last, _) => logicalLines (line.reverse ++ begun) last rest

/-! ## Values -/

/-- The values that names stand for. -/
abbrev Names := String → Option String

/-- What the reader of a value is in the middle of. -/
inductive Mode where
  | plain
  | double
  /-- In single quotes; they may have been opened outside double quotes only. -/
  | single
  /-- Behind the value, where only white space or a comment may follow. -/
  | done
  deriving DecidableEq

/-- What a name stands for; nothing if it is not known. -/
def substitute (names : Names) (name : List Char) : List Char :=
  ((names (String.ofList name.reverse)).getD "").toList

/-- The character of an escape. -/
def escaped? (c : Char) : Option Char :=
  if c == '\\' || c == '\'' || c == '"' || c == '$' || c == ' ' then some c
  else if c == 'n' then some '\n'
  else none

/-- Part of a value: text, a name behind a dollar sign, or a name in braces. Names are kept last
character first. -/
inductive Part where
  | text
  | escape
  | name (collected : List Char)
  | braces (collected : List Char)

/-- Read a value, character by character. `found` is what has been read, last character first. -/
def valueFrom (names : Names) : Mode → Part → List Char → List Char → Option (List Char)
  | mode, part, found, [] =>
    match mode, part with
    | .single, _ => none
    | .double, _ => none
    | _, .braces _ => none
    | _, .name collected => some (found.reverse ++ substitute names collected)
    | _, _ => some found.reverse
  | .done, part, found, c :: s =>
    if c == ' ' || c == '\t' then valueFrom names .done part found s
    else if c == '#' then some found.reverse
    else none
  | mode, .escape, found, c :: s =>
    match escaped? c with
    | some e => valueFrom names mode .text (e :: found) s
    | none => none
  | .single, .text, found, c :: s =>
    if c == '\'' then valueFrom names .plain .text found s
    else valueFrom names .single .text (c :: found) s
  | mode, .name collected, found, c :: s =>
    if isAlphanumeric c then valueFrom names mode (.name (c :: collected)) found s
    else if c == '\x7b' && collected.isEmpty then valueFrom names mode (.braces []) found s
    else
      let found := (substitute names collected).reverse ++ found
      if c == '$' then valueFrom names mode (.name []) found s
      else valueFrom names mode .text (c :: found) s
  | mode, .braces collected, found, c :: s =>
    if c == '\x7d' then
      valueFrom names mode .text ((substitute names collected).reverse ++ found) s
    else valueFrom names mode (.braces (c :: collected)) found s
  | mode, .text, found, c :: s =>
    if c == '$' then valueFrom names mode (.name []) found s
    else if c == '\\' then valueFrom names mode .escape found s
    else if mode == .double then
      if c == '"' then valueFrom names .plain .text found s
      else valueFrom names .double .text (c :: found) s
    else if c == '\'' then valueFrom names .single .text found s
    else if c == '"' then valueFrom names .double .text found s
    else if c == ' ' || c == '\t' then valueFrom names .done .text found s
    else valueFrom names mode .text (c :: found) s

/-! ## Entries -/

/-- Whether the character may start a name. -/
def startsName (c : Char) : Bool := c.isAlpha || c == '_'

/-- Whether the character may stand in a name. -/
def continuesName (c : Char) : Bool := c.isAlphanum || c == '_' || c == '.'

/-- A name and what follows it and the white space behind it. -/
def name? (s : List Char) : Option (List Char × List Char) :=
  match s with
  | [] => none
  | c :: _ =>
    if startsName c then some (s.takeWhile continuesName, trimStart (s.dropWhile continuesName))
    else none

/-- A name, behind the word `export` if that is not the name itself, and what follows the equals
sign. -/
def assignment? (s : List Char) : Option (List Char × List Char) := do
  match ← name? s with
  | (name, '=' :: rest) => some (name, rest)
  | (name, rest) =>
    if name == ['e', 'x', 'p', 'o', 'r', 't'] then
      match ← name? rest with
      | (name, '=' :: rest) => some (name, rest)
      | _ => none
    else none

/-- The entry of a line, if it is one: a name and its value. -/
def entry? (names : Names) (line : List Char) : Option (String × String) := do
  let (name, rest) ← assignment? (trimStart (trimEnd line))
  match trimStart rest with
  | [] => some (String.ofList name, "")
  | '#' :: _ => some (String.ofList name, "")
  | value => some (String.ofList name, String.ofList (← valueFrom names .plain .text [] value))

/-- The value of a name: from the environment, or else from the entries read so far, the latest
counting. -/
def valueOf (environment : Names) (earlier : List (String × String)) : Names := fun name =>
  match environment name with
  | some v => some v
  | none => earlier.lookup name

/-- The entries of the lines; `earlier` are those before, last one first. -/
def entriesFrom (environment : Names) (earlier : List (String × String)) :
    List (List Char) → List (String × String)
  | [] => []
  | line :: rest =>
    match entry? (valueOf environment earlier) line with
    | none => entriesFrom environment earlier rest
    | some e => e :: entriesFrom environment (e :: earlier.filter (·.1 != e.1)) rest

/-- The entries of a file. -/
def entries (environment : Names) (bytes : ByteArray) : List (String × String) :=
  entriesFrom environment [] (logicalLines [] .plain (physicalLines bytes.toList []))

/-- The names whose values reading a text may ask for: the one behind each dollar sign. -/
def namesAskedFor : List Char → List String
  | [] => []
  | '$' :: '\x7b' :: s => String.ofList (s.takeWhile (· != '\x7d')) :: namesAskedFor s
  | '$' :: s => String.ofList (s.takeWhile isAlphanumeric) :: namesAskedFor s
  | _ :: s => namesAskedFor s

end SourceTutor.EnvFile
