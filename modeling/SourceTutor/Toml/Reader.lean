import SourceTutor.Toml.Scalar

/-!
# Reading TOML documents

A document is read line by line: headers, repeated headers, and keys with values. `Draft` is the
document as far as it has been read, with the table under the last header apart, because that table
takes its place in the document only when the next header comes.
-/

set_option autoImplicit false

namespace SourceTutor.Toml

/-! ## Keys and values -/

/-- The bound on the parts of a key and on the nesting of values. -/
def depthLimit : Nat := 80

/-- Whether the character may stand in a key without quotes. -/
def isBareKeyChar (c : Char) : Bool := c.isAlphanum || c == '-' || c == '_'

/-- Read one part of a key; the number bounds its length. -/
def keyPart? (bound : Nat) : Reader String := fun s =>
  match s with
  | '"' :: _ => shortText? bound s
  | '\'' :: _ => shortText? bound s
  | _ =>
    let name := s.takeWhile isBareKeyChar
    if name.isEmpty then none else some (String.ofList name, s.dropWhile isBareKeyChar)

/-- Read the parts of a key between points, at most as many as the second number says; the first
bounds the length of a part. -/
def keyParts? (bound : Nat) : Nat → Reader (List String)
  | 0, _ => none
  | fuel + 1, s =>
    match keyPart? bound (skipBlanks s) with
    | none => none
    | some (part, rest) =>
      match skipBlanks rest with
      | '.' :: rest => (keyParts? bound fuel rest).map fun r => (part :: r.1, r.2)
      | rest => some ([part], rest)

/-- Read a key; the number bounds the length of a part. -/
def key? (bound : Nat) : Reader (List String) := keyParts? bound (depthLimit - 1)

/-- The rest behind a comment without its line end, if there is one. -/
def skipComment : List Char → List Char
  | '#' :: rest => rest.dropWhile isPlain
  | s => s

/-- The rest behind white space, line ends and comments, read from inside a comment or from outside
one. A comment has to end with its line. -/
def fillerFrom? (comment : Bool) : List Char → Option (List Char)
  | [] => if comment then none else some []
  | '\n' :: s => fillerFrom? false s
  | '\r' :: '\n' :: s => fillerFrom? false s
  | c :: s =>
    if comment then if isPlain c then fillerFrom? true s else none
    else if c == '#' then fillerFrom? true s
    else if isBlank c then fillerFrom? false s
    else if c == '\r' then none
    else some (c :: s)

/-- The rest behind white space, line ends and comments. -/
def filler? (s : List Char) : Option (List Char) := fillerFrom? false s

/-- Add the keys of an inline table one after the other. -/
def inlineEntries? (pairs : List (List String × Toml)) : Option Entries :=
  pairs.foldlM (fun es pair => set es pair.1 pair.2) []

mutual

/-- Read a value inside `depth` others; the first number bounds the recursion and the length of
texts. -/
def value? : Nat → Nat → Reader Toml
  | 0, _, _ => none
  | fuel + 1, depth, s =>
    match s with
    | [] => none
    | c :: rest =>
      if c == '"' || c == '\'' then (text? fuel s).map fun r => (.text r.1, r.2)
      else if c == '[' then
        if depthLimit ≤ depth + 1 then none
        else (elements? fuel (depth + 1) rest).map fun r => (.array r.1, r.2)
      else if c == '\x7b' then
        if depthLimit ≤ depth + 1 then none
        else match skipBlanks rest with
          | '\x7d' :: rest => some (.table .inline [], rest)
          | _ =>
            match pairs? fuel (depth + 1) rest with
            | none => none
            | some (pairs, rest) =>
              (inlineEntries? pairs).map fun es => (.table .inline es, rest)
      else match s with
        | 't' :: 'r' :: 'u' :: 'e' :: rest => some (.boolean true, rest)
        | 'f' :: 'a' :: 'l' :: 's' :: 'e' :: rest => some (.boolean false, rest)
        | _ =>
          match moment? s with
          | some (m, rest) => some (.moment m, rest)
          | none => number? s

/-- Read the elements of an array up to its end. -/
def elements? : Nat → Nat → Reader (List Toml)
  | 0, _, _ => none
  | fuel + 1, depth, s =>
    match filler? s with
    | none => none
    | some (']' :: rest) => some ([], rest)
    | some s =>
      match value? fuel depth s with
      | none => none
      | some (v, rest) =>
        match filler? rest with
        | some (',' :: rest) => (elements? fuel depth rest).map fun r => (v :: r.1, r.2)
        | some (']' :: rest) => some ([v], rest)
        | _ => none

/-- Read the keys and values of an inline table up to its end. -/
def pairs? : Nat → Nat → Reader (List (List String × Toml))
  | 0, _, _ => none
  | fuel + 1, depth, s =>
    match key? fuel s with
    | some (key, '=' :: rest) =>
      match value? fuel depth (skipBlanks rest) with
      | none => none
      | some (v, rest) =>
        match skipBlanks rest with
        | ',' :: rest => (pairs? fuel depth rest).map fun r => ((key, v) :: r.1, r.2)
        | '\x7d' :: rest => some ([(key, v)], rest)
        | _ => none
    | _ => none

end

/-! ## Documents -/

/-- A document as far as it has been read. -/
structure Draft where
  /-- What stands before the last header. -/
  root : Entries
  /-- The path of the last header; empty before the first. -/
  path : List String
  /-- Whether the last header is a repeated one. -/
  repeated : Bool
  /-- The table under the last header. -/
  current : Entries

/-- Put a finished table under a name. -/
def place (repeated : Bool) (name : String) (table : Entries) (_ : Origin) (es : Entries) :
    Option Entries :=
  match repeated, es.lookup name with
  | true, none => some (es ++ [(name, .tables [table])])
  | true, some (.tables before) => some (replace es name (.tables (table :: before)))
  | false, none => some (es ++ [(name, .table .header table)])
  | _, _ => none

/-- Take a table without a header out of its place, to give it one. -/
def release (name : String) (_ : Origin) (es : Entries) : Option Entries :=
  match es.lookup name with
  | none => some es
  | some (.table .passing _) => some (es.filter (·.1 != name))
  | some _ => none

/-- Refuse a name that stands for anything but repeated tables. -/
def allowRepeated (name : String) (_ : Origin) (es : Entries) : Option Entries :=
  match es.lookup name with
  | none => some es
  | some (.tables _) => some es
  | some _ => none

namespace Draft

/-- The document before its first line. -/
def start : Draft := ⟨[], [], false, []⟩

/-- The entries of the document with the last table in its place. -/
def close (d : Draft) : Option Entries :=
  match d.path.getLast? with
  | none => some d.current
  | some name => alter false (place d.repeated name d.current) d.path.dropLast .header d.root

/-- Begin the table under a header. -/
def header (d : Draft) (repeated : Bool) (path : List String) : Option Draft := do
  let root ← d.close
  let name ← path.getLast?
  let above := path.dropLast
  if repeated then
    let root ← alter false (allowRepeated name) above .header root
    some ⟨root, path, true, []⟩
  else
    let before := match (entriesAt above root).bind (·.lookup name) with
      | some (.table .passing es) => es
      | _ => []
    let root ← alter false (release name) above .header root
    some ⟨root, path, false, before⟩

/-- Add a key with its value. -/
def add (d : Draft) (key : List String) (v : Toml) : Option Draft :=
  (set d.current key v).map fun es => { d with current := es }

end Draft

/-- The rest behind the end of a line: white space, a comment, and the line end or the end of the
document. -/
def lineRest? (s : List Char) : Option (List Char) :=
  match skipComment (skipBlanks s) with
  | [] => some []
  | rest => lineEnd? rest

/-- Read one line of a document; the number bounds the reading of a value or a key. -/
def line? (bound : Nat) (d : Draft) (s : List Char) : Option (Draft × List Char) :=
  match s with
  | '#' :: _ => (lineRest? s).map fun rest => (d, rest)
  | '\n' :: rest => some (d, rest)
  | '\r' :: _ => (lineEnd? s).map fun rest => (d, rest)
  | '[' :: '[' :: rest =>
    match key? bound rest with
    | some (path, ']' :: ']' :: rest) => do
      let rest ← lineRest? rest
      some (← d.header true path, rest)
    | _ => none
  | '[' :: rest =>
    match key? bound rest with
    | some (path, ']' :: rest) => do
      let rest ← lineRest? rest
      some (← d.header false path, rest)
    | _ => none
  | _ =>
    match key? bound s with
    | some (key, '=' :: rest) => do
      let (v, rest) ← value? bound 0 (skipBlanks rest)
      let rest ← lineRest? rest
      some (← d.add key v, rest)
    | _ => none

/-- Read the lines of a document; the first number bounds the reading of a line, the second the
lines. -/
def lines? (bound : Nat) : Nat → Draft → List Char → Option Draft
  | 0, _, _ => none
  | fuel + 1, d, s =>
    match skipBlanks s with
    | [] => some d
    | s =>
      match line? bound d s with
      | none => none
      | some (d, rest) => lines? bound fuel d rest

/-- The document without a byte order mark in front. -/
def dropMark : List Char → List Char
  | '\uFEFF' :: rest => rest
  | s => s

/-- The table that a document stands for. -/
def parse? (s : String) : Option Entries :=
  let s := dropMark s.toList
  (lines? (2 * s.length + 2) (s.length + 1) .start s).bind Draft.close

end SourceTutor.Toml
