import SourceTutor.FileName

/-!
# Paths

A path is the list of its segments, the pieces between its slashes, so that its text is kept
exactly: an absolute path starts with an empty segment, a path with a slash at its end has an empty
last one. Parent, file name, stem and extension look through empty segments and through `.`, except
that a relative path may start with a `.` that counts.
-/

set_option autoImplicit false

namespace SourceTutor

/-- A path as the list of its segments. -/
structure Path where
  /-- The pieces between the slashes, in order. -/
  segments : List String
  deriving DecidableEq

namespace Path

/-- The path with this text. -/
def ofString (s : String) : Path := ⟨(s.toList.splitOn '/').map String.ofList⟩

/-- The text of the path, in which a name that is not text stands as what it reads as. -/
def toString (p : Path) : String := "/".intercalate (p.segments.map FileName.text)

instance : ToString Path := ⟨toString⟩

/-- The bytes of the path. -/
def bytes (p : Path) : List UInt8 := [0x2F].intercalate (p.segments.map FileName.bytes)

/-- The path of the empty text. -/
def empty : Path := ⟨[""]⟩

/-- Whether the path starts at the root. -/
def isAbsolute (p : Path) : Bool :=
  match p.segments with
  | "" :: _ :: _ => true
  | _ => false

/-- Whether the text of the path is empty. -/
def isEmpty (p : Path) : Bool := p.segments == [""]

/-- Whether the path ends with a slash. -/
def endsWithSlash (p : Path) : Bool := 1 < p.segments.length && p.segments.getLast? == some ""

/-- The path without the slashes at its end, unless it has nothing else. -/
def withoutEndSlashes (p : Path) : Path :=
  match (p.segments.reverse.dropWhile (· == "")).reverse with
  | [] => p
  | segments => ⟨segments⟩

/-- Whether a segment names nothing by itself. -/
def isSilent (segment : String) : Bool := segment == "" || segment == "."

/-- The segments without the silent ones at the end. -/
def trimSilent (segments : List String) : List String :=
  (segments.reverse.dropWhile isSilent).reverse

/-- The start of the path that counts as it is (the root, or a leading `.`), and the rest. -/
def split (p : Path) : List String × List String :=
  match p.segments with
  | "" :: s :: rest => ([""], s :: rest)
  | "." :: rest => (["."], rest)
  | segments => ([], segments)

/-- The path with the given start and rest. -/
def assemble (start rest : List String) : Path :=
  match start ++ rest with
  | [] => empty
  | [""] => ⟨["", ""]⟩
  | segments => ⟨segments⟩

/-- The path without its last component. The root and the empty path have no parent. -/
def parent? (p : Path) : Option Path :=
  let (start, rest) := p.split
  match trimSilent rest with
  | [] => if start == ["."] then some empty else none
  | s :: body => some (assemble start (trimSilent (s :: body).dropLast))

/-- The last component, unless it is `..`. -/
def fileName? (p : Path) : Option String :=
  match (trimSilent p.split.2).getLast? with
  | some ".." => none
  | name => name

/-- A file name cut at its last dot; the second half is missing when there is no dot behind the
first character. -/
def cutName (name : String) : String × Option String :=
  let after := name.toList.reverse.takeWhile (· != '.')
  match name.toList.reverse.dropWhile (· != '.') with
  | [] => (name, none)
  | [_] => (name, none)
  | _ :: before => (String.ofList before.reverse, some (String.ofList after.reverse))

/-- The file name without its extension. -/
def stem? (p : Path) : Option String := p.fileName?.map fun name => (cutName name).1

/-- What follows the last dot of the file name. -/
def extension? (p : Path) : Option String := p.fileName?.bind fun name => (cutName name).2

/-- The path `q` seen from `p`: an absolute one stays as it is. -/
def join (p q : Path) : Path :=
  if q.isAbsolute || p.isEmpty then q
  else if p.segments.getLast? == some "" then ⟨p.segments.dropLast ++ q.segments⟩
  else ⟨p.segments ++ q.segments⟩

/-- The path one step below `p`, or further when the text has slashes. -/
def child (p : Path) (text : String) : Path := p.join (ofString text)

/-- The path reached from `p` through these names. -/
def descend (p : Path) (names : List String) : Path :=
  if names.isEmpty then p else p.join ⟨names⟩

/-- The path with the extension of its file name replaced; a path without a file name stays as it
is. -/
def withExtension (p : Path) (extension : String) : Path :=
  match p.stem? with
  | none => p
  | some stem =>
    let (start, rest) := p.split
    assemble start ((trimSilent rest).dropLast ++ [stem ++ "." ++ extension])

end Path

end SourceTutor
