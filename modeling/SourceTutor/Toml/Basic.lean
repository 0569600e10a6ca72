import SourceTutor.Binary.Format
import SourceTutor.Toml.Moment

/-!
# TOML values

A TOML document is a table of named values. A table remembers how it came about, because that
decides what may be added to it: a table with a header of its own cannot be given another one, one
that a header only passed through can be given its own header later, one made by a dotted key can
only grow by further dotted keys or by headers below it, and an inline table is complete as it is.
-/

set_option autoImplicit false

namespace SourceTutor

/-- How a table comes about. -/
inductive Toml.Origin where
  /-- It has a header of its own, or is the document. -/
  | header
  /-- A header below it passes through it. -/
  | passing
  /-- A dotted key passes through it. -/
  | dotted
  /-- It is written inline. -/
  | inline
  deriving DecidableEq

/-- A value of a TOML document. -/
inductive Toml where
  | text (s : String)
  | integer (n : Int)
  | float (v : Binary.Value)
  | boolean (b : Bool)
  | moment (m : Toml.Moment)
  | array (elements : List Toml)
  | table (origin : Toml.Origin) (entries : List (String × Toml))
  /-- The tables under a repeated header, the last one first. -/
  | tables (elements : List (List (String × Toml)))

namespace Toml

/-- The entries of a table, in the order in which they are written. -/
abbrev Entries := List (String × Toml)

/-- The entries with the value of a name that is there replaced. -/
def replace (es : Entries) (name : String) (v : Toml) : Entries :=
  es.map fun e => if e.1 == name then (name, v) else e

/-- Whether a table may grow by a dotted key. -/
def Origin.growsByDots : Origin → Bool
  | .passing => true
  | .dotted => true
  | _ => false

/-- Change the table at a path below a table, making the tables on the way that are missing. A
dotted path may only pass through tables without a header; no path passes through a value. -/
def alter (byDots : Bool) (change : Origin → Entries → Option Entries) :
    List String → Origin → Entries → Option Entries
  | [], origin, es => change origin es
  | name :: path, _, es =>
    let fresh := if byDots then Origin.dotted else Origin.passing
    match es.lookup name with
    | none => (alter byDots change path fresh []).map fun sub => es ++ [(name, .table fresh sub)]
    | some (.table .inline _) => none
    | some (.table origin sub) =>
      if byDots && !origin.growsByDots then none
      else (alter byDots change path origin sub).map fun sub => replace es name (.table origin sub)
    | some (.tables []) => none
    | some (.tables (last :: before)) =>
      (alter byDots change path .header last).map fun last =>
        replace es name (.tables (last :: before))
    | some _ => none

/-- Add a value under a name that is new. A dotted key adds to a table made by dots, a plain key
to any other. -/
def addNew (plain : Bool) (name : String) (v : Toml) (origin : Origin) (es : Entries) :
    Option Entries :=
  if (origin == .dotted) == plain then none
  else if (es.lookup name).isSome then none
  else some (es ++ [(name, v)])

/-- Add a value under a key below a table. -/
def set (es : Entries) (key : List String) (v : Toml) : Option Entries :=
  match key.getLast? with
  | none => none
  | some name =>
    let path := key.dropLast
    alter true (addNew path.isEmpty name v) path .header es

/-- The entries of the table at a path, looking into the last of repeated tables. -/
def entriesAt : List String → Entries → Option Entries
  | [], es => some es
  | name :: path, es =>
    match es.lookup name with
    | some (.table _ sub) => entriesAt path sub
    | some (.tables (last :: _)) => entriesAt path last
    | _ => none

end Toml

end SourceTutor
