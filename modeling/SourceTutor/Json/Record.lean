import SourceTutor.Json.Basic

/-!
# Records in JSON

A record with named fields is read from an object, whose unknown members are skipped and whose
known ones may occur once, or from an array of its fields in order, whose tail may be missing.
-/

set_option autoImplicit false

namespace SourceTutor.Json

/-- The values of the members with this name. -/
def valuesOf (name : String) (members : List (Option String × Json)) : List Json :=
  members.filterMap fun m => if m.1 == some name then some m.2 else none

/-- The only value of a member; nothing if the member is missing, and no result if it is
repeated. -/
def member? (name : String) (members : List (Option String × Json)) : Option (Option Json) :=
  match valuesOf name members with
  | [] => some none
  | [v] => some (some v)
  | _ => none

/-- The values of a record's fields, in the order of their names; missing ones are `none`. -/
def fields? (names : List String) : Json → Option (List (Option Json))
  | .object members =>
    if members.all (·.1.isSome) then names.mapM fun name => member? name members else none
  | .array elements =>
    if elements.length ≤ names.length then
      some (elements.map some ++ List.replicate (names.length - elements.length) none)
    else none
  | _ => none

/-- The text of a value. -/
def asText? : Json → Option String
  | .text s => s
  | _ => none

/-- A natural number below two to the thirty-second, written in plain digits. -/
def asWord? : Json → Option Nat
  | .number literal =>
    if literal.toList.all Char.isDigit then
      let n := literal.toList.foldl (fun n c => n * 10 + (c.toNat - 0x30)) 0
      if n < UInt32.size then some n else none
    else none
  | _ => none

/-- The elements of an array, each read by `read`. -/
def asList? {α : Type} (read : Json → Option α) : Json → Option (List α)
  | .array elements => elements.mapM read
  | _ => none

/-- Nothing for `null`, and otherwise what `read` reads. -/
def asOptional? {α : Type} (read : Json → Option α) : Json → Option (Option α)
  | .null => some none
  | v => (read v).map some

/-- A field that has to be there. -/
def required? {α : Type} (read : Json → Option α) (field : Option Json) : Option α :=
  field.bind read

/-- A field that has a value of its own when it is missing. -/
def defaulted? {α : Type} (missing : α) (read : Json → Option α) : Option Json → Option α
  | none => some missing
  | some v => read v

end SourceTutor.Json
