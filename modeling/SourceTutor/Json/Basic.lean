/-!
# JSON values

A JSON value as it is written: numbers keep their literal, the members of an object their order
and their repetitions. A text has no value when it stands for a lone half of a surrogate pair;
such a text may be skipped, and cannot be used.
-/

set_option autoImplicit false

namespace SourceTutor

/-- A JSON value. -/
inductive Json where
  | null
  | bool (value : Bool)
  /-- A number, as it is written. -/
  | number (literal : String)
  /-- A text, if it is one. -/
  | text (value : Option String)
  | array (elements : List Json)
  /-- The members, each a name and a value, in order. -/
  | object (members : List (Option String × Json))

namespace Json

/-- The value with this text. -/
def ofText (s : String) : Json := .text (some s)

/-- The value `null`, or a text. -/
def ofText? : Option String → Json
  | none => .null
  | some s => ofText s

/-- The array of these texts. -/
def ofTexts (ss : List String) : Json := .array (ss.map ofText)

/-- The object with these members. -/
def record (members : List (String × Json)) : Json :=
  .object (members.map fun m => (some m.1, m.2))

end Json

end SourceTutor
