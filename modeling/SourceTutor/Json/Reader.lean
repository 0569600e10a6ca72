import SourceTutor.Json.Basic
import SourceTutor.Json.Token

/-!
# Reading JSON

A document is one value with nothing behind it. Values are read from the tokens of the document;
every value takes at least one token, so the number of tokens bounds the depth of the recursion.
-/

set_option autoImplicit false

namespace SourceTutor.Json

mutual

/-- Read a value from the front of the tokens; the first argument bounds the recursion. -/
def value? : Nat → List Token → Option (Json × List Token)
  | 0, _ => none
  | fuel + 1, tokens =>
    match tokens with
    | .null :: rest => some (.null, rest)
    | .bool b :: rest => some (.bool b, rest)
    | .number literal :: rest => some (.number literal, rest)
    | .text s :: rest => some (.text s, rest)
    | .openArray :: .closeArray :: rest => some (.array [], rest)
    | .openArray :: rest =>
      match elements? fuel rest with
      | some (elements, rest) => some (.array elements, rest)
      | none => none
    | .openObject :: .closeObject :: rest => some (.object [], rest)
    | .openObject :: rest =>
      match members? fuel rest with
      | some (members, rest) => some (.object members, rest)
      | none => none
    | _ => none

/-- Read the elements of an array up to its end. -/
def elements? : Nat → List Token → Option (List Json × List Token)
  | 0, _ => none
  | fuel + 1, tokens =>
    match value? fuel tokens with
    | some (v, .comma :: rest) =>
      match elements? fuel rest with
      | some (vs, rest) => some (v :: vs, rest)
      | none => none
    | some (v, .closeArray :: rest) => some ([v], rest)
    | _ => none

/-- Read the members of an object up to its end. -/
def members? : Nat → List Token → Option (List (Option String × Json) × List Token)
  | 0, _ => none
  | fuel + 1, tokens =>
    match tokens with
    | .text name :: .colon :: rest =>
      match value? fuel rest with
      | some (v, .comma :: rest) =>
        match members? fuel rest with
        | some (ms, rest) => some ((name, v) :: ms, rest)
        | none => none
      | some (v, .closeObject :: rest) => some ([(name, v)], rest)
      | _ => none
    | _ => none

end

/-- The value of a sequence of tokens. -/
def ofTokens? (tokens : List Token) : Option Json :=
  match value? (2 * tokens.length + 1) tokens with
  | some (v, []) => some v
  | _ => none

/-- The value of a document. -/
def parse? (s : String) : Option Json := (Token.ofText? s).bind ofTokens?

end SourceTutor.Json
