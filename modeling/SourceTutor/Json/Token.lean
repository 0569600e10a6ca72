import SourceTutor.Text.Blank

/-!
# JSON tokens

The text of a JSON document is read character by character into tokens. Between tokens the reader
is in the mode `between`; a quoted text collects the code points that it stands for, including
halves of surrogate pairs written as escapes; a scalar (a number or one of the three words) runs
to the next space, quote or punctuation mark. `Token.ofText?` is `none` for text that is no
sequence of tokens.
-/

set_option autoImplicit false

namespace SourceTutor.Json

/-- A token of a JSON document. -/
inductive Token where
  | openObject
  | closeObject
  | openArray
  | closeArray
  | colon
  | comma
  | null
  | bool (value : Bool)
  /-- A number, as it is written. -/
  | number (literal : String)
  /-- A quoted text; without a value when it stands for a lone half of a surrogate pair. -/
  | text (value : Option String)
  deriving DecidableEq

/-- What the reader is in the middle of. Collected characters are kept last first. -/
inductive Mode where
  /-- Between two tokens. -/
  | between
  /-- In a number or a word. -/
  | scalar (collected : List Char)
  /-- In a quoted text. -/
  | text (points : List Nat)
  /-- Behind a backslash. -/
  | escape (points : List Nat)
  /-- In the four digits of an escape. -/
  | digits (points : List Nat) (missing : Nat) (value : Nat)

/-- Whether the character may stand between tokens. -/
def isSpace (c : Char) : Bool := c == ' ' || c == '\n' || c == '\t' || c == '\r'

/-- The token of a punctuation mark. -/
def punctuation? : Char → Option Token
  | '\x7b' => some .openObject
  | '\x7d' => some .closeObject
  | '[' => some .openArray
  | ']' => some .closeArray
  | ':' => some .colon
  | ',' => some .comma
  | _ => none

/-- The text of these code points, unless one is a lone half of a surrogate pair. -/
def textOf? : List Nat → Option (List Char)
  | [] => some []
  | [n] => if 0xD800 ≤ n && n ≤ 0xDFFF then none else some [Char.ofNat n]
  | n :: m :: rest =>
    if 0xD800 ≤ n && n ≤ 0xDBFF && 0xDC00 ≤ m && m ≤ 0xDFFF then
      (textOf? rest).map (Char.ofNat (0x10000 + (n - 0xD800) * 0x400 + (m - 0xDC00)) :: ·)
    else if 0xD800 ≤ n && n ≤ 0xDFFF then none
    else (textOf? (m :: rest)).map (Char.ofNat n :: ·)

/-- The token of a finished quoted text, its code points last first. -/
def closeText (points : List Nat) : Token := .text ((textOf? points.reverse).map String.ofList)

/-- Whether the digits after an optional exponent mark are well-formed. -/
def isExponent : List Char → Bool
  | [] => true
  | c :: rest =>
    if c == 'e' || c == 'E' then
      let digits := match rest with
        | '+' :: r => r
        | '-' :: r => r
        | r => r
      !digits.isEmpty && digits.all Char.isDigit
    else false

/-- Whether a fraction and an exponent, both optional, are well-formed. -/
def isFraction : List Char → Bool
  | '.' :: rest =>
    let places := rest.takeWhile Char.isDigit
    !places.isEmpty && isExponent (rest.dropWhile Char.isDigit)
  | rest => isExponent rest

/-- Whether the text is a number: no leading zeros, and digits on both sides of the point. -/
def isNumber (s : List Char) : Bool :=
  let unsigned := match s with
    | '-' :: r => r
    | r => r
  match unsigned with
  | '0' :: rest => isFraction rest
  | c :: rest => c.isDigit && isFraction (rest.dropWhile Char.isDigit)
  | [] => false

/-- The token of a finished number or word. -/
def scalar? (s : List Char) : Option Token :=
  if s == ['n', 'u', 'l', 'l'] then some .null
  else if s == ['t', 'r', 'u', 'e'] then some (.bool true)
  else if s == ['f', 'a', 'l', 's', 'e'] then some (.bool false)
  else if isNumber s then some (.number (String.ofList s))
  else none

/-- The mode after a character that starts a token, and the token that it is by itself. -/
def start (c : Char) : Mode × List Token :=
  if isSpace c then (.between, [])
  else if c == '"' then (.text [], [])
  else match punctuation? c with
    | some t => (.between, [t])
    | none => (.scalar [c], [])

/-- Whether the character ends a number or a word. -/
def endsScalar (c : Char) : Bool := isSpace c || c == '"' || (punctuation? c).isSome

/-- The code point of a one-letter escape. -/
def escaped? : Char → Option Nat
  | '"' => some 0x22
  | '\\' => some 0x5C
  | '/' => some 0x2F
  | 'b' => some 0x08
  | 'f' => some 0x0C
  | 'n' => some 0x0A
  | 'r' => some 0x0D
  | 't' => some 0x09
  | _ => none

/-- The value of a hexadecimal digit. -/
def hexValue? (c : Char) : Option Nat :=
  if c.isDigit then some (c.toNat - 0x30)
  else if 'a' ≤ c && c ≤ 'f' then some (c.toNat - 0x57)
  else if 'A' ≤ c && c ≤ 'F' then some (c.toNat - 0x37)
  else none

/-- Read one character. -/
def Mode.step (mode : Mode) (c : Char) : Option (Mode × List Token) :=
  match mode with
  | .between => some (start c)
  | .scalar collected =>
    if endsScalar c then do
      let token ← scalar? collected.reverse
      let (mode, tokens) := start c
      some (mode, token :: tokens)
    else some (.scalar (c :: collected), [])
  | .text points =>
    if c == '"' then some (.between, [closeText points])
    else if c == '\\' then some (.escape points, [])
    else if c.toNat < 0x20 then none
    else some (.text (c.toNat :: points), [])
  | .escape points =>
    if c == 'u' then some (.digits points 4 0, [])
    else (escaped? c).map fun n => (.text (n :: points), [])
  | .digits points missing value =>
    (hexValue? c).map fun d =>
      let value := value * 16 + d
      if missing ≤ 1 then (.text (value :: points), [])
      else (.digits points (missing - 1) value, [])

/-- The tokens that are left when the document ends in this mode. -/
def Mode.finish? : Mode → Option (List Token)
  | .between => some []
  | .scalar collected => (scalar? collected.reverse).map fun t => [t]
  | _ => none

/-- The tokens of the rest of a document. -/
def Mode.tokens? (mode : Mode) : List Char → Option (List Token)
  | [] => mode.finish?
  | c :: cs =>
    match mode.step c with
    | none => none
    | some (next, found) => (next.tokens? cs).map (found ++ ·)

/-- The tokens of a document. -/
def Token.ofText? (s : String) : Option (List Token) := Mode.between.tokens? s.toList

end SourceTutor.Json
