import SourceTutor.Address.Host

/-!
# Web addresses

An address names a scheme, mostly a host, and a path; a query and a fragment may follow. All parts
are kept in the form in which they are written, with escapes, so that the text of an address is its
parts with their marks between them.
-/

set_option autoImplicit false

namespace SourceTutor

/-- An address. -/
structure Address where
  /-- The scheme, in small letters. -/
  scheme : List Char
  /-- The name of a user; empty if there is none. -/
  user : List Char
  /-- The password of the user; empty if there is none. -/
  password : List Char
  /-- The host; nothing if no place for one is marked. -/
  host : Option Address.Host
  /-- The port, if it is not the one that the scheme implies. -/
  port : Option Nat
  path : List Char
  query : Option (List Char)
  fragment : Option (List Char)
  deriving DecidableEq

namespace Address

/-! ## Schemes -/

/-- The kinds of schemes that are read in different ways. -/
inductive SchemeKind where
  /-- The schemes of the web, whose addresses always have a host. -/
  | web
  | file
  | other
  deriving DecidableEq

/-- The port that a scheme of the web implies. -/
def impliedPort? (scheme : List Char) : Option Nat :=
  match String.ofList scheme with
  | "http" => some 80
  | "https" => some 443
  | "ws" => some 80
  | "wss" => some 443
  | "ftp" => some 21
  | _ => none

/-- The kind of a scheme. -/
def kindOf (scheme : List Char) : SchemeKind :=
  if (impliedPort? scheme).isSome then .web
  else if scheme == "file".toList then .file
  else .other

/-! ## Text -/

/-- The user and the password with the mark behind them. -/
def userText (a : Address) : List Char :=
  if a.user.isEmpty && a.password.isEmpty then []
  else a.user ++ (if a.password.isEmpty then [] else ':' :: a.password) ++ ['@']

/-- The place of the host, with what belongs to it. -/
def hostText (a : Address) : List Char :=
  match a.host with
  | none => []
  | some host =>
    ['/', '/'] ++ a.userText ++ host.text ++
      ((a.port.map fun n => ':' :: Nat.toDigits 10 n).getD [])

/-- The text of an address. -/
def text (a : Address) : String :=
  String.ofList (a.scheme ++ [':'] ++ a.hostText ++ a.path ++
    ((a.query.map ('?' :: ·)).getD []) ++ ((a.fragment.map ('#' :: ·)).getD []))

/-- Whether the address names a host. -/
def hasHost (a : Address) : Bool :=
  match a.host with
  | none => false
  | some (.name []) => false
  | some _ => true

/-- The address without its user, provided that the escapes in the name stand for text and that
there is a name or a password that can be told. -/
def withoutUser (a : Address) : Address :=
  match unescapeText? a.user with
  | none => a
  | some [] =>
    if a.password.isEmpty || (unescapeText? a.password).isNone then a else { a with password := [] }
  | some _ => { a with user := [], password := [] }

end Address

end SourceTutor
