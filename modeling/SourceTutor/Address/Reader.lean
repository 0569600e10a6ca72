import SourceTutor.Address.Basic

/-!
# Reading web addresses

An address is read generously: white space around it and line ends and tabs within it do not count,
the schemes of the web put up with any number of slashes and backslashes before the host, and
whatever may not stand as it is is escaped. Names `.` and `..` in a path are carried out.
-/

set_option autoImplicit false

namespace SourceTutor.Address

/-- What is left of the text of an address without what does not count. -/
def cleaned (s : List Char) : List Char :=
  let isSpace (c : Char) : Bool := c.toNat ≤ 0x20
  let trimmed := ((s.dropWhile isSpace).reverse.dropWhile isSpace).reverse
  trimmed.filter fun c => c != '\t' && c != '\n' && c != '\r'

/-- Read a scheme and the colon behind it. -/
def scheme? (s : List Char) : Option (List Char × List Char) :=
  match s with
  | [] => none
  | first :: _ =>
    let isSchemeChar (c : Char) : Bool := c.isAlphanum || c == '+' || c == '-' || c == '.'
    match s.dropWhile isSchemeChar with
    | ':' :: rest =>
      if first.isAlpha then some ((s.takeWhile isSchemeChar).map Char.toLower, rest) else none
    | _ => none

/-- Whether a character separates the names of a path. -/
def isSeparator (kind : SchemeKind) (c : Char) : Bool := c == '/' || (kind != .other && c == '\\')

/-! ## Hosts -/

/-- A user, a password, a host and a port. -/
structure Authority where
  user : List Char
  password : List Char
  host : Host
  port : Option Nat

/-- The texts before and behind the last `@`; nothing before it if there is none. -/
def splitUser (s : List Char) : Option (List Char) × List Char :=
  match (s.reverse.dropWhile (· != '@')).reverse with
  | [] => (none, s)
  | before => (some before.dropLast, s.drop before.length)

/-- The text of a host, and what follows it from a colon outside brackets on. -/
def splitHost (inBrackets : Bool) : List Char → List Char × List Char
  | [] => ([], [])
  | c :: s =>
    if c == ':' && !inBrackets then ([], c :: s)
    else
      let (host, rest) := splitHost ((inBrackets || c == '[') && c != ']') s
      (c :: host, rest)

/-- Read a port, if there is one, and leave what follows its digits. The port that the scheme
implies counts as none. -/
def port? (implied : Option Nat) : List Char → Option (Option Nat × List Char)
  | ':' :: s =>
    let digits := s.takeWhile Char.isDigit
    let port := if digits.isEmpty then none else some (ofDigits 10 digits)
    if 65535 < port.getD 0 then none
    else some (if port == implied then none else port, s.dropWhile Char.isDigit)
  | s => some (none, s)

/-- Read what stands between the slashes before the host and the path. Behind the digits of a port
only a backslash may follow, and that only where it does not separate. -/
def authority? (scheme s : List Char) : Option (Authority × List Char) := do
  let kind := kindOf scheme
  let isEnd (c : Char) : Bool := isSeparator kind c || c == '?' || c == '#'
  let (user, place) := splitUser (s.takeWhile (!isEnd ·))
  let (name, behind) := splitHost false place
  let (port, left) ← port? (impliedPort? scheme) behind
  if !left.isEmpty && left.head? != some '\\' then none
  let host ← if kind == .web then Host.ofWeb? name else Host.ofOther? name
  let (userName, password) := (user.getD []).span (· != ':')
  let (userName, password) := (escape escapedInUser userName, escape escapedInUser (password.drop 1))
  if name.isEmpty && (kind == .web || !behind.isEmpty || user == some [] ||
      !userName.isEmpty || !password.isEmpty) then none
  some (⟨userName, password, host, port⟩, left ++ s.dropWhile (!isEnd ·))

/-! ## Paths -/

/-- A name of a path with its escaped points written as points. -/
def withPoints : List Char → List Char
  | '%' :: '2' :: 'e' :: s => '.' :: withPoints s
  | '%' :: '2' :: 'E' :: s => '.' :: withPoints s
  | c :: s => c :: withPoints s
  | [] => []

/-- Carry out the names `.` and `..` of a path; `done` are the names before, last one first. At the
end of a path each of them leaves an empty name. -/
def namesFrom (done : List (List Char)) : List (List Char) → List (List Char)
  | [] => done.reverse
  | name :: rest =>
    let points := withPoints name
    if points == ['.'] then namesFrom (if rest.isEmpty then [] :: done else done) rest
    else if points == ['.', '.'] then
      namesFrom (if rest.isEmpty then [] :: done.drop 1 else done.drop 1) rest
    else namesFrom (name :: done) rest

/-- The path that a text stands for, from its first name on. -/
def pathOf (kind : SchemeKind) (s : List Char) : List Char :=
  let names := namesFrom [] ((s.splitOnP (isSeparator kind)).map (escape escapedInPath))
  let names := if kind == .file then names.dropWhile (·.isEmpty) else names
  if names.isEmpty then ['/'] else names.flatMap ('/' :: ·)

/-- The text without the separator at its front. -/
def dropSeparator (kind : SchemeKind) : List Char → List Char
  | c :: s => if isSeparator kind c then s else c :: s
  | [] => []

/-! ## Addresses -/

/-- An address with what follows its host. -/
def complete (scheme : List Char) (authority : Option Authority) (rest : List Char) : Address :=
  let kind := kindOf scheme
  let isEnd (c : Char) : Bool := c == '?' || c == '#'
  let before := rest.takeWhile (!isEnd ·)
  let path :=
    if kind != .other then pathOf kind (dropSeparator kind before)
    else if authority.isSome then
      if before.isEmpty then [] else pathOf kind (dropSeparator kind before)
    else match before with
      | '/' :: names => pathOf kind names
      | _ => escape (fun _ => false) before
  let after := rest.dropWhile (!isEnd ·)
  let query := after.takeWhile (· != '#')
  {
    scheme := scheme
    user := (authority.map (·.user)).getD []
    password := (authority.map (·.password)).getD []
    host := authority.map (·.host)
    port := authority.bind (·.port)
    path := path
    query := if query.isEmpty then none
      else some (escape (escapedInQuery (kind != .other)) (query.drop 1))
    fragment := if (after.drop query.length).isEmpty then none
      else some (escape escapedInFragment (after.drop (query.length + 1))) }

/-- Read what follows the scheme of a file. The host of this machine need not be named. -/
def file? (scheme s : List Char) : Option Address :=
  match s with
  | a :: b :: rest =>
    if isSeparator .file a && isSeparator .file b then
      let isEnd (c : Char) : Bool := isSeparator .file c || c == '?' || c == '#'
      let text := rest.takeWhile (!isEnd ·)
      let here := Host.name []
      (if text.isEmpty then some here else Host.ofWeb? text).map fun host =>
        let host := if host = .name "localhost".toList then here else host
        complete scheme (some ⟨[], [], host, none⟩) (rest.dropWhile (!isEnd ·))
    else some (complete scheme (some ⟨[], [], .name [], none⟩) s)
  | _ => some (complete scheme (some ⟨[], [], .name [], none⟩) s)

/-- The address that a text stands for. -/
def parse? (s : String) : Option Address := do
  let (scheme, rest) ← scheme? (cleaned s.toList)
  match kindOf scheme with
  | .file => file? scheme rest
  | .web =>
    let (authority, rest) ← authority? scheme (rest.dropWhile (isSeparator .web))
    some (complete scheme (some authority) rest)
  | .other =>
    match rest with
    | '/' :: '/' :: rest =>
      let (authority, rest) ← authority? scheme rest
      some (complete scheme (some authority) rest)
    | _ => some (complete scheme none rest)

end SourceTutor.Address
