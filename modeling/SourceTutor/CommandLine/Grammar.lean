import SourceTutor.Path

/-!
# The grammar of a command line

A command takes options with a value, flags, and perhaps any number of plain words. An option is
written `--name value` or `--name=value`; flags may have a letter, and letters may be written
together behind one dash. Behind `--` everything is a plain word.

`Level` is what one command accepts, and `Level.read` reads its words. A value is looked at when the
next option or flag, or the end, is reached, and so a word that is not known at all is reported
before a wrong value in front of it.
-/

set_option autoImplicit false

namespace SourceTutor.CommandLine

/-- Why a command line is not carried out. -/
inductive UsageFault where
  | help
  | version
  | nothingGiven
  | missingCommand
  | unknownCommand
  /-- There is no such option, flag or place for a word. -/
  | unknownArgument
  | givenTwice
  /-- The value of an option is missing or empty. -/
  | missingValue
  | wrongValue
  | unwantedValue
  deriving DecidableEq

/-- The exit status: asking for help or for the version is no mistake. -/
def UsageFault.exitStatus : UsageFault → Nat
  | .help => 0
  | .version => 0
  | _ => 2

/-- What kind of value an option takes. -/
inductive ValueKind where
  | text
  /-- A path, which is not empty. -/
  | path
  /-- A natural number below two to the sixty-fourth. -/
  | long
  /-- A natural number below two to the thirty-second. -/
  | word
  deriving DecidableEq

/-- The value of an option. -/
inductive Value where
  | text (s : String)
  | path (p : Path)
  | number (n : Nat)
  deriving DecidableEq

/-- The number that plain digits stand for, if there is at least one and nothing else. -/
def digitsValue? (s : List Char) : Option Nat :=
  if s.isEmpty || !s.all Char.isDigit then none
  else some (s.foldl (fun n c => n * 10 + (c.toNat - 0x30)) 0)

/-- The natural number below the bound that a text stands for. A plus sign may stand in front, and
where `zeroMinus` allows it a minus sign in front of zero. -/
def natural? (bound : Nat) (zeroMinus : Bool) (s : String) : Option Nat :=
  match s.toList with
  | '+' :: digits => (digitsValue? digits).bind fun n => if n < bound then some n else none
  | '-' :: digits =>
    if zeroMinus then (digitsValue? digits).bind fun n => if n = 0 then some 0 else none else none
  | digits => (digitsValue? digits).bind fun n => if n < bound then some n else none

/-- Read a value of a kind. -/
def ValueKind.read (kind : ValueKind) (s : String) : Except UsageFault Value :=
  let number : Option Nat → Except UsageFault Value
    | some n => .ok (.number n)
    | none => .error .wrongValue
  match kind with
  | .text => .ok (.text s)
  | .path => if s == "" then .error .missingValue else .ok (.path (.ofString s))
  | .long => number (natural? UInt64.size false s)
  | .word => number (natural? UInt32.size true s)

/-- A flag. -/
structure Flag where
  name : String
  letter : Option Char
  deriving DecidableEq

/-- What one command accepts. -/
structure Level where
  options : List (String × ValueKind)
  flags : List Flag
  /-- Whether plain words are taken. -/
  takesWords : Bool
  /-- The commands below this one. -/
  commands : List String

/-- An option whose value has not been looked at yet. -/
structure Waiting where
  name : String
  kind : ValueKind
  /-- Its value, once that has come. -/
  value : Option String

/-- What has been read of a command. -/
structure Given where
  values : List (String × Value)
  flags : List String
  words : List String
  /-- The option before. -/
  waiting : Option Waiting

namespace Given

/-- Nothing read yet. -/
def nothing : Given := ⟨[], [], [], none⟩

/-- Whether the option before still lacks its value. -/
def lacksValue (g : Given) : Bool :=
  match g.waiting with
  | some ⟨_, _, none⟩ => true
  | _ => false

/-- Look at the value of the option before. -/
def settle (g : Given) : Except UsageFault Given :=
  match g.waiting with
  | none => .ok g
  | some ⟨_, _, none⟩ => .error .missingValue
  | some ⟨name, kind, some s⟩ =>
    if (g.values.lookup name).isSome then .error .givenTwice
    else do
      let v ← kind.read s
      .ok { g with values := g.values ++ [(name, v)], waiting := none }

/-- Take the value of the option before. -/
def takeValue (g : Given) (s : String) : Given :=
  { g with waiting := g.waiting.map fun w => { w with value := some s } }

/-- Take a flag. -/
def takeFlag (g : Given) (name : String) : Except UsageFault Given := do
  let g ← g.settle
  if name == "help" then .error .help
  else if name == "version" then .error .version
  else if g.flags.contains name then .error .givenTwice
  else .ok { g with flags := g.flags ++ [name] }

/-- Take an option, with its value if that is attached. -/
def takeOption (g : Given) (name : String) (kind : ValueKind) (attached : Option String) :
    Except UsageFault Given := do
  let g ← g.settle
  let g := { g with waiting := some ⟨name, kind, attached⟩ }
  if attached.isSome then g.settle else .ok g

/-- Take a plain word. -/
def takeWord (g : Given) (s : String) : Except UsageFault Given := do
  let g ← g.settle
  .ok { g with words := g.words ++ [s] }

end Given

/-- How the reading of a command's words ends. -/
inductive Stop where
  /-- At the end of the line. -/
  | lineEnd (given : Given)
  /-- At the name of a command below, with the words behind it. -/
  | command (given : Given) (name : String) (rest : List String)

namespace Level

/-- Read a word that starts with two dashes, which have been taken off. -/
def readLong (level : Level) (g : Given) (s : List Char) : Except UsageFault Given :=
  let name := String.ofList (s.takeWhile (· != '='))
  let attached := match s.dropWhile (· != '=') with
    | _ :: value => some (String.ofList value)
    | [] => none
  match level.options.lookup name with
  | some kind => g.takeOption name kind attached
  | none =>
    if level.flags.any (·.name == name) then
      if attached.isSome then .error .unwantedValue else g.takeFlag name
    else .error .unknownArgument

/-- Read letters written together behind one dash. -/
def readLetters (level : Level) : Given → List Char → Except UsageFault Given
  | g, [] => .ok g
  | g, c :: rest =>
    match level.flags.find? (·.letter == some c) with
    | none => .error .unknownArgument
    | some flag => do level.readLetters (← g.takeFlag flag.name) rest

/-- Read a plain word; `escaped` says that it stands behind `--`. -/
def readWord (level : Level) (escaped : Bool) (g : Given) (s : String) : Except UsageFault Given :=
  if level.takesWords then g.takeWord s
  else if level.commands.isEmpty || (escaped && level.commands.contains s) then
    .error .unknownArgument
  else .error .unknownCommand

/-- Read words that stand behind `--`. -/
def readEscaped (level : Level) : Given → List String → Except UsageFault Given
  | g, [] => .ok g
  | g, s :: rest => do level.readEscaped (← level.readWord true g s) rest

/-- Read the words of a command. -/
def readFrom (level : Level) : Given → List String → Except UsageFault Stop
  | g, [] => .ok (.lineEnd g)
  | g, s :: rest =>
    if !g.lacksValue && level.commands.contains s then .ok (.command g s rest)
    else match s.toList with
      | ['-', '-'] => do .ok (.lineEnd (← level.readEscaped g rest))
      | '-' :: '-' :: name => do level.readFrom (← level.readLong g name) rest
      | '-' :: c :: letters => do level.readFrom (← level.readLetters g (c :: letters)) rest
      | _ =>
        if g.lacksValue then level.readFrom (g.takeValue s) rest
        else do level.readFrom (← level.readWord false g s) rest

/-- Read the words of a command from the first one on. -/
def read (level : Level) (words : List String) : Except UsageFault Stop :=
  level.readFrom .nothing words

end Level

end SourceTutor.CommandLine
