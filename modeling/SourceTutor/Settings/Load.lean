import SourceTutor.FileTree.Operations
import SourceTutor.Settings.Document
import SourceTutor.Settings.EnvFile

/-!
# Loading the settings

Settings come from a file that is named, or else from the standard file if there is one. The key
for the service comes from the environment, or else from the environment file; only when neither
has one does the key of the settings file count.

The key is searched for first, and the search may have no end: a directory in place of the
environment file can be opened, but every attempt to read a line of it fails, and lines that cannot
be read are passed over. `Settings.load` says what is loaded when the search ends, and
`Settings.load?` also when it does not.
-/

set_option autoImplicit false

namespace SourceTutor

/-- Why settings cannot be loaded. -/
inductive LoadFault where
  /-- The file cannot be read. -/
  | reading (path : Path) (fault : IoFault)
  /-- The file holds no settings. -/
  | parsing (path : Path)
  deriving DecidableEq

/-- What was being done when loading failed. -/
def LoadFault.context : LoadFault → String
  | .reading path _ => "reading config file " ++ path.toString
  | .parsing path => "parsing config file " ++ path.toString

namespace Settings

/-- The file that settings come from when none is named. -/
def standardFile : Path := .ofString "code-analyzer.toml"

/-- The variable that holds the key. -/
def keyName : String := "DEEPSEEK_API_KEY"

/-- The environment file. -/
def envFile : Path := .ofString ".env"

/-- The settings of a file. -/
def ofFile (t : FileTree) (p : Path) : Except LoadFault Settings :=
  match t.readText p with
  | .error e => .error (.reading p e)
  | .ok text =>
    match parse? text with
    | some s => .ok s
    | none => .error (.parsing p)

/-- The key of the environment file: its first entry for the key that is not empty. A file that
cannot be opened has none. -/
def envFileKey? (t : FileTree) (environment : EnvFile.Names) : Option String :=
  match t.read envFile with
  | .error _ => none
  | .ok bytes =>
    ((EnvFile.entries environment bytes).find? fun e => e.1 == keyName && e.2 != "").map (·.2)

/-- The key outside the settings file. -/
def outerKey? (t : FileTree) (environment : EnvFile.Names) : Option String :=
  match environment keyName with
  | some key => if key != "" then some key else envFileKey? t environment
  | none => envFileKey? t environment

/-- Whether the search for a key has no end: the environment has none, and a directory stands in
place of the environment file. -/
def searchesForEver (t : FileTree) (environment : EnvFile.Names) : Bool :=
  (environment keyName).getD "" == "" && t.isDirectory envFile

/-- The settings of the file named, or of the standard one. -/
def ofFileOrStandard (t : FileTree) : Option Path → Except LoadFault Settings
  | some p => ofFile t p
  | none => if t.contains standardFile then ofFile t standardFile else .ok standard

/-- What is loaded when the search for a key ends. -/
def load (t : FileTree) (environment : EnvFile.Names) (file : Option Path) :
    Except LoadFault Settings := do
  let s ← ofFileOrStandard t file
  match outerKey? t environment with
  | some key => .ok { s with apiKey := key }
  | none => .ok s

/-- Load the settings; `none` stands for a search for the key that has no end. -/
def load? (t : FileTree) (environment : EnvFile.Names) (file : Option Path) :
    Option (Except LoadFault Settings) :=
  if searchesForEver t environment then none else some (load t environment file)

end Settings

end SourceTutor
