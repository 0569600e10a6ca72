import SourceTutor.CommandLine.Grammar
import SourceTutor.Settings.Basic

/-!
# Commands

What the program can be told to do, and how the command line says it. Two arguments may stand
before or behind the name of the command: the settings file, for which the later place counts, and
the flag that asks for more events in the log.
-/

set_option autoImplicit false

namespace SourceTutor

open SourceTutor.CommandLine

/-- The arguments of the command that explains files. -/
structure RunFlags where
  dir : Path
  model : Option String
  batchSize : Option Nat
  /-- The seconds between two files. -/
  throttle : Option Nat
  maxAttempts : Option Nat
  /-- The seconds after which a request is given up. -/
  timeout : Option Nat
  /-- The length up to which code is handed over as it is. -/
  maxCodeLength : Option Nat
  outputDir : Option String
  /-- Whether files whose artifacts are there are explained again. -/
  processAll : Bool
  /-- Whether the queue is forgotten first. -/
  reset : Bool
  createIndex : Bool
  deriving DecidableEq

/-- What the program is told to do. -/
inductive Command where
  | run (flags : RunFlags)
  | index (dir : Path) (outputDir : Option String)
  | listModels
  | checkModels (models : List String)
  | testConnection (model : Option String)
  deriving DecidableEq

/-- A command line. -/
structure CommandLine where
  command : Command
  config : Option Path
  verbose : Bool
  deriving DecidableEq

namespace CommandLine

/-! ## What each command accepts -/

/-- The flag that asks for help. -/
def helpFlag : Flag := ⟨"help", some 'h'⟩

/-- The flag that asks for more events in the log. -/
def verboseFlag : Flag := ⟨"verbose", some 'v'⟩

/-- A command with its own options and flags and those that every command has. -/
def level (options : List (String × ValueKind)) (flags : List String) (takesWords : Bool) : Level :=
  ⟨options ++ [("config", .path)], flags.map (⟨·, none⟩) ++ [verboseFlag, helpFlag], takesWords, []⟩

/-- The names of the commands. -/
def commandNames : List String :=
  ["run", "index", "list-models", "check-models", "test-connection", "help"]

/-- What may stand before the name of the command. -/
def top : Level :=
  ⟨[("config", .path)], [verboseFlag, helpFlag, ⟨"version", some 'V'⟩], false, commandNames⟩

/-- The options and flags of the command that explains files. -/
def runLevel : Level :=
  level
    [("dir", .path), ("model", .text), ("batch-size", .long), ("throttle", .long),
      ("max-attempts", .word), ("timeout", .long), ("max-code-length", .long),
      ("output-dir", .text)]
    ["process-all", "reset", "create-index"] false

/-- The options of the command that writes the index. -/
def indexLevel : Level := level [("dir", .path), ("output-dir", .text)] [] false

/-! ## Reading -/

/-- The text given for an option. -/
def textOf? (g : Given) (name : String) : Option String :=
  match g.values.lookup name with
  | some (.text s) => some s
  | _ => none

/-- The number given for an option. -/
def numberOf? (g : Given) (name : String) : Option Nat :=
  match g.values.lookup name with
  | some (.number n) => some n
  | _ => none

/-- The path given for an option. -/
def pathOf? (g : Given) (name : String) : Option Path :=
  match g.values.lookup name with
  | some (.path p) => some p
  | _ => none

/-- The directory given, or else the working directory. -/
def dirOf (g : Given) : Path := (pathOf? g "dir").getD (.ofString ".")

/-- The arguments of the command that explains files. -/
def runFlags (g : Given) : RunFlags where
  dir := dirOf g
  model := textOf? g "model"
  batchSize := numberOf? g "batch-size"
  throttle := numberOf? g "throttle"
  maxAttempts := numberOf? g "max-attempts"
  timeout := numberOf? g "timeout"
  maxCodeLength := numberOf? g "max-code-length"
  outputDir := textOf? g "output-dir"
  processAll := g.flags.contains "process-all"
  reset := g.flags.contains "reset"
  createIndex := g.flags.contains "create-index"

/-- What the commands accept, and what they come to. -/
def commandOf? : String → Option (Level × (Given → Command))
  | "run" => some (runLevel, fun g => .run (runFlags g))
  | "index" => some (indexLevel, fun g => .index (dirOf g) (textOf? g "output-dir"))
  | "list-models" => some (level [] [] false, fun _ => .listModels)
  | "check-models" => some (level [] [] true, fun g => .checkModels g.words)
  | "test-connection" =>
    some (level [("model", .text)] [] false, fun g => .testConnection (textOf? g "model"))
  | _ => none

/-- Read the words of one command to the end of the line. -/
def readToEnd (level : Level) (words : List String) : Except UsageFault Given := do
  match ← level.read words with
  | .lineEnd g => g.settle
  | .command g _ _ => g.settle

/-- What asking for help on these commands comes to: there are no commands below the commands. -/
def helpOn : List String → UsageFault
  | [] => .help
  | [name] => if commandNames.contains name then .help else .unknownCommand
  | _ => .unknownCommand

/-- The command line without a command: help if there is nothing at all. -/
def withoutCommand (g : Given) : UsageFault :=
  if g.values.isEmpty && g.flags.isEmpty then .nothingGiven else .missingCommand

/-- Read a command line, without the name of the program. -/
def parse (words : List String) : Except UsageFault CommandLine := do
  match ← top.read words with
  | .lineEnd g => .error (withoutCommand (← g.settle))
  | .command above name rest =>
    match commandOf? name with
    | none => .error (helpOn rest)
    | some (level, command) =>
      let below ← readToEnd level rest
      let above ← above.settle
      .ok ⟨command below, (pathOf? below "config").or (pathOf? above "config"),
        below.flags.contains "verbose" || above.flags.contains "verbose"⟩

end CommandLine

/-! ## Arguments and settings -/

/-- The settings with the arguments that were given in place of theirs. -/
def RunFlags.overlay (flags : RunFlags) (s : Settings) : Settings :=
  { s with
    model := flags.model.getD s.model
    batchSize := flags.batchSize.getD s.batchSize
    throttleSecs := (flags.throttle.map UInt64.ofNat).getD s.throttleSecs
    maxAttempts := flags.maxAttempts.getD s.maxAttempts
    timeoutSecs := (flags.timeout.map UInt64.ofNat).getD s.timeoutSecs
    maxCodeLength := flags.maxCodeLength.getD s.maxCodeLength
    outputDir := flags.outputDir.getD s.outputDir }

/-- The settings with what the command says about them. -/
def Command.overlay (c : Command) (s : Settings) : Settings :=
  match c with
  | .run flags => flags.overlay s
  | .index _ (some outputDir) => { s with outputDir := outputDir }
  | _ => s

end SourceTutor
