import SourceTutor.Chat.Endpoint
import SourceTutor.CommandLine.Basic
import SourceTutor.Lesson.Analysis
import SourceTutor.Lesson.Index
import SourceTutor.Queue.Scan
import SourceTutor.Settings.Load

/-!
# The program

What a command does to the files and what it prints. The settings are loaded, overlaid with the
arguments and checked; the log file is opened; then the command is carried out. The first of these
that fails ends the program, and what it was doing is reported. Only loading may have no end, and
then the program has none: `Program.run` gives `none`.
-/

set_option autoImplicit false

namespace SourceTutor

open SourceTutor.Lesson

/-- Why the program ends without having done its work. -/
inductive ProgramFault where
  | usage (fault : CommandLine.UsageFault)
  | load (fault : LoadFault)
  | logDirectory (dir : Path) (fault : IoFault)
  | logFile (file : Path) (fault : IoFault)
  | resetQueue (file : Path) (fault : IoFault)
  | command (fault : Fault)
  /-- A wait is no length of time; settings that pass the checks have none of these. -/
  | impossibleWait
  deriving DecidableEq

namespace ProgramFault

/-- The line that reports a failure; usage is explained instead. -/
def message? : ProgramFault → Option String
  | .usage _ => none
  | .load fault => some fault.context
  | .logDirectory dir _ => some ("creating log directory " ++ dir.toString)
  | .logFile file _ => some ("opening log file " ++ file.toString)
  | .resetQueue file _ => some ("removing state file " ++ file.toString)
  | .command fault => some fault.message
  | .impossibleWait => none

/-- The exit status of a failure. -/
def exitStatus : ProgramFault → Nat
  | .usage fault => fault.exitStatus
  | .impossibleWait => 101
  | _ => 1

end ProgramFault

/-- What the program is started with. -/
structure Launch where
  /-- The words of the command line, without the name of the program. -/
  arguments : List String
  /-- The variables of the environment. -/
  environment : EnvFile.Names
  /-- How the service at an endpoint replies to the last of the requests sent so far. -/
  reply : Chat.Endpoint → List Chat.Request → Chat.Reply
  /-- Picks a jitter factor between two bounds. -/
  draw : Binary.Value → Binary.Value → Binary.Value
  stopRequested : World → Bool
  /-- The time with which a saved queue is stamped. -/
  now : String
  /-- The date that a written index bears. -/
  date : String

namespace Launch

/-- The surroundings of a program with these settings. -/
def surroundings (l : Launch) (s : Settings) : Surroundings where
  reply := l.reply (.ofBase s.apiBaseUrl s.apiKey)
  draw := l.draw
  stopRequested := l.stopRequested
  now := l.now

end Launch

/-- How a step of the program ends, and the world behind it. -/
abbrev Step := World × Except ProgramFault Unit

namespace Program

/-! ## The log file -/

/-- The files with the log file there to be written to. -/
def touch (t : FileTree) (file : Path) : Except IoFault FileTree := do
  match ← t.resolve .creation file with
  | .taken _ (.file _) => .ok t
  | .taken _ _ => .error .isADirectory
  | .free _ _ => t.write file ByteArray.empty

/-- Make the directory of the log file and open it. -/
def openLog (file : Option Path) (w : World) : Step :=
  match file with
  | none => (w, .ok ())
  | some file =>
    let dir := (file.parent?).getD .empty
    match if dir.isEmpty then (w.tree, .ok ()) else w.tree.createDirectories dir with
    | (t, .error e) => ({ w with tree := t }, .error (.logDirectory dir e))
    | (t, .ok ()) =>
      match touch t file with
      | .error e => ({ w with tree := t }, .error (.logFile file e))
      | .ok t => ({ w with tree := t }, .ok ())

/-- Note an event in the log file. What cannot be noted is lost. -/
def note (s : Settings) (event : String) (w : World) : World :=
  match s.logFile with
  | none => w
  | some file =>
    match w.tree.read file with
    | .error _ => w
    | .ok bytes =>
      match w.tree.write file (bytes ++ (event ++ "\n").toUTF8) with
      | .error _ => w
      | .ok t => { w with tree := t }

/-! ## The commands -/

/-- Note that an index is empty. -/
def noteEmptyIndex (s : Settings) (dir : Path) (w : World) : World :=
  if (Index.build w.tree dir s.outputDir Question.standard .standard).isEmpty then
    note s "no artifacts found, the index will be empty" w
  else w

/-- Write the index of a directory. -/
def writeIndex (l : Launch) (s : Settings) (dir : Path) (w : World) : Step :=
  let w := noteEmptyIndex s dir w
  match Index.write w.tree dir s.outputDir Question.standard .standard l.date with
  | .error e => (w, .error (.command e))
  | .ok (t, path) =>
    let w := note s ("analysis index written: " ++ path.toString) { w with tree := t }
    (w.print ("Created analysis index: " ++ path.toString ++ "\n"), .ok ())

/-- The queue of a directory before anything is worked on. -/
def scanOptions (flags : RunFlags) (s : Settings) : ScanOptions where
  rules := .standard
  outputDir := s.outputDir
  skipExisting := !flags.processAll
  suffixes := Question.standard.map (·.suffix)

/-- How files are explained with these settings, if their delays are lengths of time. -/
def analyzer? (s : Settings) : Option Analyzer := do
  some {
    client := ⟨s.model, s.fallbackModels, ⟨s.maxTokens, s.temperature⟩, ← s.retryPolicy?⟩
    questions := Question.standard
    outputDir := s.outputDir
    maxCodeLength := s.maxCodeLength
    pacing := ← s.pacing? }

/-- Work through the queue and report; the answer is whether the run was interrupted. -/
def workThrough (l : Launch) (s : Settings) (store : Store) (q : Progress) (w : World) :
    World × Except ProgramFault Bool :=
  match analyzer? s with
  | none => (w, .error .impossibleWait)
  | some a =>
    let scheduler := a.scheduler (l.surroundings s) store s.batchSize s.throttle
    let (summary, _, w) := scheduler.run q w
    if w.broken then (w, .error .impossibleWait)
    else (w.print (Report.summary summary), .ok summary.interrupted)

/-- Forget the queue if that is asked for. -/
def resetQueue (flags : RunFlags) (store : Store) (w : World) : Step :=
  if flags.reset then
    match store.reset w.tree with
    | .error e => (w, .error (.resetQueue store.path e))
    | .ok (t, _) => ({ w with tree := t }, .ok ())
  else (w, .ok ())

/-- Explain the files of a directory, once the queue has been reset where asked for. -/
def explainFiles (l : Launch) (flags : RunFlags) (s : Settings) (store : Store) (w : World) :
    Step :=
  let (t, q) := (scanOptions flags s).scan store l.now flags.dir w.tree
  let w := note s "scan finished" { w with tree := t }
  if l.stopRequested w then (w, .ok ())
  else
    match if q.pending.isEmpty then (w, .ok false) else workThrough l s store q w with
    | (w, .error e) => (w, .error e)
    | (w, .ok interrupted) =>
      if flags.createIndex && !interrupted then writeIndex l s flags.dir w else (w, .ok ())

/-- Explain the files of a directory. -/
def runFiles (l : Launch) (flags : RunFlags) (s : Settings) (w : World) : Step :=
  match s.requireKey with
  | .error e => (w, .error (.command e))
  | .ok _ =>
    let store : Store := ⟨s.stateFile⟩
    match resetQueue flags store w with
    | (w, .error e) => (w, .error e)
    | (w, .ok ()) => explainFiles l flags s store w

/-- Note the requests of a probe, if more events are wanted. -/
def noteRequests (s : Settings) (verbose : Bool) (w : World) : World :=
  if verbose then w.sent.foldl (fun w _ => note s "sending chat request" w) w else w

/-- Probe models. -/
def checkModels (l : Launch) (verbose : Bool) (models : List String) (s : Settings) (w : World) :
    Step :=
  match s.requireKey with
  | .error e => (w, .error (.command e))
  | .ok _ =>
    let models := if models.isEmpty then Probe.standardModels else models
    let w := w.print "Testing DeepSeek model availability...\n"
    let (results, w) := Probe.probeModels (l.surroundings s).service models w
    (noteRequests s verbose (w.print (Report.probes results)), .ok ())

/-- Test the connection to the service. -/
def testConnection (l : Launch) (verbose : Bool) (model : Option String) (s : Settings)
    (w : World) : Step :=
  match s.requireKey with
  | .error e => (w, .error (.command e))
  | .ok _ =>
    let model := model.getD s.model
    let w := w.print "Testing DeepSeek API connectivity...\n"
    let (result, w) := Probe.testConnection (l.surroundings s).service model w
    let shown := match result with
      | .ok reply => Except.ok reply
      | .error e => Except.error e.message
    (noteRequests s verbose (w.print (Report.connection model shown)), .ok ())

/-- Carry out a command. -/
def perform (l : Launch) (line : CommandLine) (s : Settings) (w : World) : Step :=
  match line.command with
  | .run flags => runFiles l flags s w
  | .index dir _ => writeIndex l s dir w
  | .listModels => (w.print Report.recommendedModels, .ok ())
  | .checkModels models => checkModels l line.verbose models s w
  | .testConnection model => testConnection l line.verbose model s w

/-! ## The program -/

/-- The settings that a command line comes to, if they are acceptable. -/
def settingsFor (line : CommandLine) : Except LoadFault Settings → Except ProgramFault Settings
  | .error e => .error (.load e)
  | .ok s =>
    let s := line.command.overlay s
    match s.validate with
    | .error e => .error (.command e)
    | .ok () => .ok s

/-- What the program does once the settings have been loaded, or have failed to be. -/
def proceed (l : Launch) (line : CommandLine) (loaded : Except LoadFault Settings) (w : World) :
    Step :=
  match settingsFor line loaded with
  | .error e => (w, .error e)
  | .ok s =>
    match openLog s.logFile w with
    | (w, .error e) => (w, .error e)
    | (w, .ok ()) => perform l line s w

/-- The text that names the program and its version. -/
def versionText : String := "code-analyzer 0.1.0\n"

/-- Run the program; `none` stands for a run that has no end. -/
def run (l : Launch) (t : FileTree) : Option Step :=
  let w := World.start t
  match CommandLine.parse l.arguments with
  | .error .version => some (w.print versionText, .error (.usage .version))
  | .error e => some (w, .error (.usage e))
  | .ok line =>
    (Settings.load? t l.environment line.config).map fun loaded => proceed l line loaded w

end Program

end SourceTutor
