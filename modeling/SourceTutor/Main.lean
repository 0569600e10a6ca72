import SourceTutor.FileTree.Changes
import SourceTutor.Program
import Std.Time.Format

/-!
# The command line program

Reads what is below the working directory, runs `Program.run` on it, carries out the changes and
prints what there is to print. Files that cannot be read are passed over, and symbolic links are
seen when they lead to something below the working directory. There is no connection to a service
here, so every request ends like one to a service that cannot be reached.
-/

set_option autoImplicit false

namespace SourceTutor.CommandLineTool

/-! ## The working directory -/

/-- The names between two directories, the first of which is above the second. -/
def namesBelow (top path : String) : Key :=
  ((path.toList.drop (top.toList.length + 1)).splitOn '/').map String.ofList

/-- Everything below a directory of the tree, which stands below `top`. -/
partial def readBelow (top : String) (here : Key) : IO (List (Key × Node)) := do
  let directory := "/".intercalate (top :: here)
  let mut nodes := []
  for entry in ← (System.mkFilePath [directory]).readDir do
    let key := here ++ [entry.fileName]
    match (← entry.path.symlinkMetadata).type with
    | .dir => nodes := nodes ++ (key, .directory) :: (← readBelow top key)
    | .file =>
      if let .ok bytes ← (IO.FS.readBinFile entry.path).toBaseIO then
        nodes := nodes ++ [(key, .file bytes)]
    | .symlink =>
      if ← entry.path.pathExists then
        let target := (← IO.FS.realPath entry.path).toString
        if (top ++ "/").isPrefixOf target then
          nodes := nodes ++ [(key, .link ⟨here.map (fun _ => "..") ++ namesBelow top target⟩)]
    | .other => continue
  return nodes

/-- The files below the working directory. -/
def readTree : IO FileTree := do
  return ⟨← readBelow (← IO.FS.realPath (← IO.currentDir)).toString []⟩

/-- Carry out a change. -/
def carryOut (key : Key) (change : FileTree.Change) : IO Unit := do
  let path := System.mkFilePath key
  match change with
  | .put .directory => IO.FS.createDirAll path
  | .put (.file bytes) => IO.FS.writeBinFile path bytes
  | .put (.link _) => return
  | .clear => IO.FS.removeFile path

/-! ## The rest of the surroundings -/

/-- The variables of the environment that these files may ask for. -/
def readEnvironment (t : FileTree) : IO EnvFile.Names := do
  let text := ((t.readText Settings.envFile).toOption.getD "").toList
  let mut known := []
  for name in Settings.keyName :: EnvFile.namesAskedFor text do
    if let some value ← IO.getEnv name then known := known ++ [(name, value)]
  return fun name => known.lookup name

/-- What the program is started with. -/
def launch (arguments : List String) (t : FileTree) : IO Launch := do
  let now ← Std.Time.PlainDateTime.now
  return {
    arguments := arguments
    environment := ← readEnvironment t
    reply := fun endpoint _ => endpoint.unreachable
    draw := fun low _ => low
    stopRequested := fun _ => false
    now := now.format "uuuu-MM-dd'T'HH:mm:ss.SSSSSS"
    date := now.format "uuuu-MM-dd HH:mm:ss" }

/-- What is said about the use of the program. -/
def usage : String :=
  "Usage: code-analyzer [--config FILE] [--verbose] COMMAND\n\n" ++
  "Commands:\n" ++
  "  run              Explain the files of a directory\n" ++
  "  index            Write the index of the artifacts below a directory\n" ++
  "  list-models      List the recommended models\n" ++
  "  check-models     Probe which models answer\n" ++
  "  test-connection  Send one small request\n"

/-- Report why the program ends without having done its work. -/
def report : ProgramFault → IO Unit
  | .usage .help => IO.print usage
  | .usage .version => return
  | .usage _ => IO.eprint usage
  | e => IO.eprintln ("Error: " ++ e.message?.getD "a wait is no length of time")

/-- Wait without end, as a run does that has none. -/
partial def wait : IO UInt32 := do
  IO.sleep 1000
  wait

end SourceTutor.CommandLineTool

open SourceTutor in
/-- Run the program on the working directory; the answer is the exit status. -/
def main (args : List String) : IO UInt32 := do
  let before ← CommandLineTool.readTree
  match Program.run (← CommandLineTool.launch args before) before with
  | none => CommandLineTool.wait
  | some (w, outcome) =>
    for (key, change) in before.changesTo w.tree do
      CommandLineTool.carryOut key change
    IO.print w.printed
    match outcome with
    | .ok () => return 0
    | .error e =>
      CommandLineTool.report e
      return UInt32.ofNat e.exitStatus
