import SourceTutor.Lesson.Artifact
import SourceTutor.Lesson.Conversation
import SourceTutor.Lesson.Opening
import SourceTutor.Queue.Schedule
import SourceTutor.Queue.Store
import SourceTutor.Report
import SourceTutor.Text.Decoding

/-!
# Explaining a source file

To work on an item is to read the file, to hold the conversation about it, and to write the
answers beside it. `World` is what this changes: the files, the clock, the requests sent and the
text printed. `Surroundings` is what it depends on: the answers of the service and the moment at
which somebody asks to stop.
-/

set_option autoImplicit false

namespace SourceTutor.Lesson

open SourceTutor.Chat

/-- What working on items changes. -/
structure World where
  tree : FileTree
  /-- The milliseconds that have passed. -/
  clock : Nat
  /-- The requests sent so far, in order. -/
  sent : List Request
  printed : String
  finished : Nat
  /-- Whether a wait has come out as no length of time; nothing after that counts. -/
  broken : Bool

/-- The world before anything has happened to these files. -/
def World.start (tree : FileTree) : World := ⟨tree, 0, [], "", 0, false⟩

/-- The world with more text printed. -/
def World.print (w : World) (text : String) : World := { w with printed := w.printed ++ text }

/-- What working on items depends on. -/
structure Surroundings where
  /-- The reply to the last of the requests sent so far. -/
  reply : List Request → Reply
  /-- A jitter factor between two bounds. -/
  draw : Binary.Value → Binary.Value → Binary.Value
  stopRequested : World → Bool
  /-- The time with which a saved queue is stamped. -/
  now : String

/-- The service as it appears in the world. -/
def Surroundings.service (around : Surroundings) : Service World where
  exchange request w :=
    let sent := w.sent ++ [request]
    (around.reply sent, { w with sent := sent })
  sleep d w := { w with clock := w.clock + d.sleepMillis }
  draw := around.draw

/-- How files are explained. -/
structure Analyzer where
  client : Client
  questions : List Question
  /-- The name of the directories with artifacts. -/
  outputDir : String
  /-- The length up to which code is handed over as it is. -/
  maxCodeLength : Nat
  /-- The pause between two questions. -/
  pacing : Duration

namespace Analyzer

/-- Writes the answers about a source file into the world. -/
def writer (a : Analyzer) (source : Path) : Writer World := fun index answer w =>
  match writeArtifact w.tree source a.outputDir a.questions index answer with
  | (tree, .ok path) => (.ok path, { w with tree := tree })
  | (tree, .error e) => (.error e.message, { w with tree := tree })

/-- Hold the conversation about a file whose text is known. -/
def explain (a : Analyzer) (around : Surroundings) (item : String) (content : String) (w : World) :
    Outcome × World :=
  let source := Path.ofString item
  let (conclusion, w) :=
    converse a.client around.service (a.writer source) a.pacing a.questions
      (opening source content a.maxCodeLength) w
  let w := w.print (Report.conclusion item conclusion)
  match conclusion with
  | .completed _ => (.completed, w)
  | .failed _ _ _ => (.failed, w)
  | .impossibleWait => (.failed, { w with broken := true })

/-- Work on an item. A file that cannot be read fails without a request. -/
def process (a : Analyzer) (around : Surroundings) (item : String) (w : World) : Outcome × World :=
  let (outcome, w) :=
    match w.tree.read (Path.ofString item) with
    | .error e =>
      (Outcome.failed, w.print (Report.unreadable item (SourceTutor.Fault.io e).message))
    | .ok bytes => a.explain around item (Text.decode bytes) w
  (outcome, { w with finished := w.finished + 1 })

/-- Work through a queue that is kept in a store. -/
def scheduler (a : Analyzer) (around : Surroundings) (store : Store) (batchSize : Nat)
    (throttle : Duration) : Scheduler World where
  process := a.process around
  save q w :=
    let (tree, q, _) := store.save around.now w.tree q
    (q.lastRun, { w with tree := tree })
  stopRequested := around.stopRequested
  pause w := if throttle.isZero then w else around.service.sleep throttle w
  batchSize := batchSize

end Analyzer

end SourceTutor.Lesson
