import SourceTutor.Json.Printer
import SourceTutor.Json.Reader
import SourceTutor.Json.Record
import SourceTutor.Queue.Progress

/-!
# The work queue as a document

The queue is kept as a JSON record of its three lists and the time of the last save. The time may
be missing, the lists may not.
-/

set_option autoImplicit false

namespace SourceTutor.Progress

open SourceTutor.Json

/-- The record of a queue. -/
def toJson (q : Progress) : Json :=
  .record [("pending", .ofTexts q.pending), ("completed", .ofTexts q.completed),
    ("failed", .ofTexts q.failed), ("last_run", .ofText? q.lastRun)]

/-- The queue of a record. -/
def ofJson? (v : Json) : Option Progress := do
  match ← fields? ["pending", "completed", "failed", "last_run"] v with
  | [pending, completed, failed, lastRun] =>
    some ⟨← required? (asList? asText?) pending, ← required? (asList? asText?) completed,
      ← required? (asList? asText?) failed,
      ← defaulted? none (asOptional? asText?) lastRun⟩
  | _ => none

/-- The document of a queue: its record and a line end. -/
def print (q : Progress) : String := Json.print q.toJson ++ "\n"

/-- The queue that a document holds. -/
def parse? (s : String) : Option Progress := (Json.parse? s).bind ofJson?

end SourceTutor.Progress
