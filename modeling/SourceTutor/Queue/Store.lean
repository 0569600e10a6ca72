import SourceTutor.FileTree.Operations
import SourceTutor.Queue.Document

/-!
# Keeping the work queue in a file

The queue lives in one file. Saving makes the directory of the file, writes a temporary file beside
it and renames that to the file, so that a save that stops on the way leaves the file as it was.
Loading never fails: where there is no queue to be read, there is an empty one.
-/

set_option autoImplicit false

namespace SourceTutor

/-- The file in which a queue is kept. -/
structure Store where
  path : Path
  deriving DecidableEq

namespace Store

/-- The file that is written first. -/
def temporary (s : Store) : Path := s.path.withExtension "json.tmp"

/-- The queue in the file; an empty one if it cannot be read. -/
def load (s : Store) (t : FileTree) : Progress :=
  match t.readText s.path with
  | .error _ => .empty
  | .ok text => (Progress.parse? text).getD .empty

/-- The first step of a save: the directory of the file. -/
def prepare (s : Store) (t : FileTree) : FileTree × Except IoFault Unit :=
  match s.path.parent? with
  | none => (t, .ok ())
  | some dir => if dir.isEmpty then (t, .ok ()) else t.createDirectories dir

/-- The second step of a save: the temporary file. -/
def stage (s : Store) (t : FileTree) (q : Progress) : Except IoFault FileTree :=
  t.write s.temporary q.print.toUTF8

/-- The last step of a save: the temporary file takes the place of the file. -/
def commit (s : Store) (t : FileTree) : Except IoFault FileTree := t.rename s.temporary s.path

/-- Write the queue; the second component says whether that succeeded. -/
def write (s : Store) (t : FileTree) (q : Progress) : FileTree × Bool :=
  match s.prepare t with
  | (t, .error _) => (t, false)
  | (t, .ok ()) =>
    match s.stage t q with
    | .error _ => (t, false)
    | .ok t =>
      match s.commit t with
      | .error _ => (t, false)
      | .ok t => (t, true)

/-- Stamp the queue with the time and write it. The stamp stays even when the writing fails. -/
def save (s : Store) (now : String) (t : FileTree) (q : Progress) : FileTree × Progress × Bool :=
  let q := { q with lastRun := some now }
  let (t, saved) := s.write t q
  (t, q, saved)

/-- Remove the file; the answer is whether there was one. -/
def reset (s : Store) (t : FileTree) : Except IoFault (FileTree × Bool) :=
  match t.removeFile s.path with
  | .ok t => .ok (t, true)
  | .error .notFound => .ok (t, false)
  | .error e => .error e

end Store

end SourceTutor
