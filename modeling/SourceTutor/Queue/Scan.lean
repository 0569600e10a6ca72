import SourceTutor.FileTree.Listing
import SourceTutor.Lesson.Artifact
import SourceTutor.Queue.Store
import SourceTutor.Source

/-!
# Filling the queue

A scan lists the files below a directory and makes the queue anew from those that the rules accept.
A file whose artifacts are all there counts as done, unless existing artifacts are to be ignored; a
file that is done or has failed already stays so; every other file waits.
-/

set_option autoImplicit false

namespace SourceTutor

open SourceTutor.Lesson

/-- What a scan looks for. -/
structure ScanOptions where
  rules : EligibilityRules
  /-- The name of the directories with artifacts. -/
  outputDir : String
  /-- Whether a file whose artifacts are there is done. -/
  skipExisting : Bool
  /-- The suffixes of the artifacts of a file. -/
  suffixes : List String
  deriving DecidableEq

namespace ScanOptions

/-- Whether a file counts as done because its artifacts are there. -/
def skips (options : ScanOptions) (t : FileTree) (source : Path) : Bool :=
  options.skipExisting && artifactsExist t source options.outputDir options.suffixes

/-- Place one file in the queue. -/
def place (options : ScanOptions) (t : FileTree) (q : Progress) (source : Path) : Progress :=
  if !options.rules.accepts source then q
  else if options.skips t source then q.record source.toString .completed
  else q.enqueue source.toString

/-- Make the queue anew from a list of files. -/
def reconcile (options : ScanOptions) (t : FileTree) (files : List Path) (q : Progress) :
    Progress :=
  files.foldl (options.place t) { q with pending := [] }

/-- Load the queue, make it anew from the files below a directory, and save it. -/
def scan (options : ScanOptions) (store : Store) (now : String) (root : Path) (t : FileTree) :
    FileTree × Progress :=
  let q := options.reconcile t (t.listFiles root) (store.load t)
  let (t, q, _) := store.save now t q
  (t, q)

end ScanOptions

end SourceTutor
