import SourceTutor.Fault
import SourceTutor.FileTree.Operations
import SourceTutor.Lesson.Question

/-!
# Artifacts

The answer to a question about a file is kept in a file of its own: in a directory beside the
source file, under the name of the source file with its extension replaced by the suffix of the
question. The artifact starts with a title that names the source file.
-/

set_option autoImplicit false

namespace SourceTutor.Lesson

/-- Where the answer with this suffix about a source file is kept. -/
def artifactPath (source : Path) (outputDir suffix : String) : Path :=
  (((source.parent?).getD .empty).child outputDir).child
    (FileName.text (source.stem?.getD "") ++ suffix)

/-- Whether there is an artifact for every one of the suffixes, and a suffix at all. -/
def artifactsExist (t : FileTree) (source : Path) (outputDir : String) (suffixes : List String) :
    Bool :=
  !suffixes.isEmpty &&
    suffixes.all fun suffix => t.isFile (artifactPath source outputDir suffix)

/-- The text of an artifact. -/
def artifactText (source : Path) (question : Question) (answer : String) : String :=
  "# " ++ question.heading ++ ": " ++ FileName.text (source.fileName?.getD "") ++ "\n\n" ++ answer

/-- Make the directory of an artifact if it is not there. -/
def makeOutputDir (t : FileTree) (artifact : Path) : FileTree × Except Fault Unit :=
  match artifact.parent? with
  | none => (t, .ok ())
  | some dir =>
    if t.isDirectory dir then (t, .ok ())
    else match t.createDirectories dir with
      | (t, .ok ()) => (t, .ok ())
      | (t, .error e) => (t, .error (.artifact dir e))

/-- Write the answer to the question of this index; the result is the path of the artifact. -/
def writeArtifact (t : FileTree) (source : Path) (outputDir : String) (questions : List Question)
    (index : Nat) (answer : String) : FileTree × Except Fault Path :=
  match questions[index]? with
  | none => (t, .error (.settings ("no question with index " ++ toString index)))
  | some question =>
    let path := artifactPath source outputDir question.suffix
    match makeOutputDir t path with
    | (t, .error e) => (t, .error e)
    | (t, .ok ()) =>
      match t.write path (artifactText source question answer).toUTF8 with
      | .ok t => (t, .ok path)
      | .error e => (t, .error (.artifact path e))

end SourceTutor.Lesson
