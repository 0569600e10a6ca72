import SourceTutor.FileTree.Listing
import SourceTutor.Lesson.Artifact
import SourceTutor.Source

/-!
# The index of all artifacts

The index of a directory lists every artifact below it, grouped first by the language of the source
file and then by the source file. An artifact is a regular file in a directory of the right name
whose own name ends in the suffix of a question, the first such question counting. Artifacts of one
directory that share what stands before the suffix belong together; their source is looked for
beside the directory, under the extensions that the rules name, in the order of the rules.

The name of an artifact counts as what it reads as. Where two artifacts of a directory read alike,
the later one takes the place of the earlier.
-/

set_option autoImplicit false

namespace SourceTutor.Lesson

/-- The artifacts of one source file. -/
structure IndexEntry where
  /-- The name of the source file, or what the artifacts have in common when it is gone. -/
  name : String
  /-- The links, each a label and a path from the directory of the index. -/
  links : List (String × Path)
  deriving DecidableEq

/-- The entries of one language. -/
structure IndexSection where
  language : String
  entries : List IndexEntry
  deriving DecidableEq

/-- The index: its sections in order. -/
structure Index where
  sections : List IndexSection
  deriving DecidableEq

namespace Index

/-- The index without entries. -/
def empty : Index := ⟨[]⟩

/-- Whether there is nothing to list. -/
def isEmpty (index : Index) : Bool := index.sections.isEmpty

/-! ## The text of an index -/

/-- The path of a link, with slashes only. -/
def linkTarget (p : Path) : String := p.toString.map fun c => if c == '\\' then '/' else c

/-- The line of a link. -/
def linkLine (link : String × Path) : String :=
  "* [" ++ link.1 ++ "](" ++ linkTarget link.2 ++ ")\n"

/-- The lines of an entry. -/
def entryText (entry : IndexEntry) : String :=
  "### " ++ entry.name ++ "\n\n" ++ String.join (entry.links.map linkLine) ++ "\n"

/-- The lines of a section. -/
def sectionText (s : IndexSection) : String :=
  "## " ++ s.language ++ " Files\n\n" ++ String.join (s.entries.map entryText)

/-- The text of an index made at the given date. -/
def render (index : Index) (date : String) : String :=
  "# Comprehensive Code Analysis Index\n\nGenerated on: " ++ date ++
    "\n\nThis index links to step-by-step explanations of every analyzed code file.\n\n" ++
    String.join (index.sections.map sectionText)

/-! ## Finding artifacts -/

/-- A file found to be an artifact. -/
structure Finding where
  /-- The names that lead from the directory of the index to the artifact's directory. -/
  directory : Key
  path : Path
  /-- What stands before the suffix. -/
  stem : String
  question : Nat
  label : String
  /-- The names that lead from the directory of the index to the artifact. -/
  names : Key

/-- What stands before the ending of a text. -/
def dropEnding? (s ending : String) : Option String :=
  if endsWith s ending then
    some (String.ofList (s.toList.take (s.toList.length - ending.toList.length)))
  else none

/-- The first question, counted from `index`, whose suffix ends the name, with what stands before
the suffix. -/
def questionOf? (name : String) : Nat → List Question → Option (Nat × String × String)
  | _, [] => none
  | index, question :: rest =>
    match dropEnding? name question.suffix with
    | some stem => some (index, question.label, stem)
    | none => questionOf? name (index + 1) rest

/-- The finding at a regular file, if it is an artifact. The names are those that lead to the file;
a root that is the file itself has none. -/
def finding? (root : Path) (outputDir : String) (questions : List Question) (names : Key) :
    Option Finding := do
  let file := root.descend names
  let name ← if names.isEmpty then root.fileName? else names.getLast?
  let dir ← file.parent?
  if dir.fileName? != some outputDir || !FileName.isText outputDir then none
  let (question, label, stem) ← questionOf? (FileName.text name) 0 questions
  some ⟨names.dropLast, dir, stem, question, label, names⟩

/-- The findings below a directory, in the order of the listing. -/
def findings (t : FileTree) (root : Path) (outputDir : String) (questions : List Question) :
    List Finding :=
  (t.filesBelow root).filterMap (finding? root outputDir questions)

/-! ## Grouping -/

/-- The findings of one source file. -/
structure Group where
  /-- The names that lead to the artifact directory. -/
  directory : Key
  path : Path
  /-- What the artifacts have in common. -/
  stem : String
  /-- The findings, one for a question, in the order of the listing. -/
  members : List Finding

/-- Whether a finding belongs to a group. -/
def Group.owns (g : Group) (f : Finding) : Bool :=
  g.directory == f.directory && g.stem == f.stem

/-- A group with one more finding, which takes the place of another for the same question. -/
def Group.add (g : Group) (f : Finding) : Group :=
  { g with members := g.members.filter (·.question != f.question) ++ [f] }

/-- The groups with one more finding. -/
def addFinding (groups : List Group) (f : Finding) : List Group :=
  match groups with
  | [] => [⟨f.directory, f.path, f.stem, [f]⟩]
  | g :: rest => if g.owns f then g.add f :: rest else g :: addFinding rest f

/-- The order of groups: by directory, then by stem. -/
def Group.le (g h : Group) : Bool :=
  if g.directory = h.directory then decide (g.stem ≤ h.stem)
  else FileTree.keyLe g.directory h.directory

/-- The findings grouped by directory and stem. -/
def groups (found : List Finding) : List Group := (found.foldl addFinding []).mergeSort Group.le

/-- The path from the directory of the index to a finding. -/
def Finding.link (f : Finding) : Path := if f.names.isEmpty then .empty else ⟨f.names⟩

/-- The links of a group, in the order of the questions. -/
def Group.links (g : Group) : List (String × Path) :=
  (g.members.mergeSort fun a b => a.question ≤ b.question).map fun f => (f.label, f.link)

/-- The source file of a group, if it is there. -/
def Group.source? (g : Group) (t : FileTree) (root : Path) (rules : EligibilityRules) :
    Option Path :=
  let dir := g.path.parent?.getD root
  (rules.extensions.map fun extension => dir.child (g.stem ++ "." ++ extension)).find? t.isFile

/-- A group with its name and its language. -/
structure Titled where
  language : String
  entry : IndexEntry
  /-- The names that lead to the artifact directory. -/
  directory : Key

/-- Name a group after its source file; without one it keeps its stem and counts as C. -/
def title (t : FileTree) (root : Path) (rules : EligibilityRules) (g : Group) : Titled :=
  match g.source? t root rules with
  | some source =>
    ⟨languageOf source, ⟨(source.fileName?.map FileName.text).getD g.stem, g.links⟩, g.directory⟩
  | none => ⟨"C", ⟨g.stem, g.links⟩, g.directory⟩

/-- The place of a language among the sections: that of the first extension that stands for it.
A language that no extension stands for comes last. -/
def rank (rules : EligibilityRules) (language : String) : Nat :=
  rules.extensions.findIdx fun extension =>
    languageOf (Path.ofString ("x." ++ extension)) == language

/-- The order of entries: by name, then by directory. -/
def Titled.le (a b : Titled) : Bool :=
  if a.entry.name = b.entry.name then FileTree.keyLe a.directory b.directory
  else decide (a.entry.name < b.entry.name)

/-- The section of one rank; its language is that of the first group found. -/
def sectionOf? (rules : EligibilityRules) (titled : List Titled) (place : Nat) :
    Option IndexSection :=
  match titled.filter fun x => rank rules x.language == place with
  | [] => none
  | first :: rest =>
    some ⟨first.language, ((first :: rest).mergeSort Titled.le).map (·.entry)⟩

/-- The index of the artifacts below a directory. -/
def build (t : FileTree) (root : Path) (outputDir : String) (questions : List Question)
    (rules : EligibilityRules) : Index :=
  let titled := (groups (findings t root outputDir questions)).map (title t root rules)
  ⟨(List.range (rules.extensions.length + 1)).filterMap (sectionOf? rules titled)⟩

/-- Where the index of a directory is written. -/
def path (root : Path) (outputDir : String) : Path := root.child (outputDir ++ "_index.md")

/-- Write the index of a directory, made at the given date. -/
def write (t : FileTree) (root : Path) (outputDir : String) (questions : List Question)
    (rules : EligibilityRules) (date : String) : Except Fault (FileTree × Path) :=
  let target := path root outputDir
  match t.write target ((build t root outputDir questions rules).render date).toUTF8 with
  | .ok t => .ok (t, target)
  | .error e => .error (.artifact target e)

end Index

end SourceTutor.Lesson
