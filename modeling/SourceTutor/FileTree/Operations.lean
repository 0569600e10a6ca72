import SourceTutor.FileTree.Basic

/-!
# Operations on file trees

Reading and writing files, making directories, removing and renaming. Each operation is one step
of the file system: it either fails and leaves the tree as it was, or changes what it names and
nothing else. What fails here fails because of what stands in the tree. A disk that is full or broken
is left out: there a file may be cut to nothing before its bytes fail to be written, and the failure
is no longer one step.
-/

set_option autoImplicit false

namespace SourceTutor.FileTree

/-- The bytes of a file. -/
def read (t : FileTree) (p : Path) : Except IoFault ByteArray := do
  match ← t.resolve .target p with
  | .taken _ (.file bytes) => .ok bytes
  | .taken _ _ => .error .isADirectory
  | .free _ _ => .error .notFound

/-- The text of a file. -/
def readText (t : FileTree) (p : Path) : Except IoFault String := do
  match String.fromUTF8? (← t.read p) with
  | some s => .ok s
  | none => .error .notText

/-- Create a file, or replace the bytes of one. -/
def write (t : FileTree) (p : Path) (bytes : ByteArray) : Except IoFault FileTree := do
  match ← t.resolve .creation p with
  | .taken k (.file _) => .ok (t.insert k (.file bytes))
  | .taken _ _ => .error .isADirectory
  | .free k _ => .ok (t.insert k (.file bytes))

/-- Make one directory in a directory that exists. -/
def createDirectory (t : FileTree) (p : Path) : Except IoFault FileTree := do
  match ← t.resolve .entry p with
  | .taken _ _ => .error .alreadyExists
  | .free k _ => .ok (t.insert k .directory)

/-- Make a directory and those above it that are missing, looking upward at most `height` times.
The tree comes back with what has been made even when a later step fails. -/
def createUpward (t : FileTree) : Nat → Path → FileTree × Except IoFault Unit
  | 0, _ => (t, .error .notFound)
  | height + 1, p =>
    if p.isEmpty then (t, .ok ())
    else match t.createDirectory p with
      | .ok t => (t, .ok ())
      | .error .notFound =>
        match p.parent? with
        | none => (t, .error .notFound)
        | some above =>
          match t.createUpward height above with
          | (t, .error e) => (t, .error e)
          | (t, .ok ()) =>
            match t.createDirectory p with
            | .ok t => (t, .ok ())
            | .error e => if t.isDirectory p then (t, .ok ()) else (t, .error e)
      | .error e => if t.isDirectory p then (t, .ok ()) else (t, .error e)

/-- Make a directory and those above it that are missing. -/
def createDirectories (t : FileTree) (p : Path) : FileTree × Except IoFault Unit :=
  t.createUpward (p.segments.length + 1) p

/-- Remove a file or a link. A slash behind its name asks for a directory, which a link is not. -/
def removeFile (t : FileTree) (p : Path) : Except IoFault FileTree := do
  match ← t.resolve .entry p.withoutEndSlashes with
  | .taken _ .directory => .error .isADirectory
  | .taken k _ => if p.endsWithSlash then .error .notADirectory else .ok (t.erase k)
  | .free _ _ => .error .notFound

/-- Move a file or a link to another place, replacing a file or a link that is there. -/
def rename (t : FileTree) (source target : Path) : Except IoFault FileTree := do
  match ← t.resolve .entry source with
  | .free _ _ => .error .notFound
  | .taken here n =>
    match ← t.resolve .entry target with
    | .taken _ .directory => .error .isADirectory
    | .taken there _ => if there = here then .ok t else .ok ((t.erase here).insert there n)
    | .free there slash =>
      if slash then .error .notADirectory else .ok ((t.erase here).insert there n)

/-- Make a symbolic link. -/
def createLink (t : FileTree) (p target : Path) : Except IoFault FileTree := do
  match ← t.resolve .entry p with
  | .taken _ _ => .error .alreadyExists
  | .free k slash => if slash then .error .notFound else .ok (t.insert k (.link target))

/-- Remove whatever a path names, with everything below it. -/
def removeAll (t : FileTree) (p : Path) : Except IoFault FileTree := do
  match ← t.resolve .entry p with
  | .taken k _ => .ok ⟨t.nodes.filter fun entry => !k.isPrefixOf entry.1⟩
  | .free _ _ => .error .notFound

end SourceTutor.FileTree
