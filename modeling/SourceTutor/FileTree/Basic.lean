import SourceTutor.Path
import SourceTutor.FileTree.Fault

/-!
# File trees

A file tree maps keys to nodes. A key is the list of names from the working directory, the top of
the tree, where a name is any sequence of bytes (`FileName.bytes`); a key outside starts with `..`
for each directory above the top, or with `/` for the root. A node is a regular file with its bytes,
a directory, or a symbolic link with the path it points to.
`FileTree.resolve` finds the place that a path names: it walks the segments from the top or from the
root, follows the links on the way, and stops with a fault where a name is missing, a file stands in
place of a directory, or more than forty links had to be followed.

A tree is simpler than a disk. There are no permissions, so that whoever runs the program may list
every directory and read and write every file; a file has one name only, so that nothing is written
under one name and read under another but through links; and there is always room to write.
-/

set_option autoImplicit false

namespace SourceTutor

/-- What stands at a key of a file tree. -/
inductive Node where
  | file (bytes : ByteArray)
  | directory
  | link (target : Path)

/-- Two nodes are equal when they are of one kind and hold the same bytes or the same path. -/
instance : DecidableEq Node
  | .file a, .file b =>
    match ByteArray.instDecidableEq a b with
    | isTrue h => isTrue (congrArg Node.file h)
    | isFalse h => isFalse fun e => h (Node.file.inj e)
  | .link p, .link q =>
    match decEq p q with
    | isTrue h => isTrue (congrArg Node.link h)
    | isFalse h => isFalse fun e => h (Node.link.inj e)
  | .directory, .directory => isTrue rfl
  | .file _, .directory => isFalse nofun
  | .file _, .link _ => isFalse nofun
  | .directory, .file _ => isFalse nofun
  | .directory, .link _ => isFalse nofun
  | .link _, .file _ => isFalse nofun
  | .link _, .directory => isFalse nofun

/-- The names that lead from the top of a tree to a node. -/
abbrev Key := List String

namespace Key

/-- The key of the root. -/
def root : Key := ["/"]

/-- Whether the key leads outside the top. -/
def isOutside (k : Key) : Bool := k.head? == some ".." || k.head? == some "/"

/-- The directory above a directory; the root is above itself. -/
def above (k : Key) : Key :=
  if k.all (· == "..") then k ++ [".."] else if k == root then root else k.dropLast

end Key

/-- Files, directories and links under one top directory, and what is known of those outside. -/
structure FileTree where
  /-- The nodes, each key once. -/
  nodes : List (Key × Node)
  deriving DecidableEq

/-- The greatest number of bytes of a name. -/
def FileTree.longestName : Nat := 255

/-- The number of bytes that a path has to stay below. -/
def FileTree.longestPath : Nat := 4096

/-- The number of links that a walk may follow. -/
def FileTree.linkBudget : Nat := 40

/-- Why a path is refused whatever the tree, if it is. -/
def Path.fault? (p : Path) : Option IoFault :=
  if p.bytes.contains 0 then some .zeroInPath
  else if p.bytes.isEmpty then some .notFound
  else if FileTree.longestPath ≤ p.bytes.length then some .nameTooLong
  else none

namespace FileTree

/-- The tree without files. -/
def empty : FileTree := ⟨[]⟩

/-- What stands at a key. The top is a directory. -/
def get? (t : FileTree) (k : Key) : Option Node :=
  if k = [] then some .directory else t.nodes.lookup k

/-- The tree with nothing at the key. -/
def erase (t : FileTree) (k : Key) : FileTree := ⟨t.nodes.filter (·.1 != k)⟩

/-- The tree with the node at the key. -/
def insert (t : FileTree) (k : Key) (n : Node) : FileTree := ⟨(t.erase k).nodes ++ [(k, n)]⟩

/-- The place that a path names. -/
inductive Place where
  | taken (key : Key) (node : Node)
  /-- Nothing is there, but its directory exists; `slash` says that the path ends with a slash. -/
  | free (key : Key) (slash : Bool)

/-- What a path is walked for. -/
inductive Aim where
  /-- For what stands under its last name, be it a link. -/
  | entry
  /-- For what it leads to. -/
  | target
  /-- For the file it leads to, which is made if it is missing. A slash behind the name of a file
  makes it the name of a directory, whatever it stands for. -/
  | creation
  deriving DecidableEq

/-- Walk the segments from the directory `here`, with `links` links left. -/
def walkFrom (t : FileTree) (aim : Aim) (links : Nat) (here : Key) (todo : List String) :
    Except IoFault Place :=
  match todo with
  | [] => .ok (.taken here .directory)
  | "" :: rest => walkFrom t aim links here rest
  | "." :: rest => walkFrom t aim links here rest
  | ".." :: rest => walkFrom t aim links (Key.above here) rest
  | name :: rest =>
    let k := here ++ [name]
    if aim = .creation && !rest.isEmpty && rest.all (· == "") then .error .isADirectory
    else if longestName < FileName.size name then .error .nameTooLong
    else match t.get? k with
      | none => if rest.all (· == "") then .ok (.free k !rest.isEmpty) else .error .notFound
      | some (.file bytes) =>
        if rest.isEmpty then .ok (.taken k (.file bytes)) else .error .notADirectory
      | some .directory => walkFrom t aim links k rest
      | some (.link target) =>
        if rest.isEmpty && aim = .entry then .ok (.taken k (.link target))
        else match links with
          | 0 => .error .tooManyLinks
          | links + 1 =>
            walkFrom t aim links (if target.isAbsolute then Key.root else here)
              (target.segments ++ rest)
  termination_by (links, todo.length)

/-- The place that a path names. -/
def resolve (t : FileTree) (aim : Aim) (p : Path) : Except IoFault Place :=
  match p.fault? with
  | some e => .error e
  | none => t.walkFrom aim linkBudget (if p.isAbsolute then Key.root else []) p.segments

/-- The node that a path leads to. -/
def node? (t : FileTree) (p : Path) : Option Node :=
  match t.resolve .target p with
  | .ok (.taken _ n) => some n
  | _ => none

/-- Whether the path leads to a regular file. -/
def isFile (t : FileTree) (p : Path) : Bool :=
  match t.node? p with
  | some (.file _) => true
  | _ => false

/-- Whether the path leads to a directory. -/
def isDirectory (t : FileTree) (p : Path) : Bool :=
  match t.node? p with
  | some .directory => true
  | _ => false

/-- Whether the path leads to anything. -/
def contains (t : FileTree) (p : Path) : Bool := (t.node? p).isSome

end FileTree

end SourceTutor
