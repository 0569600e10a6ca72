import SourceTutor.FileTree.Basic

/-!
# The regular files below a directory

`FileTree.filesBelow` lists the regular files below a path, each by the names that lead to it,
ordered name by name. Links inside the tree are not followed; the starting point may be a link to a
directory, and a starting point that is a regular file is listed by itself. A directory is opened
under the path that leads to it from the starting point, and one whose path is too long is passed
over with everything below it. That is the only reason here: no directory is closed to those who may
not read it, since a tree has no permissions.
-/

set_option autoImplicit false

namespace SourceTutor.FileTree

/-- Whether the node is a regular file. -/
def isRegular : Node → Bool
  | .file _ => true
  | _ => false

/-- The order of two lists of names: by the first name that differs, a shorter list first. -/
def keyLe : Key → Key → Bool := listLe FileName.before

/-- The names that lead from one key to a key below it, if there are any. -/
def namesBelow? (top k : Key) : Option Key :=
  if top.isPrefixOf k then
    match k.drop top.length with
    | [] => none
    | name :: rest => if Key.isOutside [name] then none else some (name :: rest)
  else none

/-- The names below `top` of the regular files of the tree, in order. -/
def regularBelow (t : FileTree) (top : Key) : List Key :=
  (t.nodes.filterMap fun (k, n) => if isRegular n then namesBelow? top k else none).mergeSort keyLe

/-- Whether the system takes the path to the directory below `root` to which these names lead. -/
def opens (root : Path) (directory : Key) : Bool := (root.descend directory).fault?.isNone

/-- Of the names of files below `root`, those whose directories can be opened. -/
def accessible (root : Path) (files : List Key) : List Key :=
  files.filter fun names => opens root names.dropLast

/-- The regular files below a path, as the names that lead from the path to each. -/
def filesBelow (t : FileTree) (root : Path) : List Key :=
  match t.resolve .entry root with
  | .ok (.taken _ (.file _)) => [[]]
  | .ok (.taken k .directory) => accessible root (t.regularBelow k)
  | .ok (.taken _ (.link _)) =>
    match t.resolve .target root with
    | .ok (.taken k .directory) => accessible root (t.regularBelow k)
    | _ => []
  | _ => []

/-- The paths of the regular files below a path. -/
def listFiles (t : FileTree) (root : Path) : List Path := (t.filesBelow root).map root.descend

end SourceTutor.FileTree
