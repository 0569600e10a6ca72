import SourceTutor.FileTree.Basic

/-!
# What differs between two file trees

`FileTree.changesTo` lists what has to be done to one tree to get the other: the nodes to put in
place, directories before what is in them, and the keys to clear.
-/

set_option autoImplicit false

namespace SourceTutor.FileTree

/-- What becomes of a key. -/
inductive Change where
  | put (node : Node)
  /-- What stood there is gone. -/
  | clear

/-- The nodes of `after` that are not in `before`. -/
def additions (before after : FileTree) : List (Key × Change) :=
  after.nodes.filterMap fun (k, n) =>
    if before.get? k = some n then none else some (k, .put n)

/-- The keys of `before` at which `after` has nothing. -/
def removals (before after : FileTree) : List (Key × Change) :=
  before.nodes.filterMap fun (k, _) =>
    if (after.get? k).isNone then some (k, .clear) else none

/-- What has to be done to get from one tree to the other. -/
def changesTo (before after : FileTree) : List (Key × Change) :=
  additions before after ++ removals before after

end SourceTutor.FileTree
