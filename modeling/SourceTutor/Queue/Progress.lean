/-!
# The work queue

Which items wait, which are done and which have failed. `Progress.next` takes the item at the
front, `Progress.record` files an item under its outcome and drops it from everywhere else, and
`Progress.enqueue` adds an item that is in none of the three lists.
-/

set_option autoImplicit false

namespace SourceTutor

/-- How the work on an item ends. -/
inductive Outcome where
  | completed
  | failed
  deriving DecidableEq

/-- The name of an outcome. -/
def Outcome.name : Outcome → String
  | .completed => "completed"
  | .failed => "failed"

/-- The state of the work: three lists of items, and the time at which it was last saved. -/
structure Progress where
  /-- The items that wait, in the order in which they will be taken. -/
  pending : List String
  completed : List String
  failed : List String
  /-- When the state was last saved. -/
  lastRun : Option String
  deriving DecidableEq

namespace Progress

/-- No work at all. -/
def empty : Progress := ⟨[], [], [], none⟩

/-- Whether the item waits. -/
def isPending (q : Progress) (item : String) : Bool := q.pending.contains item

/-- Whether the item is done. -/
def isCompleted (q : Progress) (item : String) : Bool := q.completed.contains item

/-- Whether the item has failed. -/
def isFailed (q : Progress) (item : String) : Bool := q.failed.contains item

/-- Whether the item is in one of the lists. -/
def isKnown (q : Progress) (item : String) : Bool :=
  q.isPending item || q.isCompleted item || q.isFailed item

/-- The item at the front, and the queue without it. -/
def next (q : Progress) : Option String × Progress :=
  (q.pending.head?, { q with pending := q.pending.tail })

/-- The list with the item at its end, unless it is there already. -/
def addOnce (items : List String) (item : String) : List String :=
  if items.contains item then items else items ++ [item]

/-- The list without the item. -/
def drop (items : List String) (item : String) : List String := items.filter (· != item)

/-- The queue with the item filed under its outcome. -/
def record (q : Progress) (item : String) : Outcome → Progress
  | .completed =>
    { q with
      pending := drop q.pending item
      completed := addOnce q.completed item
      failed := drop q.failed item }
  | .failed =>
    { q with
      pending := drop q.pending item
      completed := drop q.completed item
      failed := addOnce q.failed item }

/-- The queue with the item waiting at its end, unless it is known. -/
def enqueue (q : Progress) (item : String) : Progress :=
  if q.isKnown item then q else { q with pending := q.pending ++ [item] }

theorem length_drop_le (items : List String) (item : String) :
    (drop items item).length ≤ items.length :=
  List.length_filter_le _ _

theorem length_pending_record_le (q : Progress) (item : String) (o : Outcome) :
    (q.record item o).pending.length ≤ q.pending.length := by
  cases o <;> exact length_drop_le q.pending item

end Progress

end SourceTutor
