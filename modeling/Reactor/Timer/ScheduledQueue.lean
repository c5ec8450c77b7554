import Reactor.Roster
import Reactor.Ticks

/-!
# The queue of scheduled timers

The timers that wait to fire form a binary heap of their ids with the soonest in front.  The heap
does not know how many ticks a timer has left: every operation takes a key function that does.  A
timer's children stand at twice its position plus one and plus two.
-/

namespace Reactor

/-- The place of a timer in the timer list. -/
structure TimerId where
  /-- The index. -/
  index : Nat
deriving DecidableEq, Inhabited

/-- The written form of a timer id. -/
def TimerId.text (id : TimerId) : String := s!"timer#{id.index}"

/-- A heap of timer ids. -/
structure ScheduledQueue where
  /-- The ids in heap order. -/
  heap : Roster TimerId

namespace ScheduledQueue

/-- Moves the id at `child` towards the front, past every parent whose key is greater. -/
def siftUp (key : TimerId → Ticks) (ids : Array TimerId) (child : Nat)
    (inside : child < ids.size) : Array TimerId :=
  if root : child = 0 then ids
  else
    have above : (child - 1) / 2 < child := by omega
    have parent_inside : (child - 1) / 2 < ids.size := by omega
    if key ids[(child - 1) / 2] ≤ key ids[child] then ids
    else siftUp key (ids.swap child ((child - 1) / 2)) ((child - 1) / 2) (by simpa)
termination_by child

/-- The child of `parent` with the lesser key; the left one if the keys agree. -/
def lesserChild (key : TimerId → Ticks) (ids : Array TimerId) (parent : Nat)
    (left : 2 * parent + 1 < ids.size) : Nat :=
  if right : 2 * parent + 2 < ids.size then
    if key ids[2 * parent + 2] < key ids[2 * parent + 1] then 2 * parent + 2 else 2 * parent + 1
  else 2 * parent + 1

theorem lesserChild_eq_or (key : TimerId → Ticks) (ids : Array TimerId) (parent : Nat)
    (left : 2 * parent + 1 < ids.size) :
    lesserChild key ids parent left = 2 * parent + 1 ∨
      (lesserChild key ids parent left = 2 * parent + 2 ∧ 2 * parent + 2 < ids.size) := by
  unfold lesserChild
  split
  · split
    · exact Or.inr ⟨rfl, by assumption⟩
    · exact Or.inl rfl
  · exact Or.inl rfl

theorem lesserChild_lt_size (key : TimerId → Ticks) (ids : Array TimerId) (parent : Nat)
    (left : 2 * parent + 1 < ids.size) : lesserChild key ids parent left < ids.size := by
  rcases lesserChild_eq_or key ids parent left with place | ⟨place, right⟩ <;> omega

theorem lt_lesserChild (key : TimerId → Ticks) (ids : Array TimerId) (parent : Nat)
    (left : 2 * parent + 1 < ids.size) : parent < lesserChild key ids parent left := by
  rcases lesserChild_eq_or key ids parent left with place | ⟨place, _⟩ <;> omega

/-- Moves the id at `parent` away from the front, past every child whose key is less. -/
def siftDown (key : TimerId → Ticks) (ids : Array TimerId) (parent : Nat) : Array TimerId :=
  if left : 2 * parent + 1 < ids.size then
    have child_inside := lesserChild_lt_size key ids parent left
    have below := lt_lesserChild key ids parent left
    if key ids[parent] ≤ key ids[lesserChild key ids parent left] then ids
    else
      siftDown key (ids.swap parent (lesserChild key ids parent left))
        (lesserChild key ids parent left)
  else ids
termination_by ids.size - parent
decreasing_by
  simp only [Array.size_swap]
  omega

/-- Sifts down the ids at the positions below `count`, the last of them first. -/
def siftDownBelow (key : TimerId → Ticks) : Nat → Array TimerId → Array TimerId
  | 0, ids => ids
  | count + 1, ids => siftDownBelow key count (siftDown key ids count)

/-- Brings any array of ids into heap order. -/
def makeHeap (key : TimerId → Ticks) (ids : Array TimerId) : Array TimerId :=
  siftDownBelow key (ids.size / 2) ids

/-- A queue with nothing in it. -/
def empty (capacity : Capacity) : ScheduledQueue := { heap := .empty capacity }

/-- The scheduled ids in heap order. -/
def ids (queue : ScheduledQueue) : Array TimerId := queue.heap.entries

/-- The number of scheduled ids. -/
def size (queue : ScheduledQueue) : Nat := queue.ids.size

/-- Whether nothing is scheduled. -/
def isEmpty (queue : ScheduledQueue) : Bool := queue.ids.isEmpty

/-- The id in front, which has the least key of all. -/
def front? (queue : ScheduledQueue) : Option TimerId := queue.ids[0]?

/-- Whether an id is scheduled. -/
def contains (queue : ScheduledQueue) (id : TimerId) : Bool := queue.ids.contains id

/-- The queue with its ids rearranged. -/
def withIds (queue : ScheduledQueue) (ids : Array TimerId) : ScheduledQueue :=
  { queue with heap := { queue.heap with entries := ids } }

/-- Inserts an id; a full queue refuses it. -/
def push? (key : TimerId → Ticks) (queue : ScheduledQueue) (id : TimerId) :
    Option ScheduledQueue :=
  (queue.heap.push? id).map fun heap =>
    if inside : heap.entries.size - 1 < heap.entries.size then
      queue.withIds (siftUp key heap.entries (heap.entries.size - 1) inside)
    else queue

/-- Removes the id in front: it changes places with the last one, which is then sifted down. -/
def popFront? (key : TimerId → Ticks) (queue : ScheduledQueue) :
    Option (TimerId × ScheduledQueue) :=
  queue.front?.map fun front =>
    let rest := (queue.ids.swapIfInBounds 0 (queue.size - 1)).pop
    (front, queue.withIds (siftDown key rest 0))

/-- Restores heap order after the key of the id in front has grown. -/
def siftFront (key : TimerId → Ticks) (queue : ScheduledQueue) : ScheduledQueue :=
  queue.withIds (siftDown key queue.ids 0)

/-- Removes the first occurrence of an id, wherever it stands; the last id takes its place and the
heap is made anew. -/
def remove? (key : TimerId → Ticks) (queue : ScheduledQueue) (id : TimerId) :
    Option ScheduledQueue := do
  let position ← queue.ids.findIdx? (· == id)
  let (_, rest) ← queue.heap.swapRemove? position
  return queue.withIds (makeHeap key rest.entries)

/-- The queue without its first occurrence of an id, if it has one. -/
def remove (key : TimerId → Ticks) (queue : ScheduledQueue) (id : TimerId) : ScheduledQueue :=
  (queue.remove? key id).getD queue

/-- Removes every id. -/
def clear (queue : ScheduledQueue) : ScheduledQueue := queue.withIds #[]

/-- Whether no id has a lesser key than its parent. -/
def isHeap (key : TimerId → Ticks) (queue : ScheduledQueue) : Bool :=
  (List.range queue.size).all fun child =>
    match queue.ids[(child - 1) / 2]?, queue.ids[child]? with
    | some parent, some id => child == 0 || key parent ≤ key id
    | _, _ => true

end ScheduledQueue

end Reactor
