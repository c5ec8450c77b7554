import Reactor.Proofs.ScheduledQueue.Contents
import Reactor.Session.Containers
import Mathlib.Data.List.Sort

/-!
# The scheduled queue as a priority queue

Whatever the keys are, and however often an id is queued, the queue holds a multiset of ids and
gives out one with the least key.  Every operation on a queue in heap order leaves it in heap order;
a removal that finds its id brings any queue into heap order.
-/

namespace Reactor.ScheduledQueue

variable {key : TimerId → Ticks} {queue rest : ScheduledQueue} {front : TimerId}

theorem popFront?_eq_none_iff : queue.popFront? key = none ↔ queue.ids = #[] := by
  rw [popFront?, Option.map_eq_none_iff, front?_eq_none_iff]

/-- What is taken from the front is in front. -/
theorem front?_of_popFront? (popped : queue.popFront? key = some (front, rest)) :
    queue.front? = some front := by
  obtain ⟨_, in_front, same⟩ := Option.map_eq_some_iff.mp popped
  rw [in_front, (Prod.mk.inj same).1]

/-- The id that leaves has the least key, and the others stay. -/
theorem of_popFront? (popped : queue.popFront? key = some (front, rest)) :
    queue.ids.toList.Perm (front :: rest.ids.toList) ∧
      (queue.Ordered key → rest.Ordered key ∧ ∀ id ∈ queue.ids, key front ≤ key id) := by
  have in_front := front?_of_popFront? popped
  obtain ⟨left, taken, permuted, _, kept⟩ := popFront?_of_front? key in_front
  rw [popped, Option.some.injEq, Prod.mk.injEq] at taken
  rw [taken.2]
  exact ⟨permuted, fun ordered => ⟨kept ordered, fun id queued => ordered.front_le in_front queued⟩⟩

theorem size_of_popFront? (popped : queue.popFront? key = some (front, rest)) :
    rest.size < queue.size := by
  have longer := (of_popFront? popped).1.length_eq
  simp only [List.length_cons, Array.length_toList] at longer
  simp only [size]
  omega

/-- Takes ids from the front until none is left. -/
def popAll (key : TimerId → Ticks) (queue : ScheduledQueue) : List TimerId :=
  match popped : queue.popFront? key with
  | none => []
  | some (front, rest) =>
      have : rest.size < queue.size := size_of_popFront? popped
      front :: popAll key rest
termination_by queue.size
decreasing_by exact this

theorem popAll_of_empty (empty : queue.popFront? key = none) : popAll key queue = [] := by
  rw [popAll]
  split
  · rfl
  · next popped => simp [empty] at popped

theorem popAll_of_popFront? (popped : queue.popFront? key = some (front, rest)) :
    popAll key queue = front :: popAll key rest := by
  rw [popAll]
  split
  · next empty => simp [popped] at empty
  · next again =>
      rw [popped, Option.some.injEq, Prod.mk.injEq] at again
      rw [again.1, again.2]

/-- Every queued id is given out once for each time that it is queued. -/
theorem popAll_perm : (popAll key queue).Perm queue.ids.toList := by
  induction queue using popAll.induct key with
  | case1 queue empty =>
      rw [popAll_of_empty empty, popFront?_eq_none_iff.mp empty]
  | case2 queue front rest popped shorter induction =>
      rw [popAll_of_popFront? popped]
      exact (induction.cons front).trans (of_popFront? popped).1.symm

/-- The ids are given out in the order of their keys. -/
theorem popAll_sorted (ordered : queue.Ordered key) :
    (popAll key queue).Pairwise fun first second => key first ≤ key second := by
  induction queue using popAll.induct key with
  | case1 queue empty =>
      rw [popAll_of_empty empty]
      exact List.Pairwise.nil
  | case2 queue front rest popped shorter induction =>
      obtain ⟨permuted, keeps⟩ := of_popFront? popped
      obtain ⟨kept, least⟩ := keeps ordered
      rw [popAll_of_popFront? popped]
      refine List.pairwise_cons.mpr ⟨?_, induction kept⟩
      intro id later
      have queued : id ∈ queue.ids.toList :=
        permuted.mem_iff.mpr (List.mem_cons_of_mem front (popAll_perm.mem_iff.mp later))
      exact least id (Array.mem_toList_iff.mp queued)

/-- A heap with keys hands an id back, and stays as it is, if the queue does not take it. -/
theorem take_push_of_refused {heap : Session.KeyedHeap} {id : TimerId}
    (refused : heap.queue.push? heap.key id = none) :
    heap.take (.push id) = (.rejected id, heap) := by
  simp only [Session.KeyedHeap.take, refused]

/-- The queue is a priority queue: each operation changes the multiset of ids as it says and leaves
heap order behind, and what leaves from the front has the least key of all.  So does sifting the
front after its key has changed, and in particular grown.  A full queue hands the id back.  Taking
ids until none is left sorts them by their keys. -/
theorem least_key_leaves_first (key : TimerId → Ticks) (queue : ScheduledQueue) :
    (∀ id ∈ queue.ids, ∃ rest, queue.remove? key id = some rest ∧
      queue.ids.toList.Perm (id :: rest.ids.toList) ∧ rest.isHeap key = true) ∧
    (∀ id ∉ queue.ids, queue.remove? key id = none ∧ queue.remove key id = queue) ∧
    (∀ id, queue.push? key id = none ↔ queue.heap.capacity.admits queue.size = false) ∧
    (∀ heap : Session.KeyedHeap, heap.queue = queue →
      queue.heap.capacity.admits queue.size = false → ∀ id,
        heap.take (.push id) = (.rejected id, heap)) ∧
    (queue.popFront? key = none ↔ queue.ids = #[]) ∧
    (queue.isHeap key = true →
      (∀ id next, queue.push? key id = some next →
        next.ids.toList.Perm (id :: queue.ids.toList) ∧ next.isHeap key = true) ∧
      (∀ front rest, queue.popFront? key = some (front, rest) →
        queue.ids.toList.Perm (front :: rest.ids.toList) ∧
        (∀ id ∈ queue.ids, key front ≤ key id) ∧ rest.isHeap key = true) ∧
      (∀ front changed, queue.front? = some front → queue.ids.toList.count front = 1 →
        (∀ other ≠ front, changed other = key other) →
        (queue.siftFront changed).ids.toList.Perm queue.ids.toList ∧
        (queue.siftFront changed).isHeap changed = true) ∧
      (popAll key queue).Perm queue.ids.toList ∧
      (popAll key queue).Pairwise fun first second => key first ≤ key second) := by
  refine ⟨?_, ?_, fun id => push?_eq_none_iff, ?_, popFront?_eq_none_iff, ?_⟩
  · intro id queued
    obtain ⟨rest, removed, permuted, _, restored⟩ := remove?_of_mem key queued
    exact ⟨rest, removed, permuted, isHeap_iff.mpr restored⟩
  · intro id absent
    have unchanged : queue.remove? key id = none := remove?_eq_none_iff.mpr absent
    exact ⟨unchanged, by rw [remove, unchanged, Option.getD_none]⟩
  · rintro heap rfl full id
    exact take_push_of_refused (push?_eq_none_iff.mpr full)
  · intro heap
    have ordered := isHeap_iff.mp heap
    refine ⟨?_, ?_, ?_, popAll_perm, popAll_sorted ordered⟩
    · intro id next accepted
      obtain ⟨permuted, _, kept⟩ := of_push? accepted
      exact ⟨permuted, isHeap_iff.mpr (kept ordered)⟩
    · intro front rest popped
      obtain ⟨permuted, keeps⟩ := of_popFront? popped
      obtain ⟨kept, least⟩ := keeps ordered
      exact ⟨permuted, least, isHeap_iff.mpr kept⟩
    · intro front changed in_front once others
      refine ⟨siftFront_perm, isHeap_iff.mpr ?_⟩
      exact ordered.siftFront in_front once fun other _ apart => others other apart

/-- A heap with room for six ids that holds one of them twice. -/
def crowdedHeap : ScheduledQueue :=
  { heap := { capacity := .bounded 6, entries := #[⟨1⟩, ⟨3⟩, ⟨1⟩, ⟨4⟩, ⟨0⟩, ⟨2⟩] } }

/-- Keys of the ids up to four, two of them equal. -/
def tiedKeys (id : TimerId) : Ticks := .clamp (#[30, 10, 20, 30, 50].getD id.index 0)

/-- The crowded heap takes no further id, gives out the least key and sorts itself. -/
theorem crowdedHeap_gives_out_sorted :
    crowdedHeap.isHeap tiedKeys = true ∧ crowdedHeap.push? tiedKeys ⟨0⟩ = none ∧
    (∃ rest, crowdedHeap.popFront? tiedKeys = some (⟨1⟩, rest) ∧
      rest.isHeap tiedKeys = true) ∧
    (popAll tiedKeys crowdedHeap).Perm [⟨1⟩, ⟨3⟩, ⟨1⟩, ⟨4⟩, ⟨0⟩, ⟨2⟩] ∧
    (popAll tiedKeys crowdedHeap).Pairwise fun first second =>
      tiedKeys first ≤ tiedKeys second := by
  have heap : crowdedHeap.isHeap tiedKeys = true := by decide +kernel
  obtain ⟨_, _, refuses, _, _, in_order⟩ := least_key_leaves_first tiedKeys crowdedHeap
  obtain ⟨_, pops, _, permuted, sorted⟩ := in_order heap
  refine ⟨heap, (refuses ⟨0⟩).mpr (by decide +kernel), ?_, permuted, sorted⟩
  have in_front : crowdedHeap.front? = some ⟨1⟩ := rfl
  obtain ⟨rest, popped, _⟩ := popFront?_of_front? tiedKeys in_front
  exact ⟨rest, popped, (pops _ _ popped).2.2⟩

end Reactor.ScheduledQueue
