import Reactor.Proofs.ScheduledQueue.HeapOrder
import Mathlib.Data.List.Nodup

/-!
# What the scheduled queue holds

Each operation of the queue changes the ids by at most one and leaves heap order behind.  The keys
are those of the caller, so a change of keys is followed through as well.
-/

namespace Reactor.ScheduledQueue

variable {key : TimerId → Ticks} {queue next : ScheduledQueue} {id front : TimerId}

/-- The queue is in heap order. -/
def Ordered (key : TimerId → Ticks) (queue : ScheduledQueue) : Prop := OrderedFrom key 0 queue.ids

/-- The order that the queue can check of itself is heap order. -/
theorem isHeap_iff : queue.isHeap key = true ↔ queue.Ordered key := by
  simp only [isHeap, size, List.all_eq_true, List.mem_range, Ordered, OrderedFrom]
  constructor
  · intro holds child inside positive _
    have parent_inside : (child - 1) / 2 < queue.ids.size := by omega
    have pair := holds child inside
    simp only [Array.getElem?_eq_getElem parent_inside, Array.getElem?_eq_getElem inside,
      Bool.or_eq_true, beq_iff_eq, decide_eq_true_eq] at pair
    rcases pair with root | ordered
    · omega
    · exact ordered
  · intro ordered child inside
    have parent_inside : (child - 1) / 2 < queue.ids.size := by omega
    simp only [Array.getElem?_eq_getElem parent_inside, Array.getElem?_eq_getElem inside,
      Bool.or_eq_true, beq_iff_eq, decide_eq_true_eq]
    by_cases root : child = 0
    · exact Or.inl root
    · exact Or.inr (ordered child inside (by omega) (Nat.zero_le _))

@[simp]
theorem ids_withIds (ids : Array TimerId) : (queue.withIds ids).ids = ids := rfl

/-- The id in front comes before every queued id. -/
theorem Ordered.front_le (ordered : queue.Ordered key) (in_front : queue.front? = some front)
    (queued : id ∈ queue.ids) : key front ≤ key id := by
  obtain ⟨nonempty, rfl⟩ := Array.getElem?_eq_some_iff.mp in_front
  obtain ⟨place, inside, rfl⟩ := Array.mem_iff_getElem.mp queued
  exact OrderedFrom.front_le ordered nonempty place inside

theorem mem_of_front? (in_front : queue.front? = some front) : front ∈ queue.ids :=
  Array.mem_of_getElem? in_front

theorem front?_eq_none_iff : queue.front? = none ↔ queue.ids = #[] := by
  simp [front?]

/-! ## Inserting -/

theorem push?_eq_none_iff :
    queue.push? key id = none ↔ queue.heap.capacity.admits queue.size = false := by
  rw [push?, Option.map_eq_none_iff, Roster.push?_eq_none_iff]
  rfl

/-- An accepted id joins the others, and the queue keeps its order. -/
theorem of_push? (accepted : queue.push? key id = some next) :
    next.ids.toList.Perm (id :: queue.ids.toList) ∧
      next.heap.capacity = queue.heap.capacity ∧ (queue.Ordered key → next.Ordered key) := by
  simp only [push?, Roster.push?] at accepted
  split at accepted
  case isFalse => simp at accepted
  case isTrue =>
    simp only [Option.map_some, Array.size_push, Nat.add_sub_cancel, Nat.lt_add_one, dite_true,
      Option.some.injEq] at accepted
    subst accepted
    refine ⟨?_, rfl, ?_⟩
    · rw [ids_withIds]
      refine (Array.perm_iff_toList_perm.mp (siftUp_perm _ _)).trans ?_
      rw [Array.toList_push]
      exact List.perm_append_singleton _ _
    · intro ordered
      apply siftUp_ordered
      · intro child inside positive apart
        have earlier : child < queue.ids.size := by
          simp only [Array.size_push, ids] at inside apart ⊢
          omega
        have pair := ordered child earlier positive (Nat.zero_le _)
        have parent_earlier : (child - 1) / 2 < queue.ids.size := by omega
        simp only [ids] at earlier parent_earlier pair
        simpa [Array.getElem_push_lt, earlier, parent_earlier] using pair
      · intro child inside positive child_of
        simp only [Array.size_push] at inside
        omega

/-! ## Removing -/

/-- The front id leaves, the others stay, and the queue keeps its order. -/
theorem popFront?_of_front? (key : TimerId → Ticks) (in_front : queue.front? = some front) :
    ∃ rest, queue.popFront? key = some (front, rest) ∧
      queue.ids.toList.Perm (front :: rest.ids.toList) ∧
      rest.heap.capacity = queue.heap.capacity ∧ (queue.Ordered key → rest.Ordered key) := by
  obtain ⟨nonempty, at_front⟩ := Array.getElem?_eq_some_iff.mp in_front
  refine ⟨queue.withIds (siftDown key (queue.ids.swapIfInBounds 0 (queue.size - 1)).pop 0),
    ?_, ?_, rfl, ?_⟩
  · rw [popFront?, in_front]
    rfl
  · rw [ids_withIds, ← at_front]
    refine (Roster.perm_swap_pop 0 nonempty).trans (List.Perm.cons _ ?_)
    exact (Array.perm_iff_toList_perm.mp (siftDown_perm 0)).symm
  · intro ordered
    apply siftDown_ordered
    rw [size, Roster.swapIfInBounds_last 0 nonempty]
    constructor
    · intro child inside positive _ apart
      simp only [Array.size_pop, Array.size_swap] at inside
      have pair := ordered child (by omega) positive (Nat.zero_le _)
      have child_kept : child ≠ 0 ∧ child ≠ queue.ids.size - 1 := by omega
      have parent_kept : (child - 1) / 2 ≠ queue.ids.size - 1 := by omega
      simpa [Array.getElem_swap, child_kept, parent_kept, apart] using pair
    · intro child inside child_of positive
      omega

/-- A queued id has a place, from which it leaves: the last id takes that place, and the heap is made
anew. -/
theorem exists_place_of_mem (key : TimerId → Ticks) (queued : id ∈ queue.ids) :
    ∃ place, ∃ inside : place < queue.ids.size, queue.ids[place] = id ∧
      queue.remove? key id = some (queue.withIds
        (makeHeap key (queue.ids.swapIfInBounds place (queue.ids.size - 1)).pop)) := by
  obtain ⟨first, bound, same_first⟩ := Array.mem_iff_getElem.mp queued
  obtain ⟨place, found⟩ : ∃ place, queue.ids.findIdx? (· == id) = some place := by
    rw [← Option.isSome_iff_exists, Array.findIdx?_isSome]
    simpa using ⟨first, bound, same_first⟩
  obtain ⟨inside, same, _⟩ := Array.findIdx?_eq_some_iff_getElem.mp found
  have at_place : queue.ids[place] = id := by simpa using same
  have entry : queue.heap.entries[place]? = some id := by
    rw [Array.getElem?_eq_some_iff]
    exact ⟨inside, at_place⟩
  refine ⟨place, inside, at_place, ?_⟩
  simp only [remove?, found, Roster.swapRemove?]
  simp only [Option.bind_eq_bind, Option.bind_some, entry]
  rfl

/-- A queued id leaves, the others stay, and the queue is in order whatever it was before. -/
theorem remove?_of_mem (key : TimerId → Ticks) (queued : id ∈ queue.ids) :
    ∃ rest, queue.remove? key id = some rest ∧
      queue.ids.toList.Perm (id :: rest.ids.toList) ∧
      rest.heap.capacity = queue.heap.capacity ∧ rest.Ordered key := by
  obtain ⟨place, inside, at_place, removed⟩ := exists_place_of_mem key queued
  refine ⟨_, removed, ?_, rfl, makeHeap_ordered⟩
  rw [ids_withIds]
  refine (Roster.perm_swap_pop place inside).trans ?_
  rw [at_place]
  exact List.Perm.cons _ (Array.perm_iff_toList_perm.mp makeHeap_perm).symm

theorem remove?_eq_none_iff : queue.remove? key id = none ↔ id ∉ queue.ids := by
  constructor
  · intro refused queued
    obtain ⟨rest, removed, _⟩ := remove?_of_mem key queued
    rw [refused] at removed
    cases removed
  · intro absent
    have unseen : queue.ids.findIdx? (· == id) = none := by
      rw [Array.findIdx?_eq_none_iff]
      intro other queued
      simp only [beq_eq_false_iff_ne]
      rintro rfl
      exact absent queued
    simp [remove?, unseen]

/-- The id is gone and the others stay. -/
theorem remove_perm : (queue.remove key id).ids.toList.Perm (queue.ids.toList.erase id) := by
  by_cases queued : id ∈ queue.ids
  · obtain ⟨rest, removed, permuted, _⟩ := remove?_of_mem key queued
    rw [remove, removed, Option.getD_some]
    simpa using (permuted.erase id).symm
  · rw [remove, remove?_eq_none_iff.mpr queued, Option.getD_none,
      List.erase_of_not_mem (by simpa using queued)]

@[simp]
theorem capacity_remove : (queue.remove key id).heap.capacity = queue.heap.capacity := by
  by_cases queued : id ∈ queue.ids
  · obtain ⟨rest, removed, _, room, _⟩ := remove?_of_mem key queued
    rw [remove, removed, Option.getD_some]
    exact room
  · rw [remove, remove?_eq_none_iff.mpr queued, Option.getD_none]

theorem Ordered.remove (ordered : queue.Ordered key) : (queue.remove key id).Ordered key := by
  by_cases queued : id ∈ queue.ids
  · obtain ⟨rest, removed, _, _, restored⟩ := remove?_of_mem key queued
    rw [ScheduledQueue.remove, removed, Option.getD_some]
    exact restored
  · rw [ScheduledQueue.remove, remove?_eq_none_iff.mpr queued, Option.getD_none]
    exact ordered

/-! ## Changing keys -/

theorem siftFront_perm : (queue.siftFront key).ids.toList.Perm queue.ids.toList :=
  Array.perm_iff_toList_perm.mp (siftDown_perm 0)

/-- The key of the front id alone may have changed, if it is queued once. -/
theorem Ordered.siftFront {old : TimerId → Ticks} (ordered : queue.Ordered old)
    (in_front : queue.front? = some front) (once : queue.ids.toList.count front = 1)
    (others : ∀ other ∈ queue.ids, other ≠ front → key other = old other) :
    (queue.siftFront key).Ordered key := by
  obtain ⟨nonempty, at_front⟩ := Array.getElem?_eq_some_iff.mp in_front
  have elsewhere : ∀ place (inside : place < queue.ids.size), 0 < place →
      key queue.ids[place] = old queue.ids[place] := by
    intro place inside positive
    apply others _ (Array.getElem_mem _)
    intro same
    have inside_list : place < queue.ids.toList.length := by simpa using inside
    have again : queue.ids.toList[place] = front := by simpa using same
    cases listed : queue.ids.toList with
    | nil =>
        rw [listed] at inside_list
        exact absurd inside_list (Nat.not_lt_zero place)
    | cons head tail =>
        have head_eq : head = front := by
          rw [← at_front, ← Array.getElem_toList]
          simp [listed]
        obtain ⟨earlier, rfl⟩ := Nat.exists_eq_add_of_lt positive
        have in_tail : front ∈ tail := by
          rw [← again]
          simp [listed]
        rw [listed, head_eq, List.count_cons_self] at once
        have counted := List.count_pos_iff.mpr in_tail
        omega
  apply siftDown_ordered
  constructor
  · intro child inside positive _ apart
    rw [elsewhere child inside positive, elsewhere ((child - 1) / 2) (by omega) (by omega)]
    exact ordered child inside positive (Nat.zero_le _)
  · intro child inside child_of positive
    omega

theorem Ordered.of_keys {other : TimerId → Ticks} (ordered : queue.Ordered key)
    (keeps : ∀ first ∈ queue.ids, ∀ second ∈ queue.ids, key first ≤ key second →
      other first ≤ other second) : queue.Ordered other :=
  OrderedFrom.of_keys ordered keeps

end Reactor.ScheduledQueue
