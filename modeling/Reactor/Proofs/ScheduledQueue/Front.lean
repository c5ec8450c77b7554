import Reactor.Proofs.ScheduledQueue.Contents

/-!
# The front of the scheduled queue

A removal moves the last id into the gap and makes the heap anew.  The id in front keeps its place
all the same, also among ids with equal keys: it does not sink past a key that is no less than its
own, and no sift that starts further down comes back to the front.
-/

namespace Reactor.ScheduledQueue

variable {key : TimerId → Ticks} {ids : Array TimerId} {queue : ScheduledQueue}
  {id front : TimerId}

/-- The first id has the least key of all. -/
def FrontLeast (key : TimerId → Ticks) (ids : Array TimerId) : Prop :=
  ∀ first, ids[0]? = some first → ∀ id ∈ ids, key first ≤ key id

/-- Moving the other ids around leaves the first one with the least key. -/
theorem FrontLeast.of_perm {other : Array TimerId} (least : FrontLeast key ids)
    (permuted : other.Perm ids) (same : other[0]? = ids[0]?) : FrontLeast key other := by
  intro first in_front id member
  rw [same] at in_front
  exact least first in_front id (permuted.mem_iff.mp member)

/-- A sift leaves the first id where it is, if that has the least key. -/
theorem siftDown_front (least : FrontLeast key ids) (parent : Nat) :
    (siftDown key ids parent)[0]? = ids[0]? := by
  induction ids, parent using siftDown.induct key with
  | case1 ids parent left child_inside below ordered =>
      rw [siftDown_of_le left child_inside ordered]
  | case2 ids parent left child_inside below disordered induction =>
      have nonempty : 0 < ids.size := by omega
      -- A sift from the front would have ended at once.
      have behind : parent ≠ 0 := by
        rintro rfl
        exact disordered (least ids[0] (Array.getElem?_eq_getElem nonempty) _
          (Array.getElem_mem child_inside))
      have kept : (ids.swap parent (lesserChild key ids parent left))[0]? = ids[0]? := by
        rw [Array.getElem?_swap, if_neg (by omega), if_neg (by omega)]
      rw [siftDown_of_not_le left child_inside disordered,
        induction (least.of_perm (Array.swap_perm _ _) kept), kept]
  | case3 ids parent leaf => rw [siftDown_of_leaf leaf]

theorem siftDownBelow_front (least : FrontLeast key ids) (count : Nat) :
    (siftDownBelow key count ids)[0]? = ids[0]? := by
  induction count generalizing ids with
  | zero => rfl
  | succ count induction =>
      have kept := siftDown_front least count
      rw [siftDownBelow, induction (least.of_perm (siftDown_perm count) kept), kept]

/-- Making a heap leaves the first id where it is, if that has the least key. -/
theorem makeHeap_front (least : FrontLeast key ids) : (makeHeap key ids)[0]? = ids[0]? :=
  siftDownBelow_front least _

/-- Another id leaves, and the id in front stays in front. -/
theorem Ordered.front?_remove (ordered : queue.Ordered key)
    (in_front : queue.front? = some front) (apart : id ≠ front) :
    (queue.remove key id).front? = some front := by
  obtain ⟨nonempty, at_front⟩ := Array.getElem?_eq_some_iff.mp in_front
  by_cases queued : id ∈ queue.ids
  · obtain ⟨place, inside, at_place, removed⟩ := exists_place_of_mem key queued
    have behind : 0 < place := by
      apply Nat.pos_of_ne_zero
      rintro rfl
      exact apart (at_place.symm.trans at_front)
    rw [ScheduledQueue.remove, removed, Option.getD_some, front?, ids_withIds]
    -- The front is not the last id, so it is not what fills the gap.
    have kept : (queue.ids.swapIfInBounds place (queue.ids.size - 1)).pop[0]? = some front := by
      have left : 0 < queue.ids.size - 1 := by omega
      rw [Roster.swapIfInBounds_last place inside, Array.getElem?_pop, Array.size_swap,
        if_pos left, Array.getElem?_swap, if_neg (by omega), if_neg (by omega)]
      exact in_front
    rw [makeHeap_front, kept]
    intro first first_kept other left
    rw [kept, Option.some.injEq] at first_kept
    have permuted := Roster.perm_swap_pop place inside
    rw [← first_kept]
    apply ordered.front_le in_front
    rw [← Array.mem_toList_iff, permuted.mem_iff]
    exact List.mem_cons_of_mem _ (Array.mem_toList_iff.mpr left)
  · rw [ScheduledQueue.remove, remove?_eq_none_iff.mpr queued, Option.getD_none, in_front]

end Reactor.ScheduledQueue
