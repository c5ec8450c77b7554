import Reactor.Proofs.Roster
import Reactor.Timer.ScheduledQueue

/-!
# Heap order

The sifts move an id along one path of the heap.  Each of them keeps the ids and leaves heap order
behind, provided that the id that it moves is the only one out of order.
-/

namespace Reactor.ScheduledQueue

variable {key : TimerId → Ticks} {ids : Array TimerId}

/-! ## Towards the front -/

/-- No id from the parent at `first` on has a lesser key than its parent. -/
def OrderedFrom (key : TimerId → Ticks) (first : Nat) (ids : Array TimerId) : Prop :=
  ∀ child (inside : child < ids.size), 0 < child → first ≤ (child - 1) / 2 →
    key ids[(child - 1) / 2] ≤ key ids[child]

theorem siftUp_perm (child : Nat) (inside : child < ids.size) :
    (siftUp key ids child inside).Perm ids := by
  induction ids, child, inside using siftUp.induct key with
  | case1 ids inside => rw [siftUp]; simp
  | case2 ids child inside root above parent_inside ordered => rw [siftUp]; simp [root, ordered]
  | case3 ids child inside root above parent_inside ordered induction =>
      rw [siftUp]
      simp only [root, dite_false, ordered, if_false]
      exact induction.trans (Array.swap_perm _ _)

theorem siftUp_ordered (child : Nat) (inside : child < ids.size)
    (others : ∀ other (bound : other < ids.size), 0 < other → other ≠ child →
      key ids[(other - 1) / 2] ≤ key ids[other])
    (grand : ∀ other (bound : other < ids.size), 0 < child → (other - 1) / 2 = child →
      key ids[(child - 1) / 2] ≤ key ids[other]) :
    OrderedFrom key 0 (siftUp key ids child inside) := by
  induction ids, child, inside using siftUp.induct key with
  | case1 ids inside =>
      rw [siftUp]
      intro other bound positive _
      exact others other bound positive (by omega)
  | case2 ids child inside root above parent_inside ordered =>
      rw [siftUp]
      simp only [root, dite_false, ordered, if_true]
      intro other bound positive _
      by_cases same : other = child
      · subst same
        exact ordered
      · exact others other bound positive same
  | case3 ids child inside root above parent_inside ordered induction =>
      rw [siftUp]
      simp only [root, dite_false, ordered, if_false]
      apply induction
      · grind [Ticks.le_iff]
      · grind [Ticks.le_iff]

/-! ## Away from the front -/

/-- An id without children stays where it is. -/
theorem siftDown_of_leaf {parent : Nat} (leaf : ¬2 * parent + 1 < ids.size) :
    siftDown key ids parent = ids := by
  rw [siftDown, dif_neg leaf]

/-- An id that comes before its lesser child stays where it is. -/
theorem siftDown_of_le {parent : Nat} {inside : parent < ids.size}
    (left : 2 * parent + 1 < ids.size)
    (child_inside : lesserChild key ids parent left < ids.size)
    (ordered : key ids[parent] ≤ key ids[lesserChild key ids parent left]) :
    siftDown key ids parent = ids := by
  rw [siftDown]
  simp only [left, dite_true, ordered, if_true]

/-- Any other id changes places with its lesser child and goes on from there. -/
theorem siftDown_of_not_le {parent : Nat} {inside : parent < ids.size}
    (left : 2 * parent + 1 < ids.size)
    (child_inside : lesserChild key ids parent left < ids.size)
    (disordered : ¬key ids[parent] ≤ key ids[lesserChild key ids parent left]) :
    siftDown key ids parent =
      siftDown key (ids.swap parent (lesserChild key ids parent left))
        (lesserChild key ids parent left) := by
  rw [siftDown]
  simp only [left, dite_true, disordered, if_false]

theorem siftDown_perm (parent : Nat) : (siftDown key ids parent).Perm ids := by
  induction ids, parent using siftDown.induct key with
  | case1 ids parent left child_inside below ordered =>
      rw [siftDown_of_le left child_inside ordered]
  | case2 ids parent left child_inside below disordered induction =>
      rw [siftDown_of_not_le left child_inside disordered]
      exact induction.trans (Array.swap_perm _ _)
  | case3 ids parent leaf => rw [siftDown_of_leaf leaf]

theorem key_lesserChild_le (parent child : Nat) (left : 2 * parent + 1 < ids.size)
    (chosen : lesserChild key ids parent left < ids.size) (inside : child < ids.size)
    (positive : 0 < child) (child_of : (child - 1) / 2 = parent) :
    key ids[lesserChild key ids parent left] ≤ key ids[child] := by
  have sibling : child = 2 * parent + 1 ∨ child = 2 * parent + 2 := by omega
  grind [lesserChild, Ticks.le_iff, Ticks.lt_iff]

/-- The order that `siftDown` needs: only the id at `parent` may have a greater key than its
children. -/
structure Sinks (key : TimerId → Ticks) (first parent : Nat) (ids : Array TimerId) : Prop where
  /-- Every other parent is in order. -/
  others : ∀ child (inside : child < ids.size), 0 < child → first ≤ (child - 1) / 2 →
    (child - 1) / 2 ≠ parent → key ids[(child - 1) / 2] ≤ key ids[child]
  /-- The children are no less than the parent of `parent`. -/
  grand : ∀ child (inside : child < ids.size) (child_of : (child - 1) / 2 = parent),
    0 < parent → first ≤ (parent - 1) / 2 → key ids[(parent - 1) / 2] ≤ key ids[child]

theorem Sinks.swap {first parent child : Nat} (sinks : Sinks key first parent ids)
    (place : child = 2 * parent + 1 ∨ child = 2 * parent + 2)
    (parent_inside : parent < ids.size) (child_inside : child < ids.size)
    (lesser : ∀ other (inside : other < ids.size), 0 < other → (other - 1) / 2 = parent →
      key ids[child] ≤ key ids[other])
    (disordered : ¬key ids[parent] ≤ key ids[child]) :
    Sinks key first child (ids.swap parent child) := by
  constructor
  · intro other inside positive from_first apart
    simp only [Array.size_swap] at inside
    simp only [Array.getElem_swap, apart, if_false]
    by_cases sibling : (other - 1) / 2 = parent
    · have least := lesser other inside positive sibling
      grind [Ticks.le_iff]
    · have ordered := sinks.others other inside positive from_first sibling
      have grand := sinks.grand child child_inside (by omega)
      grind
  · intro other inside child_of positive from_first
    simp only [Array.size_swap] at inside
    have up : (child - 1) / 2 = parent := by omega
    have ordered := sinks.others other inside (by omega) (by omega) (by omega)
    simp only [Array.getElem_swap, up, if_true]
    simp only [child_of] at ordered
    grind

theorem siftDown_ordered {first parent : Nat} (sinks : Sinks key first parent ids) :
    OrderedFrom key first (siftDown key ids parent) := by
  induction ids, parent using siftDown.induct key with
  | case1 ids parent left child_inside below ordered =>
      rw [siftDown_of_le left child_inside ordered]
      intro other bound positive from_first
      by_cases same : (other - 1) / 2 = parent
      · have lesser : key ids[lesserChild key ids parent left] ≤ key ids[other] :=
          key_lesserChild_le parent other left child_inside bound positive same
        grind [Ticks.le_iff]
      · exact sinks.others other bound positive from_first same
  | case2 ids parent left child_inside below disordered induction =>
      rw [siftDown_of_not_le left child_inside disordered]
      apply induction
      apply sinks.swap
      · have place := lesserChild_eq_or key ids parent left
        omega
      · intro other bound
        exact key_lesserChild_le parent other left child_inside bound
      · exact disordered
  | case3 ids parent leaf =>
      rw [siftDown_of_leaf leaf]
      intro other bound positive from_first
      exact sinks.others other bound positive from_first (by omega)

/-! ## The whole heap -/

theorem siftDownBelow_perm (count : Nat) : (siftDownBelow key count ids).Perm ids := by
  induction count generalizing ids with
  | zero => exact .rfl
  | succ count induction =>
      have below : (siftDownBelow key count (siftDown key ids count)).Perm
          (siftDown key ids count) := induction
      exact below.trans (siftDown_perm count)

theorem siftDownBelow_ordered (count : Nat) (ordered : OrderedFrom key count ids) :
    OrderedFrom key 0 (siftDownBelow key count ids) := by
  induction count generalizing ids with
  | zero => exact ordered
  | succ count induction =>
      apply induction
      apply siftDown_ordered
      constructor
      · intro other bound positive from_first apart
        exact ordered other bound positive (by omega)
      · intro other bound child_of positive from_first
        omega

theorem makeHeap_perm : (makeHeap key ids).Perm ids := siftDownBelow_perm _

theorem makeHeap_ordered : OrderedFrom key 0 (makeHeap key ids) := by
  apply siftDownBelow_ordered
  intro child inside positive from_half
  omega

/-- Other keys that agree on what comes first keep the order. -/
theorem OrderedFrom.of_keys {other : TimerId → Ticks} (ordered : OrderedFrom key 0 ids)
    (keeps : ∀ first ∈ ids, ∀ second ∈ ids, key first ≤ key second → other first ≤ other second) :
    OrderedFrom other 0 ids := by
  intro child inside positive _
  exact keeps _ (Array.getElem_mem _) _ (Array.getElem_mem _)
    (ordered child inside positive (Nat.zero_le _))

/-- The id in front has the least key. -/
theorem OrderedFrom.front_le (ordered : OrderedFrom key 0 ids) (nonempty : 0 < ids.size)
    (place : Nat) (inside : place < ids.size) : key ids[0] ≤ key ids[place] := by
  induction place using Nat.strongRecOn with
  | ind place induction =>
      by_cases root : place = 0
      · simp [root, Ticks.le_iff]
      · have up := induction ((place - 1) / 2) (by omega) (by omega)
        have step := ordered place inside (by omega) (Nat.zero_le _)
        exact Nat.le_trans up step

end Reactor.ScheduledQueue
