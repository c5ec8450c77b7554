import Reactor.Proofs.ScheduledQueue.Front
import Mathlib.Logic.Equiv.Basic
import Mathlib.Tactic.Ring

/-!
# Mending a heap

A sift away from the front mends the heap below one place: if the subtrees of the two children are
in order, so is the whole subtree afterwards, and nothing outside it has moved.  Places without
children are in order by themselves, so mending every inner place, the last one first, makes a heap
of any array.
-/

namespace Reactor.ScheduledQueue

variable {key : TimerId → Ticks} {ids next : Array TimerId} {root first second place child : Nat}

/-! ## Subtrees -/

/-- The places of the subtree under a root, the root among them. -/
inductive InSubtree (root : Nat) : Nat → Prop where
  /-- The root. -/
  | root : InSubtree root root
  /-- A place whose parent is in the subtree. -/
  | child {place : Nat} (positive : 0 < place) (above : InSubtree root ((place - 1) / 2)) :
      InSubtree root place

theorem InSubtree.le (under : InSubtree root place) : root ≤ place := by
  induction under with
  | root => exact Nat.le_refl root
  | child => omega

theorem InSubtree.trans (outer : InSubtree first second) (inner : InSubtree second place) :
    InSubtree first place := by
  induction inner with
  | root => exact outer
  | child positive _ above => exact .child positive above

/-- A place in a subtree is its root or in the subtree of a child. -/
theorem InSubtree.eq_or_under_child (under : InSubtree root place) :
    place = root ∨ ∃ child, 0 < child ∧ (child - 1) / 2 = root ∧ InSubtree child place := by
  induction under with
  | root => exact Or.inl rfl
  | @child place positive _ induction =>
      right
      rcases induction with at_root | ⟨child, child_positive, child_of, under⟩
      · exact ⟨place, positive, at_root, .root⟩
      · exact ⟨child, child_positive, child_of, .child positive under⟩

/-- Of two subtrees with a place in common, the later one is part of the other. -/
theorem InSubtree.of_common (one : InSubtree first place) (other : InSubtree second place)
    (earlier : first ≤ second) : InSubtree first second := by
  induction other with
  | root => exact one
  | child positive above induction =>
      have bound := above.le
      cases one with
      | root => omega
      | child _ under => exact induction under

/-- The subtrees of siblings have no place in common. -/
theorem InSubtree.not_of_sibling (siblings : (first - 1) / 2 = (second - 1) / 2)
    (positive : 0 < first) (other_positive : 0 < second) (apart : first ≠ second)
    (one : InSubtree first place) : ¬InSubtree second place := by
  have never : ∀ {earlier later : Nat}, (earlier - 1) / 2 = (later - 1) / 2 → 0 < earlier →
      earlier < later → ¬InSubtree earlier later := by
    intro earlier later siblings positive before under
    cases under with
    | root => omega
    | child _ above =>
        have bound := above.le
        omega
  intro other
  rcases Nat.lt_or_gt_of_ne apart with before | after
  · exact never siblings positive before (one.of_common other (Nat.le_of_lt before))
  · exact never siblings.symm other_positive after (other.of_common one (Nat.le_of_lt after))

/-! ## Order in a subtree -/

/-- No id in the subtree under `root` has a lesser key than its parent there. -/
def SubtreeOrdered (key : TimerId → Ticks) (root : Nat) (ids : Array TimerId) : Prop :=
  ∀ parent child (parent_inside : parent < ids.size) (inside : child < ids.size), 0 < child →
    (child - 1) / 2 = parent → InSubtree root parent → key ids[parent] ≤ key ids[child]

theorem SubtreeOrdered.of_inSubtree (ordered : SubtreeOrdered key first ids)
    (under : InSubtree first second) : SubtreeOrdered key second ids :=
  fun parent child parent_inside inside positive child_of above =>
    ordered parent child parent_inside inside positive child_of (under.trans above)

/-- Order in a subtree is a matter of the ids in it. -/
theorem SubtreeOrdered.congr (ordered : SubtreeOrdered key root ids)
    (same : ∀ place, InSubtree root place → next[place]? = ids[place]?) :
    SubtreeOrdered key root next := by
  intro parent child parent_inside inside positive child_of above
  have kept : ∀ place (bound : place < next.size), InSubtree root place →
      ∃ was_inside : place < ids.size, ids[place] = next[place] := by
    intro place bound under
    rw [← Array.getElem?_eq_some_iff, ← same place under, Array.getElem?_eq_getElem bound]
  obtain ⟨parent_was_inside, parent_eq⟩ := kept parent parent_inside above
  obtain ⟨was_inside, child_eq⟩ := kept child inside (.child positive (by rwa [child_of]))
  rw [← child_eq, ← parent_eq]
  exact ordered parent child parent_was_inside was_inside positive child_of above

/-- A subtree is in order if those of the children are and the root comes before its children. -/
theorem SubtreeOrdered.of_children
    (below : ∀ child, 0 < child → (child - 1) / 2 = root → SubtreeOrdered key child ids)
    (least : ∀ child (root_inside : root < ids.size) (inside : child < ids.size), 0 < child →
      (child - 1) / 2 = root → key ids[root] ≤ key ids[child]) :
    SubtreeOrdered key root ids := by
  intro parent place parent_inside inside positive place_of above
  rcases above.eq_or_under_child with rfl | ⟨child, child_positive, child_of, under⟩
  · exact least place parent_inside inside positive place_of
  · exact below child child_positive child_of parent place parent_inside inside positive place_of
      under

/-- The root of a subtree in order has the least key there. -/
theorem SubtreeOrdered.root_le (ordered : SubtreeOrdered key root ids)
    (under : InSubtree root place) (root_inside : root < ids.size) (inside : place < ids.size) :
    key ids[root] ≤ key ids[place] := by
  induction under with
  | root => exact Nat.le_refl _
  | @child place positive above induction =>
      have parent_inside : (place - 1) / 2 < ids.size := by omega
      exact Nat.le_trans (induction parent_inside)
        (ordered _ _ parent_inside inside positive rfl above)

/-! ## What a sift moves -/

/-- The ids in the subtree under `root` have changed places, and no others. -/
def RearrangedUnder (root : Nat) (ids next : Array TimerId) : Prop :=
  ∃ origin : Equiv.Perm Nat, (∀ place, ¬InSubtree root place → origin place = place) ∧
    ∀ place, next[place]? = ids[origin place]?

theorem RearrangedUnder.refl (root : Nat) (ids : Array TimerId) : RearrangedUnder root ids ids :=
  ⟨.refl Nat, fun _ _ => rfl, fun _ => rfl⟩

theorem RearrangedUnder.eq_outside (rearranged : RearrangedUnder root ids next)
    (outside : ¬InSubtree root place) : next[place]? = ids[place]? := by
  obtain ⟨origin, stays, moved⟩ := rearranged
  rw [moved, stays place outside]

/-- What is in the subtree afterwards was in it before. -/
theorem RearrangedUnder.exists_origin (rearranged : RearrangedUnder root ids next)
    (under : InSubtree root place) :
    ∃ old, InSubtree root old ∧ next[place]? = ids[old]? := by
  obtain ⟨origin, stays, moved⟩ := rearranged
  refine ⟨origin place, ?_, moved place⟩
  by_contra outside
  have back : origin place = place := origin.injective (stays _ outside)
  rw [back] at outside
  exact outside under

/-- After two ids have changed places, each stands where the other stood. -/
theorem getElem?_swap_eq (first_inside : first < ids.size) (second_inside : second < ids.size)
    (place : Nat) :
    (ids.swap first second)[place]? = ids[Equiv.swap first second place]? := by
  rw [Equiv.swap_apply_def, Array.getElem?_swap]
  by_cases at_second : second = place
  · subst at_second
    by_cases same : second = first
    · simp [same]
    · simp [same, first_inside]
  · by_cases at_first : first = place
    · subst at_first
      simp [at_second, second_inside]
    · rw [if_neg at_second, if_neg at_first, if_neg (Ne.symm at_first), if_neg (Ne.symm at_second)]

/-- First two ids change places, then those under the lower of them. -/
theorem RearrangedUnder.of_swap (under : InSubtree first second)
    (first_inside : first < ids.size) (second_inside : second < ids.size)
    (rearranged : RearrangedUnder second (ids.swap first second) next) :
    RearrangedUnder first ids next := by
  obtain ⟨origin, stays, moved⟩ := rearranged
  refine ⟨origin.trans (Equiv.swap first second), ?_, ?_⟩
  · intro place outside
    have outside_second : ¬InSubtree second place := fun inner => outside (under.trans inner)
    have not_first : place ≠ first := by
      rintro rfl
      exact outside .root
    have not_second : place ≠ second := by
      rintro rfl
      exact outside under
    rw [Equiv.trans_apply, stays place outside_second,
      Equiv.swap_apply_of_ne_of_ne not_first not_second]
  · intro place
    rw [moved, Equiv.trans_apply, getElem?_swap_eq first_inside second_inside]

/-- The lesser child is a child. -/
theorem lesserChild_child_of (key : TimerId → Ticks) (ids : Array TimerId) (parent : Nat)
    (left : 2 * parent + 1 < ids.size) :
    0 < lesserChild key ids parent left ∧ (lesserChild key ids parent left - 1) / 2 = parent := by
  rcases lesserChild_eq_or key ids parent left with place | ⟨place, _⟩ <;> omega

theorem inSubtree_lesserChild (parent : Nat) (left : 2 * parent + 1 < ids.size) :
    InSubtree parent (lesserChild key ids parent left) := by
  obtain ⟨positive, child_of⟩ := lesserChild_child_of key ids parent left
  refine .child positive ?_
  rw [child_of]
  exact .root

/-- A sift moves ids in the subtree of the place where it starts, and no others. -/
theorem siftDown_rearranged (parent : Nat) :
    RearrangedUnder parent ids (siftDown key ids parent) := by
  induction ids, parent using siftDown.induct key with
  | case1 ids parent left child_inside below ordered =>
      rw [siftDown_of_le left child_inside ordered]
      exact .refl parent ids
  | case2 ids parent left child_inside below disordered induction =>
      rw [siftDown_of_not_le left child_inside disordered]
      exact induction.of_swap (inSubtree_lesserChild parent left) (by omega) child_inside
  | case3 ids parent leaf =>
      rw [siftDown_of_leaf leaf]
      exact .refl parent ids

/-! ## What a sift mends -/

/-- Once the root has changed places with its least child and the subtree of that child has been
mended, the whole subtree is in order. -/
theorem SubtreeOrdered.of_swap {least : Nat} (positive : 0 < least)
    (child_of : (least - 1) / 2 = root) (least_inside : least < ids.size)
    (root_inside : root < ids.size)
    (below : ∀ child, 0 < child → (child - 1) / 2 = root → SubtreeOrdered key child ids)
    (before_root : key ids[least] ≤ key ids[root])
    (before_children : ∀ child (inside : child < ids.size), 0 < child → (child - 1) / 2 = root →
      key ids[least] ≤ key ids[child])
    (rearranged : RearrangedUnder least (ids.swap root least) next)
    (mended : SubtreeOrdered key least next) : SubtreeOrdered key root next := by
  have least_below_root : ∀ place, InSubtree least place → root < place := by
    intro place under
    have bound := under.le
    omega
  have risen : next[root]? = some ids[least] := by
    rw [rearranged.eq_outside fun under => Nat.lt_irrefl _ (least_below_root _ under),
      Array.getElem?_swap, if_neg (by omega), if_pos rfl]
  -- What has risen to the root comes before the old root and all that was under `least`.
  have before_mended : ∀ place, InSubtree least place → ∀ id, next[place]? = some id →
      key ids[least] ≤ key id := by
    intro place under id found
    obtain ⟨old, old_under, moved⟩ := rearranged.exists_origin under
    have apart := least_below_root old old_under
    rw [moved, Array.getElem?_swap] at found
    split at found
    · cases found
      exact before_root
    · rw [if_neg (by omega), Array.getElem?_eq_some_iff] at found
      obtain ⟨old_inside, rfl⟩ := found
      exact (below least positive child_of).root_le old_under least_inside old_inside
  -- The subtrees of the other children have not been touched.
  have untouched : ∀ child, 0 < child → (child - 1) / 2 = root → child ≠ least →
      ∀ place, InSubtree child place → next[place]? = ids[place]? := by
    intro child child_positive sibling apart place under
    have outside : ¬InSubtree least place :=
      under.not_of_sibling (sibling.trans child_of.symm) child_positive positive apart
    have not_least : least ≠ place := by
      rintro rfl
      exact outside .root
    have bound := under.le
    rw [rearranged.eq_outside outside, Array.getElem?_swap, if_neg not_least, if_neg (by omega)]
  apply SubtreeOrdered.of_children
  · intro child child_positive sibling
    by_cases same : child = least
    · rw [same]
      exact mended
    · exact (below child child_positive sibling).congr (untouched child child_positive sibling same)
  · intro child _ inside child_positive sibling
    obtain ⟨_, at_root⟩ := Array.getElem?_eq_some_iff.mp risen
    rw [at_root]
    by_cases same : child = least
    · exact before_mended child (same ▸ .root) _ (Array.getElem?_eq_getElem inside)
    · have kept := untouched child child_positive sibling same child .root
      rw [Array.getElem?_eq_getElem inside, eq_comm, Array.getElem?_eq_some_iff] at kept
      obtain ⟨was_inside, child_eq⟩ := kept
      rw [← child_eq]
      exact before_children child was_inside child_positive sibling

theorem siftDown_mends (parent : Nat)
    (below : ∀ child, 0 < child → (child - 1) / 2 = parent → SubtreeOrdered key child ids) :
    SubtreeOrdered key parent (siftDown key ids parent) := by
  induction ids, parent using siftDown.induct key with
  | case1 ids parent left child_inside _ ordered =>
      rw [siftDown_of_le left child_inside ordered]
      apply SubtreeOrdered.of_children below
      intro child _ inside positive child_of
      exact Nat.le_trans ordered
        (key_lesserChild_le parent child left child_inside inside positive child_of)
  | case2 ids parent left child_inside deeper disordered induction =>
      rw [siftDown_of_not_le left child_inside disordered]
      obtain ⟨positive, child_of⟩ := lesserChild_child_of key ids parent left
      have lesser : key ids[lesserChild key ids parent left] ≤ key ids[parent] :=
        Nat.le_of_not_le disordered
      refine .of_swap positive child_of child_inside (by omega) below lesser
        (fun child => key_lesserChild_le parent child left child_inside)
        (siftDown_rearranged _) (induction ?_)
      intro grandchild grand_positive grand_child_of
      have under : InSubtree (lesserChild key ids parent left) grandchild := by
        refine .child grand_positive ?_
        rw [grand_child_of]
        exact .root
      refine ((below _ positive child_of).of_inSubtree under).congr ?_
      intro place inner
      have bound := inner.le
      rw [Array.getElem?_swap, if_neg (by omega), if_neg (by omega)]
  | case3 ids parent leaf =>
      rw [siftDown_of_leaf leaf]
      apply SubtreeOrdered.of_children below
      intro child _ inside positive child_of
      omega

/-- An id that comes before its children stays where it is. -/
theorem siftDown_of_least (parent : Nat)
    (least : ∀ child (parent_inside : parent < ids.size) (inside : child < ids.size), 0 < child →
      (child - 1) / 2 = parent → key ids[parent] ≤ key ids[child]) :
    siftDown key ids parent = ids := by
  by_cases left : 2 * parent + 1 < ids.size
  · obtain ⟨positive, child_of⟩ := lesserChild_child_of key ids parent left
    have chosen := lesserChild_lt_size key ids parent left
    exact siftDown_of_le left chosen (least _ (by omega) chosen positive child_of)
  · exact siftDown_of_leaf left

/-! ## How long a sift takes -/

/-- One turn of a sift: the id at a place changes places with its lesser child, unless it comes
before its children. -/
def sinkTurn? (key : TimerId → Ticks) : Nat × Array TimerId → Option (Nat × Array TimerId)
  | (parent, ids) =>
      if left : 2 * parent + 1 < ids.size then
        have chosen := lesserChild_lt_size key ids parent left
        if key ids[parent] ≤ key ids[lesserChild key ids parent left] then none
        else
          some (lesserChild key ids parent left,
            ids.swap parent (lesserChild key ids parent left))
      else none

/-- A number of turns, one after the other, if there are as many. -/
def sinkTurns (key : TimerId → Ticks) :
    Nat → Nat × Array TimerId → Option (Nat × Array TimerId)
  | 0, state => some state
  | turns + 1, state => (sinkTurn? key state).bind (sinkTurns key turns)

/-- A sift comes to an end, and its turns at least double the place every time. -/
theorem siftDown_eq_turns (parent : Nat) :
    ∃ turns last, sinkTurns key turns (parent, ids) = some (last, siftDown key ids parent) ∧
      sinkTurn? key (last, siftDown key ids parent) = none ∧
      (parent < ids.size → (parent + 1) * 2 ^ turns ≤ ids.size) := by
  induction ids, parent using siftDown.induct key with
  | case1 ids parent left child_inside below ordered =>
      have stays := siftDown_of_le left child_inside ordered
      refine ⟨0, parent, by rw [stays, sinkTurns], ?_, by omega⟩
      rw [stays]
      simp only [sinkTurn?, left, dite_true, ordered, if_true]
  | case2 ids parent left child_inside below disordered induction =>
      have sinks := siftDown_of_not_le left child_inside disordered
      obtain ⟨turns, last, came, ends, short⟩ := induction
      refine ⟨turns + 1, last, ?_, ?_, ?_⟩
      · rw [sinks, sinkTurns]
        simp only [sinkTurn?, left, dite_true, disordered, if_false, Option.bind_some]
        exact came
      · rw [sinks]
        exact ends
      · intro _
        rw [Array.size_swap] at short
        have deeper : 2 * (parent + 1) ≤ lesserChild key ids parent left + 1 := by
          rcases lesserChild_eq_or key ids parent left with place | ⟨place, _⟩ <;> omega
        calc (parent + 1) * 2 ^ (turns + 1) = 2 * (parent + 1) * 2 ^ turns := by ring
          _ ≤ (lesserChild key ids parent left + 1) * 2 ^ turns :=
            Nat.mul_le_mul_right _ deeper
          _ ≤ ids.size := short child_inside
  | case3 ids parent leaf =>
      have stays : siftDown key ids parent = ids := siftDown_of_leaf leaf
      refine ⟨0, parent, by rw [stays, sinkTurns], ?_, by omega⟩
      rw [stays]
      simp only [sinkTurn?, leaf, dite_false]

/-- If the subtrees of the children of a place are in order, a sift from that place comes to an end
within a number of turns that is logarithmic in the size, moves nothing outside the subtree of the
place, and leaves that subtree in order; if the id there comes before its children already, the sift
changes nothing.  Hence any array whatsoever can be made a heap of the same ids, and the first of
them stays in front if it has the least key. -/
theorem mends_subtrees_and_heaps (key : TimerId → Ticks) (ids : Array TimerId) :
    (∀ root, SubtreeOrdered key (2 * root + 1) ids → SubtreeOrdered key (2 * root + 2) ids →
      (∃ turns last, sinkTurns key turns (root, ids) = some (last, siftDown key ids root) ∧
        sinkTurn? key (last, siftDown key ids root) = none ∧
        (root < ids.size → (root + 1) * 2 ^ turns ≤ ids.size)) ∧
      RearrangedUnder root ids (siftDown key ids root) ∧
      SubtreeOrdered key root (siftDown key ids root) ∧
      ((∀ child (root_inside : root < ids.size) (inside : child < ids.size), 0 < child →
        (child - 1) / 2 = root → key ids[root] ≤ key ids[child]) → siftDown key ids root = ids)) ∧
    (makeHeap key ids).Perm ids ∧ OrderedFrom key 0 (makeHeap key ids) ∧
    ∀ first, ids[0]? = some first → (∀ id ∈ ids, key first ≤ key id) →
      (makeHeap key ids)[0]? = some first := by
  refine ⟨?_, makeHeap_perm, makeHeap_ordered, ?_⟩
  · intro root left right
    have below : ∀ child, 0 < child → (child - 1) / 2 = root → SubtreeOrdered key child ids := by
      intro child positive child_of
      obtain rfl | rfl : child = 2 * root + 1 ∨ child = 2 * root + 2 := by omega
      · exact left
      · exact right
    exact ⟨siftDown_eq_turns root, siftDown_rearranged root, siftDown_mends root below,
      siftDown_of_least root⟩
  · intro first in_front least
    rw [makeHeap_front, in_front]
    intro other also_in_front
    rw [in_front, Option.some.injEq] at also_in_front
    rwa [← also_in_front]

/-- A key that grows with the index. -/
def indexKey (id : TimerId) : Ticks := .clamp id.index

/-- Ids that are in order from the second level of the heap on; the last of those that have a child
has one only. -/
def unsettledIds : Array TimerId :=
  #[⟨9⟩, ⟨5⟩, ⟨0⟩, ⟨1⟩, ⟨2⟩, ⟨8⟩, ⟨7⟩, ⟨3⟩, ⟨4⟩, ⟨6⟩]

/-- The left subtree is mended in two turns and the right one needs no mending.  The front, which
neither touches, is put right when a heap is made; a front with the least key stays. -/
theorem mends_unsettled_subtree :
    SubtreeOrdered indexKey 3 unsettledIds ∧ SubtreeOrdered indexKey 4 unsettledIds ∧
    siftDown indexKey unsettledIds 1 =
      #[⟨9⟩, ⟨1⟩, ⟨0⟩, ⟨3⟩, ⟨2⟩, ⟨8⟩, ⟨7⟩, ⟨5⟩, ⟨4⟩, ⟨6⟩] ∧
    SubtreeOrdered indexKey 1 (siftDown indexKey unsettledIds 1) ∧
    siftDown indexKey unsettledIds 2 = unsettledIds ∧
    OrderedFrom indexKey 0 (makeHeap indexKey unsettledIds) ∧
    (makeHeap indexKey #[⟨0⟩, ⟨5⟩, ⟨4⟩, ⟨1⟩])[0]? = some ⟨0⟩ := by
  have ordered : ∀ root, 2 < root → SubtreeOrdered indexKey root unsettledIds := by
    intro root after parent child parent_inside inside positive child_of above
    have bound := above.le
    subst child_of
    have small : child < 10 := inside
    obtain rfl | rfl | rfl : child = 7 ∨ child = 8 ∨ child = 9 := by omega
    all_goals decide +revert
  obtain ⟨mends, _, heap, _⟩ := mends_subtrees_and_heaps indexKey unsettledIds
  obtain ⟨_, _, mended, _⟩ := mends 1 (ordered 3 (by omega)) (ordered 4 (by omega))
  obtain ⟨_, _, _, stays⟩ := mends 2 (ordered 5 (by omega)) (ordered 6 (by omega))
  obtain ⟨_, _, _, front⟩ := mends_subtrees_and_heaps indexKey #[⟨0⟩, ⟨5⟩, ⟨4⟩, ⟨1⟩]
  refine ⟨ordered 3 (by omega), ordered 4 (by omega), by decide +kernel, mended, stays ?_, heap,
    front _ rfl (by decide)⟩
  intro child _ inside positive child_of
  obtain rfl | rfl : child = 5 ∨ child = 6 := by omega
  all_goals decide +revert

end Reactor.ScheduledQueue
