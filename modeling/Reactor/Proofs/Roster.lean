import Reactor.Roster
import Mathlib.Data.List.Perm.Basic

/-!
# Entries of a roster

Every operation of a roster is described by what it makes of the list of entries.  A list that is
split around an entry names the entry's place by the length of what stands before it.
-/

namespace Reactor

theorem Capacity.admits_of_le {capacity : Capacity} {small large : Nat} (le : small ≤ large)
    (admits : capacity.admits large = true) : capacity.admits small = true := by
  cases capacity with
  | unbounded => rfl
  | bounded limit =>
      simp only [admits_bounded, decide_eq_true_eq] at admits ⊢
      omega

namespace Roster

variable {α : Type} {roster next : Roster α} {front back : List α} {entry other : α}

/-- The roster holds no more than it has room for. -/
def Fits (roster : Roster α) : Prop :=
  ∀ size < roster.size, roster.capacity.admits size = true

theorem fits_empty (capacity : Capacity) : (empty capacity : Roster α).Fits :=
  fun size small => absurd small (Nat.not_lt_zero size)

theorem Fits.of_le (fits : roster.Fits) (room : next.capacity = roster.capacity)
    (le : next.size ≤ roster.size) : next.Fits := by
  intro size small
  rw [room]
  exact fits size (by omega)

theorem Fits.size_le (fits : roster.Fits) {limit : Nat}
    (bounded : roster.capacity = .bounded limit) : roster.size ≤ limit := by
  by_contra more
  have admitted := fits limit (by omega)
  rw [bounded] at admitted
  simp at admitted

theorem of_push? (pushed : roster.push? entry = some next) :
    next.entries.toList = roster.entries.toList ++ [entry] ∧ next.capacity = roster.capacity ∧
      roster.capacity.admits roster.size = true := by
  rw [push?] at pushed
  split at pushed
  · next admits =>
    cases pushed
    exact ⟨Array.toList_push, rfl, admits⟩
  · cases pushed

theorem fits_of_push? (pushed : roster.push? entry = some next) : next.Fits := by
  obtain ⟨listed, room, admits⟩ := of_push? pushed
  have longer : next.size = roster.size + 1 := by
    simpa only [size, ← Array.length_toList, List.length_append, List.length_singleton] using
      congrArg List.length listed
  intro size small
  rw [room]
  exact Capacity.admits_of_le (by omega) admits

/-- Entries that there is room for are all appended. -/
theorem foldl_push? (entries : List α) (roster : Roster α)
    (room : ∀ size < roster.size + entries.length, roster.capacity.admits size = true) :
    (entries.foldl (fun list entry => (list.push? entry).getD list) roster).entries.toList =
      roster.entries.toList ++ entries := by
  induction entries generalizing roster with
  | nil => exact (List.append_nil _).symm
  | cons entry entries induction =>
      rw [List.length_cons] at room
      have pushed : roster.push? entry =
          some { roster with entries := roster.entries.push entry } := by
        rw [push?, if_pos (room _ (by omega))]
      rw [List.foldl_cons, pushed, Option.getD_some, induction, Array.toList_push,
        List.append_assoc]
      · rfl
      · intro size small
        apply room
        rw [Roster.size, Array.size_push] at small
        rw [Roster.size]
        omega

/-! ## At the place of an entry -/

theorem get?_of_split (split_at : roster.entries.toList = front ++ entry :: back) :
    roster.get? front.length = some entry := by
  rw [get?, ← Array.getElem?_toList, split_at, List.getElem?_append_right (Nat.le_refl _),
    Nat.sub_self]
  rfl

theorem set_of_split (split_at : roster.entries.toList = front ++ entry :: back) (other : α) :
    (roster.set front.length other).entries.toList = front ++ other :: back := by
  rw [set, Array.toList_setIfInBounds, split_at, List.set_append_right _ _ (Nat.le_refl _),
    Nat.sub_self]
  rfl

/-- The entry leaves and the others keep their order. -/
theorem remove?_of_split (split_at : roster.entries.toList = front ++ entry :: back) :
    ∃ rest, roster.remove? front.length = some (entry, rest) ∧
      rest.entries.toList = front ++ back ∧ rest.capacity = roster.capacity := by
  have held : roster.entries[front.length]? = some entry := get?_of_split split_at
  refine ⟨{ roster with entries := roster.entries.eraseIdxIfInBounds front.length }, ?_, ?_, rfl⟩
  · rw [remove?, held]
  · rw [Array.toList_eraseIdxIfInBounds, split_at,
      List.eraseIdx_append_of_length_le (Nat.le_refl _), Nat.sub_self]
    rfl

theorem swapIfInBounds_last {entries : Array α} (place : Nat) (inside : place < entries.size) :
    entries.swapIfInBounds place (entries.size - 1) = entries.swap place (entries.size - 1) := by
  have last : entries.size - 1 < entries.size := by omega
  simp [Array.swapIfInBounds, inside, last]

/-- The last entry changes places with the one at `place` and the array gets shorter by one. -/
theorem perm_swap_pop {entries : Array α} (place : Nat) (inside : place < entries.size) :
    entries.toList.Perm
      (entries[place] :: (entries.swapIfInBounds place (entries.size - 1)).pop.toList) := by
  have last : entries.size - 1 < entries.size := by omega
  have nonempty : (entries.swap place (entries.size - 1)).toList ≠ [] := by
    intro empty
    have sizes := congrArg List.length empty
    simp only [Array.length_toList, Array.size_swap, List.length_nil] at sizes
    omega
  have at_end : (entries.swap place (entries.size - 1)).toList.getLast nonempty =
      entries[place] := by
    rw [List.getLast_eq_getElem]
    simp
  have swapped : (entries.swap place (entries.size - 1)).Perm entries :=
    Array.swap_perm inside last
  have permuted := (Array.perm_iff_toList_perm.mp swapped).symm
  rw [← List.dropLast_append_getLast nonempty, at_end] at permuted
  rw [swapIfInBounds_last place inside, Array.toList_pop]
  exact permuted.trans (List.perm_append_singleton _ _)

/-- The entry leaves and the others stay in some order. -/
theorem swapRemove?_of_split (split_at : roster.entries.toList = front ++ entry :: back) :
    ∃ rest, roster.swapRemove? front.length = some (entry, rest) ∧
      rest.entries.toList.Perm (front ++ back) := by
  have held : roster.entries[front.length]? = some entry := get?_of_split split_at
  obtain ⟨inside, at_place⟩ := Array.getElem?_eq_some_iff.mp held
  refine ⟨{ roster with
    entries := (roster.entries.swapIfInBounds front.length (roster.size - 1)).pop }, ?_, ?_⟩
  · rw [swapRemove?, held]
  · have permuted := perm_swap_pop front.length inside
    rw [at_place, split_at] at permuted
    exact (List.perm_middle.symm.trans permuted).cons_inv.symm

theorem ext_toList (capacity : next.capacity = roster.capacity)
    (entries : next.entries.toList = roster.entries.toList) : next = roster := by
  obtain ⟨_, ⟨_⟩⟩ := next
  obtain ⟨_, ⟨_⟩⟩ := roster
  simp only at capacity entries
  rw [capacity, entries]

/-- Setting what is there changes nothing. -/
theorem set_self (split_at : roster.entries.toList = front ++ entry :: back) :
    roster.set front.length entry = roster :=
  ext_toList rfl ((set_of_split split_at entry).trans split_at.symm)

/-- An entry that was appended is the last one, and taking it back leaves what was there. -/
theorem swapRemove?_of_push? (pushed : roster.push? entry = some next) :
    next.swapRemove? roster.size = some (entry, roster) := by
  rw [push?] at pushed
  split at pushed
  · cases pushed
    have taken_back : ((roster.entries.push entry).swapIfInBounds roster.entries.size
        (roster.entries.size + 1 - 1)).pop = roster.entries := by
      apply Array.ext
      · simp
      · intro place _ inside
        have earlier : place ≠ roster.entries.size := by omega
        simp [Array.swapIfInBounds, Array.getElem_push, earlier, inside]
    simp only [swapRemove?, size, Array.size_push, taken_back]
    simp
  · cases pushed

theorem size_le_of_swapRemove? {place : Nat} (removed : roster.swapRemove? place =
    some (entry, next)) : next.capacity = roster.capacity ∧ next.size ≤ roster.size := by
  rw [swapRemove?] at removed
  split at removed
  · cases removed
  · cases removed
    refine ⟨rfl, ?_⟩
    simp [size]

/-- The first entry that passes a test splits the entries. -/
theorem findIdx?_cases (entries : Array α) (test : α → Bool) :
    (entries.findIdx? test = none ∧ ∀ entry ∈ entries.toList, test entry = false) ∨
      ∃ front entry back, entries.toList = front ++ entry :: back ∧
        entries.findIdx? test = some front.length ∧ test entry = true ∧
        ∀ earlier ∈ front, test earlier = false := by
  obtain ⟨entries⟩ := entries
  rw [List.findIdx?_toArray]
  cases found : entries.findIdx? test with
  | none => exact Or.inl ⟨rfl, List.findIdx?_eq_none_iff.mp found⟩
  | some place =>
      right
      obtain ⟨inside, passes, earlier⟩ := List.findIdx?_eq_some_iff_getElem.mp found
      refine ⟨entries.take place, entries[place], entries.drop (place + 1), ?_, ?_, passes, ?_⟩
      · rw [List.getElem_cons_drop, List.take_append_drop]
      · rw [List.length_take_of_le (Nat.le_of_lt inside)]
      · intro entry member
        obtain ⟨position, small, rfl⟩ := List.mem_take_iff_getElem.mp member
        rw [Bool.eq_false_iff]
        exact earlier position (by omega)

end Roster

end Reactor
