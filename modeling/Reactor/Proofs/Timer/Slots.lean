import Reactor.Timer.Manager
import Mathlib.Data.List.Nodup

/-!
# Timer slots

The slots of a manager seen as a map from ids to timers: what a place holds after one place has
been replaced, one timer changed, or ticks charged to many.
-/

namespace Reactor

namespace TimerManager

variable {κ : Type} {slots : Roster (Option (Timer κ))} {id other : TimerId} {timer : Timer κ}

/-- The timer that a table of slots holds under an id. -/
def held? (slots : Roster (Option (Timer κ))) (id : TimerId) : Option (Timer κ) :=
  (slots.get? id.index).join

theorem timer?_eq_held? {H : Type} (manager : TimerManager H κ) (id : TimerId) :
    manager.timer? id = held? manager.slots id := rfl

/-- The remaining ticks are a matter of the timers alone. -/
theorem remaining_eq (slots : Roster (Option (Timer κ))) (id : TimerId) :
    remaining slots id = ((held? slots id).map Timer.remaining).getD .max := by
  rw [remaining, held?]
  cases (slots.get? id.index).join <;> rfl

theorem remaining_of_held? (held : held? slots id = some timer) :
    remaining slots id = timer.remaining := by
  rw [held?] at held
  rw [remaining, held]

theorem lt_size_of_held? (held : held? slots id = some timer) : id.index < slots.size := by
  by_contra outside
  have absent : slots.entries[id.index]? = none := by
    rw [Array.getElem?_eq_none_iff]
    simpa [Roster.size] using outside
  simp [held?, Roster.get?, absent] at held

theorem held?_set_self (entry : Option (Timer κ)) (inside : id.index < slots.size) :
    held? (slots.set id.index entry) id = entry := by
  rw [held?, Roster.get?_set_self _ _ _ inside, Option.join_some]

theorem held?_set_ne (entry : Option (Timer κ)) (apart : other ≠ id) :
    held? (slots.set id.index entry) other = held? slots other := by
  have indices : id.index ≠ other.index := by
    intro same
    apply apart
    cases id
    cases other
    simpa using same.symm
  rw [held?, Roster.get?_set_ne _ _ indices, held?]

theorem remaining_set_ne (entry : Option (Timer κ)) (apart : other ≠ id) :
    remaining (slots.set id.index entry) other = remaining slots other := by
  rw [remaining_eq, remaining_eq, held?_set_ne entry apart]

/-- An entry with as many ticks left does not change any key. -/
theorem remaining_set_of_same {entry : Timer κ} (held : held? slots id = some timer)
    (same : entry.remaining = timer.remaining) :
    remaining (slots.set id.index (some entry)) = remaining slots := by
  funext other
  by_cases at_id : other = id
  · subst at_id
    rw [remaining_of_held? (held?_set_self _ (lt_size_of_held? held)), same,
      remaining_of_held? held]
  · exact remaining_set_ne _ at_id

theorem set_set (first second : Option (Timer κ)) :
    (slots.set id.index first).set id.index second = slots.set id.index second := by
  simp [Roster.set]

theorem held?_change (f : Timer κ → Timer κ) :
    held? (change slots id f) other =
      if other = id then (held? slots id).map f else held? slots other := by
  cases held : held? slots id with
  | none =>
      have unchanged : change slots id f = slots := by
        rw [held?] at held
        rw [change, held]
      rw [unchanged]
      split
      · next same => rw [same, held, Option.map_none]
      · rfl
  | some timer =>
      have changed : change slots id f = slots.set id.index (some (f timer)) := by
        rw [held?] at held
        rw [change, held]
      rw [changed]
      split
      · next same => rw [same, held?_set_self _ (lt_size_of_held? held), Option.map_some]
      · next apart => exact held?_set_ne _ apart

@[simp]
theorem size_change (f : Timer κ → Timer κ) : (change slots id f).size = slots.size := by
  unfold change
  split
  · exact Roster.size_set _ _ _
  · rfl

@[simp]
theorem capacity_change (f : Timer κ → Timer κ) :
    (change slots id f).capacity = slots.capacity := by
  unfold change
  split <;> rfl

end TimerManager

/-- The timer after some ticks have been charged to it. -/
def Timer.charged {κ : Type} (elapsed : Ticks) (timer : Timer κ) : Timer κ :=
  { timer with remaining := timer.remaining - elapsed }

namespace TimerManager

variable {κ : Type} {slots : Roster (Option (Timer κ))} {other : TimerId} {ids : List TimerId}

theorem charge_cons (elapsed : Ticks) (id : TimerId) (ids : List TimerId) :
    charge elapsed (id :: ids) slots =
      charge elapsed ids (change slots id (Timer.charged elapsed)) := rfl

@[simp]
theorem size_charge (elapsed : Ticks) : (charge elapsed ids slots).size = slots.size := by
  induction ids generalizing slots with
  | nil => rfl
  | cons id ids induction => rw [charge_cons, induction, size_change]

@[simp]
theorem capacity_charge (elapsed : Ticks) :
    (charge elapsed ids slots).capacity = slots.capacity := by
  induction ids generalizing slots with
  | nil => rfl
  | cons id ids induction => rw [charge_cons, induction, capacity_change]

theorem held?_charge (elapsed : Ticks) (distinct : ids.Nodup) :
    held? (charge elapsed ids slots) other =
      if other ∈ ids then (held? slots other).map (Timer.charged elapsed)
      else held? slots other := by
  induction ids generalizing slots with
  | nil => rfl
  | cons id ids induction =>
      obtain ⟨fresh, distinct⟩ := List.nodup_cons.mp distinct
      rw [charge_cons, induction distinct, held?_change]
      by_cases same : other = id
      · subst same
        simp [fresh]
      · simp [same]

end TimerManager

end Reactor
