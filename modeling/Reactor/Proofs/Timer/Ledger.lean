import Reactor.Proofs.Timer.Ownership

/-!
# The ledger of collected callbacks

What is collected belongs to the schedule in force.  The ledger is in the order of time, and says
when each callback was collected and when it was handed over.
-/

namespace Reactor

variable {κ : Type}

/-- What is collected belongs to the schedule in force. -/
def CollectsInForce (history : List (Entry κ)) : Prop :=
  AtEach (fun before entry => ∀ expiry, entry.event = .collected expiry →
    InForce before expiry) history

/-- What an entry collects, and when. -/
def Entry.collected? (entry : Entry κ) : Option (Nat × Expiry κ) :=
  match entry.event with
  | .collected expiry => some (entry.time, expiry)
  | _ => none

/-- What an entry hands over, and when. -/
def Entry.handedOver? (entry : Entry κ) : Option (Nat × Expiry κ) :=
  match entry.event with
  | .handedOver expiry => some (entry.time, expiry)
  | _ => none

/-- Whether an event is about a collected callback. -/
def TimerEvent.delivers : TimerEvent κ → Bool
  | .collected _ | .handedOver _ => true
  | _ => false

section

variable {events : List (TimerEvent κ)} (time : Nat)

/-- Events that collect nothing and hand nothing over. -/
theorem filterMap_of_not_delivers (idle : ∀ event ∈ events, event.delivers = false) :
    (events.map (Entry.mk time)).filterMap Entry.collected? = [] ∧
      (events.map (Entry.mk time)).filterMap Entry.handedOver? = [] := by
  simp only [List.filterMap_map, List.filterMap_eq_nil_iff]
  constructor
  all_goals
    intro event listed
    have quiet := idle event listed
    cases event with
    | collected expiry | handedOver expiry => cases quiet
    | _ => rfl

theorem filterMap_collected (fired : List (Expiry κ)) :
    ((fired.map TimerEvent.collected).map (Entry.mk time)).filterMap Entry.collected? =
        fired.map (Prod.mk time) ∧
      ((fired.map TimerEvent.collected).map (Entry.mk time)).filterMap Entry.handedOver? = [] := by
  induction fired with
  | nil => exact ⟨rfl, rfl⟩
  | cons expiry fired induction =>
      exact ⟨congrArg ((time, expiry) :: ·) induction.1, induction.2⟩

end

theorem InForce.append_of_quiet {history more : List (Entry κ)} {expiry : Expiry κ}
    (in_force : InForce history expiry)
    (quiet : ∀ entry ∈ more, entry.retires expiry.id = false) :
    InForce (history ++ more) expiry := by
  obtain ⟨before, time, mode, ticks, reign, rfl, earlier⟩ := in_force
  refine ⟨before, time, mode, ticks, reign ++ more, by simp, ?_⟩
  intro entry member
  rcases List.mem_append.mp member with old | new
  · exact earlier entry old
  · exact quiet entry new

/-- Events that collect nothing. -/
theorem CollectsInForce.append_of_others {history : List (Entry κ)}
    (collects : CollectsInForce history) {time : Nat} {events : List (TimerEvent κ)}
    (others : ∀ event ∈ events, ∀ expiry, event ≠ .collected expiry) :
    CollectsInForce (history ++ events.map (Entry.mk time)) := by
  apply AtEach.append_of_forall collects
  intro entry member before expiry collected
  obtain ⟨event, listed, rfl⟩ := List.mem_map.mp member
  exact absurd collected (others event listed expiry)

namespace TimerSystem

open TimerManager

variable {H : Type} [HardwareTimer H] {system next : TimerSystem H κ}

theorem stage_collectsInForce (collects : CollectsInForce system.history)
    (wellFormed : system.WellFormed) (stage : Stage system next) :
    CollectsInForce next.history := by
  cases stage with
  | stopFailed | restartFailed | restarted | givenUp | allocated => exact collects
  | charged | queued | turnedAway | retired | freed | handedOver =>
      exact collects.append_of_others (by simp)
  | cleared idle =>
      have cleared := clearExpired_cleared wellFormed.coherent
      apply AtEach.append collects
      intro before entry after split_at expiry collected
      have quiet : ∀ earlier ∈ before, earlier.retires expiry.id = false := by
        intro earlier member
        have listed : earlier ∈ (firing system.manager.clearExpired.2).map
            (Entry.mk system.time) := by
          rw [split_at]
          exact List.mem_append_left _ member
        obtain ⟨event, fired, rfl⟩ := List.mem_map.mp listed
        exact quiet_firing _ event fired
      have fired : expiry ∈ system.manager.clearExpired.2 := by
        have listed : entry ∈ (firing system.manager.clearExpired.2).map
            (Entry.mk system.time) := by
          rw [split_at]
          exact List.mem_append_right _ (List.mem_cons_self ..)
        obtain ⟨event, member, rfl⟩ := List.mem_map.mp listed
        rcases mem_firing.mp member with ⟨other, fired, rfl⟩ | rfl
        · cases collected
          exact fired
        · cases collected
      obtain ⟨timer, held, _, scheduled⟩ := cleared.due expiry fired
      have planned := wellFormed.schedule_eq held
      rw [scheduled] at planned
      exact (inForce_iff_plan?.mpr planned.symm).append_of_quiet quiet

omit [HardwareTimer H] in
/-- Nothing in the history lies in the future, and time does not run backwards. -/
def Sorted (system : TimerSystem H κ) : Prop :=
  (system.history.map Entry.time).Pairwise (· ≤ ·) ∧
    ∀ entry ∈ system.history, entry.time ≤ system.time

omit [HardwareTimer H] in
theorem Sorted.record (sorted : system.Sorted) (events : List (TimerEvent κ)) :
    (system.record events).Sorted := by
  obtain ⟨ordered, past⟩ := sorted
  constructor
  · rw [history_record, List.map_append, List.pairwise_append]
    refine ⟨ordered, ?_, ?_⟩
    · rw [List.map_map, List.pairwise_map]
      exact List.pairwise_of_forall fun _ _ => Nat.le_refl _
    · intro earlier old later new
      obtain ⟨entry, member, rfl⟩ := List.mem_map.mp old
      obtain ⟨other, recorded, rfl⟩ := List.mem_map.mp new
      obtain ⟨event, _, rfl⟩ := List.mem_map.mp recorded
      exact past entry member
  · intro entry member
    rcases List.mem_append.mp member with old | new
    · exact past entry old
    · obtain ⟨event, _, rfl⟩ := List.mem_map.mp new
      exact Nat.le_refl _

theorem stage_sorted (sorted : system.Sorted) (stage : Stage system next) : next.Sorted := by
  cases stage with
  | stopFailed | restartFailed | restarted | givenUp | allocated => exact sorted
  | charged | queued | turnedAway | retired | freed | cleared | handedOver =>
      exact Sorted.record sorted _

end TimerSystem

end Reactor
