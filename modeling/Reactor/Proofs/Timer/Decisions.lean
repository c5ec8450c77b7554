import Reactor.Proofs.Timer.Ownership

/-!
# One decision a move

A move retires at most one schedule.  It does so before or after it charges what the hardware
counted, and never after anything has fired; and whoever charges goes on to fire what is due.
-/

namespace Reactor.TimerSystem

open TimerManager

variable {H κ α : Type} {system : TimerSystem H κ} {id : TimerId}

/-- What one move adds to a history. -/
inductive OneSection : List (TimerEvent κ) → Prop
  /-- Nothing is charged. -/
  | uncharged {decided rest : List (TimerEvent κ)} (one : decided.length ≤ 1)
      (none_charged : ∀ event ∈ decided ++ rest, ∀ elapsed, event ≠ .charged elapsed)
      (quiet : ∀ event ∈ rest, ∀ time id, (Entry.mk time event).retires id = false) :
      OneSection (decided ++ rest)
  /-- The due timers fire after a charge. -/
  | charged {before after : List (TimerEvent κ)} {elapsed : Ticks} {fired : List (Expiry κ)}
      (one : before.length + after.length ≤ 1)
      (none_charged : ∀ event ∈ before ++ after, ∀ elapsed, event ≠ .charged elapsed) :
      OneSection (before ++ .charged elapsed :: (after ++ firing fired))

/-- The reports of a section in which all stages follow a charge. -/
def Concludes (κ : Type) (notes : List TimerNote) : Prop :=
  (chargesOf notes : List (TimerEvent κ)) = [] ∨
    (∃ elapsed, (chargesOf notes : List (TimerEvent κ)) = [.charged elapsed]) ∧
      notes.any TimerNote.endsPass = true

theorem oneSection_of_concludes (before : List (TimerEvent κ)) {decided : List (TimerEvent κ)}
    {notes : List TimerNote} (fired : List (Expiry κ)) (concludes : Concludes κ notes)
    (one : before.length + decided.length ≤ 1)
    (none_charged : ∀ event ∈ before ++ decided, ∀ elapsed, event ≠ .charged elapsed) :
    OneSection (before ++ (chargesOf notes ++ decided ++ passOf notes fired)) := by
  rcases concludes with uncharged | ⟨⟨elapsed, charged⟩, ends⟩
  · rw [uncharged, List.nil_append, ← List.append_assoc]
    apply OneSection.uncharged
    · simpa using one
    · intro event member elapsed
      rcases List.mem_append.mp member with decision | passing
      · exact none_charged event decision elapsed
      · rcases mem_passOf passing with ⟨expiry, _, rfl⟩ | rfl <;> simp
    · intro event passing time id
      rcases mem_passOf passing with ⟨expiry, _, rfl⟩ | rfl <;> rfl
  · have passes : passOf notes fired = firing fired := by simp [passOf, firing, ends]
    rw [charged, passes, List.append_assoc, List.singleton_append]
    exact .charged one none_charged

/-- A move that adds nothing but what is neither a charge nor a decision. -/
theorem oneSection_of_quiet {events : List (TimerEvent κ)}
    (none_charged : ∀ event ∈ events, ∀ elapsed, event ≠ .charged elapsed)
    (quiet : ∀ event ∈ events, ∀ time id, (Entry.mk time event).retires id = false) :
    OneSection events := by
  rw [← List.nil_append events]
  exact .uncharged (Nat.zero_le 1) none_charged quiet

theorem length_decision_le (before : TimerManager H κ)
    (done : TimerSection H κ (Except TimerError Unit)) (id : TimerId) (mode : TimerMode)
    (ticks : Ticks) (callback : κ) :
    (decision before done id mode ticks callback).length ≤ 1 := by
  rw [decision]
  split
  · exact Nat.zero_le 1
  · split <;> exact Nat.le_refl 1

theorem decision_ne_charged {before : TimerManager H κ}
    {done : TimerSection H κ (Except TimerError Unit)} {mode : TimerMode} {ticks : Ticks}
    {callback : κ} : ∀ event ∈ decision before done id mode ticks callback, ∀ elapsed,
      event ≠ .charged elapsed := by
  intro event member elapsed
  rw [decision] at member
  split at member
  · cases member
  · split at member <;> rw [List.mem_singleton.mp member] <;> simp

/-! ## Schedules that have ended -/

/-- Something holds of each schedule at the time at which it ends. -/
def EndsWith (holds : Plan κ → Nat → Prop) (history : List (Entry κ)) : Prop :=
  AtEach (fun before entry => ∀ id plan, entry.retires id = true → plan? id before = some plan →
    holds plan entry.time) history

section

variable {holds : Plan κ → Nat → Prop} {history : List (Entry κ)} {events : List (TimerEvent κ)}
  {time : Nat}

theorem EndsWith.append_of_quiet (ends : EndsWith holds history)
    (quiet : ∀ event ∈ events, ∀ id, (Entry.mk time event).retires id = false) :
    EndsWith holds (history ++ events.map (Entry.mk time)) := by
  apply AtEach.append_of_forall ends
  intro entry member before id plan retires
  obtain ⟨event, listed, rfl⟩ := List.mem_map.mp member
  rw [quiet event listed id] at retires
  cases retires

theorem EndsWith.decide {decided : List (TimerEvent κ)} (ends : EndsWith holds history)
    (all : ∀ id plan, plan? id history = some plan → holds plan time)
    (one : decided.length ≤ 1) : EndsWith holds (history ++ decided.map (Entry.mk time)) := by
  rcases decided with _ | ⟨event, _ | ⟨second, others⟩⟩
  · simpa using ends
  · exact ends.concat fun id plan _ planned => all id plan planned
  · simp at one

/-- What holds of every schedule before a move holds of each that ends in the course of it. -/
theorem EndsWith.append_section (ends : EndsWith holds history)
    (all : ∀ id plan, plan? id history = some plan → holds plan time)
    (spendable : ∀ plan spent, holds plan time → holds { plan with spent } time)
    (one_section : OneSection events) : EndsWith holds (history ++ events.map (Entry.mk time)) := by
  cases one_section with
  | @uncharged decided rest one _ quiet =>
      rw [List.map_append, ← List.append_assoc]
      exact (ends.decide all one).append_of_quiet fun event member => quiet event member time
  | @charged before after elapsed fired one _ =>
      have quiet_charge : ∀ event ∈ [TimerEvent.charged (κ := κ) elapsed], ∀ id,
          (Entry.mk time event).retires id = false := by simp [Entry.retires]
      have all_after : ∀ id plan, plan? id (history ++ [⟨time, .charged elapsed⟩]) = some plan →
          holds plan time := by
        intro id plan planned
        rw [plan?_append_of_quiet (by simp [Entry.retires]), Option.map_eq_some_iff] at planned
        obtain ⟨earlier, in_force, rfl⟩ := planned
        have spent : earlier.after id [⟨time, .charged elapsed⟩] =
            { earlier with spent := earlier.spent + elapsed.count } := by
          simp [Plan.after, collections, Entry.collects?, Entry.spend]
        rw [spent]
        exact spendable earlier _ (all id earlier in_force)
      have split_at : (before ++ .charged elapsed :: (after ++ firing fired)).map (Entry.mk time) =
          before.map (Entry.mk time) ++ ([TimerEvent.charged elapsed].map (Entry.mk time) ++
            (after.map (Entry.mk time) ++ (firing fired).map (Entry.mk time))) := by simp
      rw [split_at, ← List.append_assoc, ← List.append_assoc, ← List.append_assoc]
      refine EndsWith.append_of_quiet ?_ fun event member id => quiet_firing fired event member
      cases before with
      | nil =>
          rw [List.map_nil, List.append_nil]
          exact (ends.append_of_quiet quiet_charge).decide all_after (by simpa using one)
      | cons event others =>
          have none_after : after = [] := by
            rw [← List.length_eq_zero_iff]
            simp only [List.length_cons] at one
            omega
          rw [none_after, List.map_nil, List.append_nil]
          refine (ends.decide all ?_).append_of_quiet quiet_charge
          omega

end

/-! ## The sections of a manager conclude -/

variable [HardwareTimer H] {manager next : TimerManager H κ}

theorem chargesOf_reconcile {notes : List TimerNote}
    (result : manager.reconcile = (next, .ok notes)) :
    (chargesOf notes : List (TimerEvent κ)) = [] ∨
      ∃ elapsed, (chargesOf notes : List (TimerEvent κ)) = [.charged elapsed] := by
  rcases reconcile_cases manager with ⟨_, same⟩ | ⟨hardware, fault, _, _, same⟩ |
    ⟨hardware, _, _, same⟩
  all_goals
    rw [result] at same
    cases same
  · exact Or.inl rfl
  · exact Or.inr ⟨_, rfl⟩

theorem concludes_nil : Concludes κ [] := Or.inl rfl

/-- A section that charges and then goes through all stages. -/
theorem concludes_of_reconcile {notes others : List TimerNote}
    (result : manager.reconcile = (next, .ok notes))
    (silent : ∀ count elapsed, TimerNote.reconciled count elapsed ∉ others)
    (ends : others.any TimerNote.endsPass = true) : Concludes κ (notes ++ others) := by
  have charges : (chargesOf (notes ++ others) : List (TimerEvent κ)) = chargesOf notes := by
    rw [chargesOf_append, chargesOf_eq_nil silent, List.append_nil]
  rcases chargesOf_reconcile result with uncharged | charged
  · exact Or.inl (charges.trans uncharged)
  · refine Or.inr ⟨?_, by simp [ends]⟩
    rw [charges]
    exact charged

theorem concludes_schedule {timer : Timer κ} (held : manager.timer? id = some timer)
    (mode : TimerMode) (ticks : Ticks) (callback : κ)
    (coherent : manager.IsCoherent) :
    Concludes κ (manager.schedule id mode ticks callback).notes := by
  rcases schedule_cases mode ticks callback coherent held with
    ⟨_, _, _, _, result⟩ | ⟨_, _, _, reconciled, _, still_held, result⟩
  all_goals rw [result]
  · exact concludes_nil
  · obtain ⟨_, silent, enqueued⟩ := enqueue_eq still_held mode ticks callback
    rw [List.append_assoc, List.append_assoc]
    apply concludes_of_reconcile reconciled
    · intro count elapsed reported
      simp only [List.mem_append, List.mem_singleton, reduceCtorEq, or_false] at reported
      rcases reported with requeued | starting
      · rw [enqueued] at requeued
        split at requeued <;> exact silent count elapsed requeued
      · exact not_reconciled_of_startNext _ count elapsed starting
    · simp [TimerNote.endsPass]

theorem concludes_cancel {timer : Timer κ} (held : manager.timer? id = some timer)
    (coherent : manager.IsCoherent) : Concludes κ (manager.cancel id).notes := by
  rcases cancel_cases coherent held with ⟨_, result⟩ | ⟨_, _, result⟩ |
    ⟨_, _, _, _, _, result⟩ | ⟨_, _, _, _, reconciled, result⟩
  all_goals rw [result]
  · exact concludes_nil
  · exact Or.inl rfl
  · exact concludes_nil
  · rw [List.append_assoc]
    apply concludes_of_reconcile reconciled
    · intro count elapsed reported
      simp only [List.mem_append, List.mem_singleton, reduceCtorEq, or_false] at reported
      exact not_reconciled_of_startNext _ count elapsed reported
    · simp [TimerNote.endsPass]

theorem concludes_expire (manager : TimerManager H κ) : Concludes κ manager.expire.notes := by
  rcases result : manager.reconcile with ⟨after, fault | notes⟩
  · rw [expire_of_error result]
    exact Or.inl rfl
  · obtain ⟨starting, silent, expired⟩ := expire_of_ok result
    rw [expired, List.append_assoc]
    apply concludes_of_reconcile result
    · intro count elapsed reported
      simp only [List.mem_append, List.mem_singleton, reduceCtorEq, or_false] at reported
      exact silent count elapsed reported
    · simp [TimerNote.endsPass]

/-! ## Moves -/

omit [HardwareTimer H] in
theorem history_commit (system : TimerSystem H κ) (done : TimerSection H κ α)
    (decided : List (TimerEvent κ)) : (system.commit done decided).history = system.history ++
      (chargesOf done.notes ++ decided ++ passOf done.notes done.fired).map
        (Entry.mk system.time) := rfl

theorem history_retire (system : TimerSystem H κ) (id : TimerId) :
    (system.retire id).history = system.history ++
      ([TimerEvent.cancelled id] ++ (chargesOf (system.manager.cancel id).notes ++ [] ++
        passOf (system.manager.cancel id).notes (system.manager.cancel id).fired)).map
          (Entry.mk system.time) := by
  rw [retire, history_commit, history_record, List.append_assoc]
  rfl

/-- Every move adds at most one decision, and after a charge what is due fires. -/
theorem perform_oneSection (wellFormed : system.WellFormed) (move : TimerMove κ) :
    ∃ events, OneSection events ∧
      (system.perform move).history = system.history ++ events.map (Entry.mk system.time) := by
  have coherent := wellFormed.coherent
  have nothing : ∃ events : List (TimerEvent κ), OneSection events ∧
      system.history = system.history ++ events.map (Entry.mk system.time) :=
    ⟨[], oneSection_of_quiet (by simp) (by simp), by simp⟩
  have retired : ∀ id ∈ system.handles, ∃ events, OneSection events ∧
      (system.retire id).history = system.history ++ events.map (Entry.mk system.time) := by
    intro id owned
    obtain ⟨timer, held⟩ := wellFormed.exists_timer (Or.inl owned)
    exact ⟨_, oneSection_of_concludes [.cancelled id] _ (concludes_cancel held coherent)
      (by simp) (by simp), history_retire system id⟩
  cases move with
  | allocate =>
      rw [perform]
      split <;> exact nothing
  | schedule id mode delay footprint callback =>
      rw [perform]
      split
      · next owned =>
          obtain ⟨timer, held⟩ := wellFormed.exists_timer (Or.inl owned)
          split
          · next ticks _ =>
              refine ⟨_, ?_, history_commit ..⟩
              exact oneSection_of_concludes [] _
                (concludes_schedule held mode ticks callback coherent)
                (by simpa using length_decision_le ..) decision_ne_charged
          · exact nothing
      · exact nothing
  | cancel id =>
      rw [perform]
      split
      · next owned => exact retired id owned
      · exact nothing
  | release id =>
      rw [perform]
      split
      · next owned => exact retired id owned
      · exact nothing
  | free id =>
      rw [perform]
      split
      · next given_up =>
          obtain ⟨timer, held⟩ := wellFormed.exists_timer (Or.inr given_up)
          refine ⟨[.freed id] ++ [], .uncharged (Nat.le_refl 1) (by simp) (by simp), ?_⟩
          rw [free_eq held]
          simp [commit, record, chargesOf, passOf, TimerNote.endsPass]
      · exact nothing
  | expire =>
      refine ⟨_, ?_, history_commit ..⟩
      exact oneSection_of_concludes [] _ (concludes_expire system.manager) (Nat.zero_le 1)
        (by simp)
  | handOver place =>
      rw [perform]
      split
      · exact nothing
      · next expiry _ =>
          exact ⟨[.handedOver expiry], oneSection_of_quiet (by simp) (by simp [Entry.retires]),
            rfl⟩

/-- No time passes during a move. -/
theorem time_perform (system : TimerSystem H κ) (move : TimerMove κ) :
    (system.perform move).time = system.time := by
  cases move with
  | allocate | handOver =>
      rw [perform]
      split <;> rfl
  | schedule | cancel | release | free =>
      rw [perform]
      repeat' split
      all_goals rfl
  | expire => rfl

end Reactor.TimerSystem
