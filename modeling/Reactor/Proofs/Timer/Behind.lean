import Reactor.Proofs.ScheduledQueue.Front
import Reactor.Proofs.Timer.Cancellation

/-!
# Timers behind the front

The hardware counts towards the timer in front of the queue, whichever others wait behind it.  When
one of those is cancelled or freed, the front and the hardware take no notice, and neither does any
other timer.
-/

namespace Reactor

namespace TimerManager

variable {H κ : Type} {manager next last : TimerManager H κ} {id front : TimerId}
  {timer : Timer κ}

/-- `next` is what is left of `manager` when one timer leaves the queue unnoticed. -/
structure Unnoticed (manager : TimerManager H κ) (id : TimerId) (next : TimerManager H κ) :
    Prop where
  /-- Only the slots and the queue change. -/
  frame : next = { manager with slots := next.slots, queue := next.queue }
  /-- The front of the queue stays the same. -/
  front? : next.queue.front? = manager.queue.front?
  /-- Nothing but the timer leaves the queue. -/
  queued_iff : ∀ other, other ∈ next.queue.ids ↔ other ≠ id ∧ other ∈ manager.queue.ids
  /-- The others stay as they are. -/
  timers : ∀ other, other ≠ id → next.timer? other = manager.timer? other

theorem Unnoticed.trans (first : manager.Unnoticed id next) (second : next.Unnoticed id last) :
    manager.Unnoticed id last where
  frame := by rw [second.frame, first.frame]
  front? := second.front?.trans first.front?
  queued_iff other := by
    rw [second.queued_iff, first.queued_iff]
    exact ⟨fun kept => kept.2, fun kept => ⟨kept.1, kept⟩⟩
  timers other apart := (second.timers other apart).trans (first.timers other apart)

theorem Unnoticed.hardware (unnoticed : manager.Unnoticed id next) :
    next.hardware = manager.hardware := by rw [unnoticed.frame]

/-- The front has as many ticks left as before. -/
theorem Unnoticed.remaining_front (unnoticed : manager.Unnoticed id next)
    (behind : manager.queue.front? ≠ some id) (in_front : manager.queue.front? = some front) :
    remaining next.slots front = remaining manager.slots front := by
  have apart : front ≠ id := by
    rintro rfl
    exact behind in_front
  have same := unnoticed.timers front apart
  rw [timer?_eq_held?, timer?_eq_held?] at same
  rw [remaining_eq, remaining_eq, same]

/-- What is armed for the front of the queue stays so. -/
theorem Unnoticed.armedFor (unnoticed : manager.Unnoticed id next)
    (behind : manager.queue.front? ≠ some id) (period? : H → Option Ticks)
    (armed_for : ∀ front, manager.queue.front? = some front →
      period? manager.hardware = some (remaining manager.slots front)) :
    ∀ front, next.queue.front? = some front →
      period? next.hardware = some (remaining next.slots front) := by
  intro front in_front
  rw [unnoticed.front?] at in_front
  rw [unnoticed.hardware, armed_for front in_front, unnoticed.remaining_front behind in_front]

/-- A timer that is not in front leaves the queue unnoticed. -/
theorem IsCoherent.unnoticed_vacated (coherent : manager.IsCoherent)
    (held : manager.timer? id = some timer) (behind : manager.queue.front? ≠ some id)
    (entry : Option (Timer κ)) : manager.Unnoticed id (manager.vacated id entry) where
  frame := rfl
  front? := by
    cases in_front : manager.queue.front? with
    | none =>
        have absent : id ∉ manager.queue.ids := by
          simp [ScheduledQueue.front?_eq_none_iff.mp in_front]
        rw [TimerManager.vacated, withdrawn_of_not_mem absent, in_front]
    | some front =>
        have apart : id ≠ front := by
          rintro rfl
          exact behind in_front
        exact (Coherent.ordered coherent).front?_remove in_front apart
  queued_iff other := coherent.mem_withdrawn
  timers other apart := by rw [timer?_vacated held, if_neg apart]

end TimerManager

namespace TimerSystem

open TimerManager

variable {H κ : Type} {system : TimerSystem H κ} {id : TimerId}

/-- Freeing what has been given up goes unnoticed, whatever has happened since. -/
theorem WellFormed.unnoticed_free (wellFormed : system.WellFormed)
    (given_up : id ∈ system.releasing) :
    system.manager.Unnoticed id (system.manager.free id).manager ∧
      (system.manager.free id).manager.timer? id = none ∧
      (system.manager.free id).fired = [] := by
  obtain ⟨timer, held⟩ := wellFormed.exists_timer (Or.inr given_up)
  have idle := wellFormed.not_pending held (wellFormed.unplanned id given_up)
  have behind : system.manager.queue.front? ≠ some id := by
    intro in_front
    have queued := ScheduledQueue.mem_of_front? in_front
    rw [Coherent.pending_of_queued wellFormed.coherent held queued] at idle
    cases idle
  rw [free_eq held]
  refine ⟨wellFormed.coherent.unnoticed_vacated held behind none, ?_, rfl⟩
  rw [timer?_vacated held, if_pos rfl]

end TimerSystem

namespace TimerService

variable {σ H κ α : Type} {service : TimerService σ H κ} {world : σ} {id : TimerId}
  {next : TimerManager H κ} {note : TimerNote} {answer : α}

/-- Nothing but a report comes of a section that reports once and fires nothing. -/
theorem runFrom_commit_of_reported {act : TimerManager H κ → TimerSection H κ α}
    (done : act (service.manager.get world) = { manager := next, notes := [note], answer }) :
    (service.commit act).runFrom world =
      (do
        service.report note
        return answer).runFrom (service.manager.set next world) := by
  rw [runFrom_commit, done, Exec.runFrom_bind]
  simp only [conclude, Exec.runFrom_bind, Exec.runFrom_forM_cons, Exec.runFrom_forM_nil,
    Exec.runFrom_pure]
  rcases (service.report note).runFrom (service.manager.set next world) with ⟨_ | _, _⟩ <;> rfl

variable [HardwareTimer H]

theorem runFrom_cancel_of_behind
    (done : (service.manager.get world).cancel id =
      { manager := next, notes := [.cancelled id], answer := .ok true }) :
    (service.cancel (some id)).runFrom world =
      (do
        service.report (.cancelled id)
        return true).runFrom (service.manager.set next world) := by
  rw [cancel, tryCancel, Exec.runFrom_bind, runFrom_commit_of_reported done, Exec.runFrom_bind,
    Exec.runFrom_bind]
  rcases (service.report (.cancelled id)).runFrom (service.manager.set next world) with
    ⟨_ | _, _⟩ <;> rfl

theorem runFrom_release_of_behind
    (done : (service.manager.get world).cancel id =
      { manager := next, notes := [.cancelled id], answer := .ok true }) :
    (service.release id).runFrom world =
      (do
        service.report (.cancelled id)
        service.commit (·.free id)).runFrom (service.manager.set next world) := by
  rw [release, Exec.runFrom_bind, runFrom_commit_of_reported done, Exec.runFrom_bind,
    Exec.runFrom_bind]
  rcases (service.report (.cancelled id)).runFrom (service.manager.set next world) with
    ⟨_ | _, _⟩ <;> rfl

end TimerService

namespace TimerSystem

open TimerManager

variable {δ H κ : Type} [HardwareTimer H]

/-- Cancelling a timer that waits behind the front makes no call of the hardware, whatever that would
do, and neither does freeing it then or freeing what has been given up before.  The front stays in
front and every other timer stays as it is, so the hardware stays armed for the front if it was.
Through a handle, a report is all that comes of it. -/
theorem cancel_behind_front_unnoticed (change : δ → H → H) (hardware : H)
    (storage : TimerStorage) (moves : List (OpenMove δ κ)) (system : TimerSystem H κ)
    (reached : system = openRun change hardware storage moves) (id : TimerId)
    (owned : id ∈ system.handles) (waits : system.manager.isPending id = true)
    (behind : system.manager.queue.front? ≠ some id) :
    ∃ cancelled freed,
      (∀ operations : HardwareTimer H, @TimerManager.cancel H κ operations system.manager id =
        { manager := cancelled, notes := [.cancelled id], answer := .ok true }) ∧
      cancelled.free id = { manager := freed, notes := [.freed id], answer := () } ∧
      (∃ timer, cancelled.timer? id = some timer ∧ timer.pending = false ∧
        timer.schedule = none) ∧
      freed.timer? id = none ∧
      (∀ next, next = cancelled ∨ next = freed → system.manager.Unnoticed id next ∧
        ∀ period? : H → Option Ticks,
          (∀ front, system.manager.queue.front? = some front →
            period? system.manager.hardware = some (remaining system.manager.slots front)) →
          ∀ front, next.queue.front? = some front →
            period? next.hardware = some (remaining next.slots front)) ∧
      (∀ given_up ∈ system.releasing,
        system.manager.Unnoticed given_up (system.manager.free given_up).manager ∧
          (system.manager.free given_up).manager.timer? given_up = none ∧
          (system.manager.free given_up).fired = []) ∧
      ∀ {σ : Type} (service : TimerService σ H κ) (world : σ),
        service.manager.get world = system.manager →
        (service.tryCancel (some id)).runFrom world =
          (do
            service.report (.cancelled id)
            return Except.ok true).runFrom (service.manager.set cancelled world) ∧
        (service.cancel (some id)).runFrom world =
          (do
            service.report (.cancelled id)
            return true).runFrom (service.manager.set cancelled world) ∧
        (service.release id).runFrom world =
          (do
            service.report (.cancelled id)
            service.commit (·.free id)).runFrom (service.manager.set cancelled world) := by
  have wellFormed := (openRun_sound change hardware storage moves).1
  rw [← reached] at wellFormed
  have coherent := wellFormed.coherent
  obtain ⟨timer, held⟩ := wellFormed.exists_timer (Or.inl owned)
  have pending : timer.pending = true := by
    rwa [isPending, held, Option.any_some] at waits
  have retired : (system.manager.vacated id (some timer.retired)).timer? id =
      some timer.retired := by
    rw [timer?_vacated held, if_pos rfl]
  have away := coherent.vacated held (atRest_some (rfl : timer.retired.pending = false))
  have unnoticed := coherent.unnoticed_vacated held behind (some timer.retired)
  have still_behind : (system.manager.vacated id (some timer.retired)).queue.front? ≠ some id := by
    rw [unnoticed.front?]
    exact behind
  -- Once it is cancelled the timer is in no queue, so freeing it goes unnoticed for the same reason.
  have freed_unnoticed := unnoticed.trans (away.unnoticed_vacated retired still_behind none)
  refine ⟨_, _, fun operations => cancel_of_behind held pending behind, free_eq retired,
    ⟨_, retired, rfl, rfl⟩, ?_, ?_, fun given_up => wellFormed.unnoticed_free, ?_⟩
  · rw [timer?_vacated retired, if_pos rfl]
  · rintro next (rfl | rfl)
    · exact ⟨unnoticed, unnoticed.armedFor behind⟩
    · exact ⟨freed_unnoticed, freed_unnoticed.armedFor behind⟩
  · intro σ service world shown
    have done : (service.manager.get world).cancel id =
        { manager := system.manager.vacated id (some timer.retired), notes := [.cancelled id]
          answer := .ok true } := by
      rw [shown]
      exact cancel_of_behind held pending behind
    exact ⟨TimerService.runFrom_commit_of_reported done,
      TimerService.runFrom_cancel_of_behind done, TimerService.runFrom_release_of_behind done⟩

/-- Three timers wait for the same time and one waits longer; a part of that time has passed. -/
def tiedMoves : List (OpenMove UnreliableTimer.Change Nat) :=
  [.use .allocate, .use .allocate, .use .allocate, .use .allocate,
    .use (.schedule ⟨0⟩ .periodic (.ofMicros 20) { bytes := 8 } 1),
    .use (.schedule ⟨1⟩ .oneshot (.ofMicros 20) { bytes := 8 } 2),
    .use (.schedule ⟨2⟩ .oneshot (.ofMicros 20) { bytes := 8 } 3),
    .use (.schedule ⟨3⟩ .oneshot (.ofMicros 50) { bytes := 8 } 4), .stir (.tick (.clamp 5))]

/-- One of the timers that wait for the same time as the front is cancelled; the last one takes its
place, and the front stays where it is. -/
theorem cancel_tied_with_front_unnoticed :
    ∃ system, system = unreliableRun tiedMoves ∧ ⟨1⟩ ∈ system.handles ∧
      system.manager.isPending ⟨1⟩ = true ∧ system.manager.queue.front? ≠ some ⟨1⟩ ∧
      ∃ cancelled, system.manager.cancel ⟨1⟩ =
          { manager := cancelled, notes := [.cancelled ⟨1⟩], answer := .ok true } ∧
        system.manager.queue.ids.toList = [⟨0⟩, ⟨1⟩, ⟨2⟩, ⟨3⟩] ∧
        cancelled.queue.ids.toList = [⟨0⟩, ⟨3⟩, ⟨2⟩] ∧
        cancelled.hardware = system.manager.hardware ∧
        cancelled.hardware.timer.armedPeriod? = some (.clamp 20) := by
  have owned : ⟨1⟩ ∈ (unreliableRun tiedMoves).handles := by decide +kernel
  have waits : (unreliableRun tiedMoves).manager.isPending ⟨1⟩ = true := by decide +kernel
  have behind : (unreliableRun tiedMoves).manager.queue.front? ≠ some ⟨1⟩ := by decide +kernel
  obtain ⟨cancelled, freed, done, _, _, _, unnoticed, _⟩ :=
    cancel_behind_front_unnoticed _ _ _ tiedMoves (unreliableRun tiedMoves) rfl ⟨1⟩ owned waits
      behind
  have same := (unnoticed cancelled (Or.inl rfl)).1.hardware
  have left : ((unreliableRun tiedMoves).manager.cancel ⟨1⟩).manager = cancelled := by
    rw [done]
  refine ⟨_, rfl, owned, waits, behind, cancelled, done _, by decide +kernel, ?_, same, ?_⟩
  · rw [← left]
    decide +kernel
  · rw [same]
    decide +kernel

end TimerSystem

end Reactor
