import Reactor.Proofs.Timer.OpenRun
import Reactor.Hardware.Simulated
import Reactor.Timer.Service

/-!
# Which deliveries run

A callback that was handed over runs some time later, when its timer may have been cancelled,
rescheduled, or freed and allocated again.  It looks its schedule up by number right before it runs.
-/

namespace Reactor

namespace TimerService

variable {σ H κ : Type}

/-- A delivery looks at the manager once and then either runs its callback or is skipped. -/
theorem runFrom_deliver (service : TimerService σ H κ) (expiry : Expiry κ) (world : σ) :
    (service.deliver expiry).runFrom world =
      if service.alive.get world &&
          (service.manager.get world).isCurrent expiry.id expiry.serial then
        (service.call expiry.callback).runFrom world
      else (service.report (.skipped expiry.id)).runFrom world := by
  have unfolded : (service.deliver expiry).runFrom world =
      (if service.alive.get world &&
          (service.manager.get world).isCurrent expiry.id expiry.serial then
        service.call expiry.callback
      else service.report (.skipped expiry.id)).runFrom world := rfl
  rw [unfolded]
  split <;> rfl

end TimerService

namespace TimerSystem

variable {H κ : Type} {system : TimerSystem H κ}

/-- The manager takes a number for current just if no entry has retired its schedule. -/
theorem isCurrent_iff (wellFormed : system.WellFormed) (numbered : system.Numbered)
    (few : issued system.history < UInt32.size) {before after : List (Entry κ)} {time : Nat}
    {id : TimerId} {mode : TimerMode} {ticks : Ticks} {serial : UInt32} {callback : κ}
    (split_at : system.history =
      before ++ ⟨time, .scheduled id mode ticks serial callback⟩ :: after) :
    system.manager.isCurrent id serial = true ↔
      ∀ entry ∈ after, entry.retires id = false := by
  have accounted := wellFormed.accounted id
  constructor
  · intro current
    rw [TimerManager.isCurrent, Option.any_eq_true] at current
    obtain ⟨timer, held, holds⟩ := current
    rw [Timer.holds, Option.any_eq_true] at holds
    obtain ⟨schedule, scheduled, same⟩ := holds
    rw [held, Option.bind_some, scheduled] at accounted
    obtain ⟨plan, planned, rfl⟩ := Option.map_eq_some_iff.mp accounted.symm
    obtain ⟨_, reign, found, quiet⟩ := reign_of_plan? planned
    have same_number : plan.serial = serial := beq_iff_eq.mp same
    rw [same_number] at found
    obtain ⟨_, _, rfl⟩ := numbered.counts.split_eq few split_at found
    exact quiet
  · intro quiet
    rw [split_at, plan?_of_reign quiet, Option.map_some] at accounted
    obtain ⟨timer, held, scheduled⟩ := Option.bind_eq_some_iff.mp accounted
    simp [TimerManager.isCurrent, held, Timer.holds, scheduled, Plan.schedule]

/-- A delivery runs its callback just if the manager lives and its schedule has been neither
cancelled, replaced, turned away nor freed; only a queue that is smaller than the timer list turns
schedules away. -/
theorem deliver_eq_call_or_skip {δ : Type} [HardwareTimer H] (change : δ → H → H) (hardware : H)
    (storage : TimerStorage) (moves : List (OpenMove δ κ))
    (few : issued (openRun change hardware storage moves).history < UInt32.size) :
    (∀ expiry ∈ (openRun change hardware storage moves).inFlight,
      Scheduled (openRun change hardware storage moves).history expiry ∧
      ∀ before time id mode ticks callback after,
        (openRun change hardware storage moves).history =
          before ++ ⟨time, .scheduled id mode ticks expiry.serial callback⟩ :: after →
        id = expiry.id ∧ callback = expiry.callback ∧
        ∀ {σ : Type} (service : TimerService σ H κ) (world : σ),
          service.manager.get world = (openRun change hardware storage moves).manager →
          service.alive.get world = (openRun change hardware storage moves).alive →
          (service.deliver expiry).runFrom world =
            if (openRun change hardware storage moves).alive &&
                after.all (fun entry => !entry.retires id) then
              (service.call callback).runFrom world
            else (service.report (.skipped id)).runFrom world) ∧
    (storage.QueuesAll → NoneTurnedAway (openRun change hardware storage moves).history) := by
  obtain ⟨wellFormed, numbered⟩ := openRun_sound change hardware storage moves
  refine ⟨?_, fun queues_all => noneTurnedAway_openRun queues_all change hardware moves⟩
  intro expiry in_flight
  have scheduled := numbered.inFlight expiry in_flight
  refine ⟨scheduled, ?_⟩
  intro before time id mode ticks callback after split_at
  obtain ⟨_, _, _, _, _, own_split⟩ := scheduled
  obtain ⟨rfl, rfl, rfl⟩ := numbered.counts.split_eq few split_at own_split
  refine ⟨rfl, rfl, ?_⟩
  intro σ service world shown living
  have current : (service.manager.get world).isCurrent expiry.id expiry.serial =
      after.all fun entry => !entry.retires expiry.id := by
    rw [Bool.eq_iff_iff, shown, isCurrent_iff wellFormed numbered few split_at]
    simp
  rw [TimerService.runFrom_deliver, current, living]

/-- A one-shot fires at once and is handed over; then another timer is scheduled. -/
def firedSystem : TimerSystem SimulatedTimer Nat :=
  openRun (fun (_ : Unit) hardware => hardware) { resolution := .microsecond } .growing
    [.use .allocate, .use .allocate, .use (.schedule ⟨0⟩ .oneshot .zero { bytes := 8 } 1),
      .use (.handOver 0), .use (.schedule ⟨1⟩ .oneshot (.ofMicros 10) { bytes := 8 } 2)]

/-- The timer that fired is not asked to wait again, so its delivery runs. -/
theorem delivery_of_fired_runs :
    issued firedSystem.history < UInt32.size ∧
    ∀ {σ : Type} (service : TimerService σ SimulatedTimer Nat) (world : σ),
      service.manager.get world = firedSystem.manager → service.alive.get world = true →
      (service.deliver ⟨⟨0⟩, 0, 1⟩).runFrom world = (service.call 1).runFrom world := by
  refine ⟨by decide +kernel, ?_⟩
  intro σ service world shown living
  have in_flight : firedSystem.inFlight = [⟨⟨0⟩, 0, 1⟩] := by decide +kernel
  have history : firedSystem.history =
      [] ++ ⟨0, .scheduled ⟨0⟩ .oneshot .zero 0 1⟩ :: [⟨0, .collected ⟨⟨0⟩, 0, 1⟩⟩, ⟨0, .passed⟩,
        ⟨0, .handedOver ⟨⟨0⟩, 0, 1⟩⟩, ⟨0, .scheduled ⟨1⟩ .oneshot (.clamp 10) 1 2⟩,
        ⟨0, .passed⟩] := by decide +kernel
  have delivered := (deliver_eq_call_or_skip _ _ _ _ (by decide +kernel)).1 ⟨⟨0⟩, 0, 1⟩
    (in_flight ▸ List.mem_singleton_self _)
  obtain ⟨_, _, runs⟩ := delivered.2 _ _ _ _ _ _ _ history
  rw [runs service world shown (living.trans (by decide +kernel)), if_pos (by decide +kernel)]

/-- The queue has filled up after a one-shot fired, and then its timer is scheduled again. -/
def refusedSystem : TimerSystem SimulatedTimer Nat :=
  openRun (fun (_ : Unit) hardware => hardware) { resolution := .microsecond }
    { timers := .bounded 4, scheduled := .bounded 2, fired := .bounded 4, housing := .boxed }
    [.use .allocate, .use .allocate, .use .allocate,
      .use (.schedule ⟨0⟩ .oneshot .zero { bytes := 8 } 1), .use (.handOver 0),
      .use (.schedule ⟨1⟩ .oneshot (.ofMicros 10) { bytes := 8 } 2),
      .use (.schedule ⟨2⟩ .oneshot (.ofMicros 10) { bytes := 8 } 3),
      .use (.schedule ⟨0⟩ .oneshot (.ofMicros 5) { bytes := 8 } 4)]

/-- A schedule that is refused for want of room queues nothing, and yet the delivery of the timer
that had fired before is skipped, although the timer was neither cancelled nor freed. -/
theorem refused_schedule_skips_delivery :
    refusedSystem.alive = true ∧ refusedSystem.inFlight = [⟨⟨0⟩, 0, 1⟩] ∧
    refusedSystem.history =
      [⟨0, .scheduled ⟨0⟩ .oneshot .zero 0 1⟩, ⟨0, .collected ⟨⟨0⟩, 0, 1⟩⟩, ⟨0, .passed⟩,
        ⟨0, .handedOver ⟨⟨0⟩, 0, 1⟩⟩, ⟨0, .scheduled ⟨1⟩ .oneshot (.clamp 10) 1 2⟩,
        ⟨0, .passed⟩, ⟨0, .charged .zero⟩, ⟨0, .scheduled ⟨2⟩ .oneshot (.clamp 10) 2 3⟩,
        ⟨0, .passed⟩, ⟨0, .charged .zero⟩, ⟨0, .turnedAway ⟨0⟩⟩, ⟨0, .passed⟩] ∧
    ∀ {σ : Type} (service : TimerService σ SimulatedTimer Nat) (world : σ),
      service.manager.get world = refusedSystem.manager →
      (service.deliver ⟨⟨0⟩, 0, 1⟩).runFrom world =
        (service.report (.skipped ⟨0⟩)).runFrom world := by
  refine ⟨by decide +kernel, by decide +kernel, by decide +kernel, ?_⟩
  intro σ service world shown
  have retired : (service.manager.get world).isCurrent ⟨0⟩ 0 = false := by
    rw [shown]
    decide +kernel
  simp only [TimerService.runFrom_deliver, retired, Bool.and_false, Bool.false_eq_true, if_false]

end TimerSystem

end Reactor
