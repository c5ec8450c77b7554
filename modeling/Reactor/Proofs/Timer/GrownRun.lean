import Reactor.Proofs.Hardware.Outages
import Reactor.Proofs.Timer.Growth
import Reactor.Proofs.Timer.Invariant

/-!
# Runs in fixed containers

A run that never asks for more timers than there are slots, and whose callbacks fit, goes in fixed
containers as it goes in containers that grow: every section answers, reports and collects the same,
and the hardware is asked for the same.  Only the slots limit what can be done; the queue and the
list of collected callbacks have room whatever the run asks for.
-/

namespace Reactor

namespace TimerSystem

open TimerManager

variable {δ H κ : Type} {system : TimerSystem H κ} {storage : TimerStorage}

/-- The same system with containers that grow. -/
def grown (system : TimerSystem H κ) : TimerSystem H κ :=
  { system with manager := system.manager.grown }

variable [HardwareTimer H]

/-! ## How callbacks are kept -/

theorem stage_housing {next : TimerSystem H κ} (stage : Stage system next)
    (coherent : system.manager.IsCoherent) : next.manager.housing = system.manager.housing := by
  cases stage with
  | cleared =>
      have same : system.manager.clearExpired.1.housing = system.manager.housing := by
        rw [(clearExpired_cleared coherent).frame]
      exact same
  | stopFailed | charged | queued | turnedAway | restartFailed | restarted | retired | givenUp
    | freed | allocated | handedOver => rfl

/-- Nothing in a run changes how callbacks are kept. -/
theorem housing_openRun (change : δ → H → H) (hardware : H) (storage : TimerStorage)
    (moves : List (OpenMove δ κ)) :
    (openRun change hardware storage moves).manager.housing = storage.housing := by
  apply openRun_keeps_of_stages fun system => system.manager.housing = storage.housing
  · rfl
  · exact fun _ _ wellFormed housing stage =>
      (stage_housing stage wellFormed.coherent).trans housing
  · intro system move housing others
    cases move with
    | use asked => exact absurd rfl (others asked)
    | stir | abandon | deliver | teardown => exact housing

/-! ## Moves -/

/-- A move finds a slot if it asks for one, and its callback fits if it schedules one. -/
def HasRoom (manager : TimerManager H κ) : TimerMove κ → Prop
  | .allocate => manager.slots.capacity.admits manager.allocatedCount = true
  | .schedule _ _ _ footprint _ => manager.housing.misfit? footprint = none
  | _ => True

theorem retire_grown (housed : system.manager.Housed storage)
    (coherent : system.manager.IsCoherent) (collects_all : storage.CollectsAll) (id : TimerId) :
    system.grown.retire id = (system.retire id).grown := by
  rw [retire, retire]
  have same : system.grown.manager.cancel id = (system.manager.cancel id).grown :=
    cancel_grown housed coherent collects_all id
  rw [same]
  rfl

theorem perform_grown (housed : system.manager.Housed storage)
    (coherent : system.manager.IsCoherent) (queues_all : storage.QueuesAll)
    (collects_all : storage.CollectsAll) {move : TimerMove κ}
    (room : HasRoom system.manager move) :
    system.grown.perform move = (system.perform move).grown := by
  cases move with
  | allocate =>
      have same : system.grown.manager.allocate = system.manager.allocate.grown :=
        allocate_grown room
      rw [perform, perform, same]
      cases answer : system.manager.allocate.answer <;> simp [TimerSection.grown, answer, grown]
  | schedule id mode delay footprint callback =>
      have same_accept : system.grown.manager.accept mode delay footprint =
          system.manager.accept mode delay footprint := accept_grown room mode delay
      have same_handles : system.grown.handles = system.handles := rfl
      rw [perform, perform, same_accept, same_handles]
      split
      · cases accepted : system.manager.accept mode delay footprint with
        | error => rfl
        | ok ticks =>
            have same : system.grown.manager.schedule id mode ticks callback =
                (system.manager.schedule id mode ticks callback).grown :=
              schedule_grown housed coherent queues_all collects_all id callback
                (period_pos_of_accept accepted)
            simp only [same]
            rfl
      · rfl
  | cancel id =>
      have same_handles : system.grown.handles = system.handles := rfl
      rw [perform, perform, same_handles]
      split
      · exact retire_grown housed coherent collects_all id
      · rfl
  | release id =>
      have same_handles : system.grown.handles = system.handles := rfl
      rw [perform, perform, same_handles, retire_grown housed coherent collects_all id]
      split <;> rfl
  | free id =>
      have same : (system.grown.record [.freed id]).manager.free id =
          (system.manager.free id).grown := free_grown system.manager id
      have same_releasing : system.grown.releasing = system.releasing := rfl
      rw [perform, perform, same_releasing]
      split
      · rw [show system.grown.manager.free id = _ from same]
        rfl
      · rfl
  | expire =>
      have same : system.grown.manager.expire = system.manager.expire.grown :=
        expire_grown housed coherent collects_all
      rw [perform, perform, same]
      rfl
  | handOver place =>
      have same_collected : system.grown.collected = system.collected := rfl
      rw [perform, perform, same_collected]
      cases system.collected[place]? <;> rfl

theorem undergo_grown (housed : system.manager.Housed storage)
    (coherent : system.manager.IsCoherent) (queues_all : storage.QueuesAll)
    (collects_all : storage.CollectsAll) (change : δ → H → H) {move : OpenMove δ κ}
    (room : ∀ asked, move = .use asked → system.alive = true → HasRoom system.manager asked) :
    system.grown.undergo change move = (system.undergo change move).grown := by
  cases move with
  | use asked =>
      have same_alive : system.grown.alive = system.alive := rfl
      rw [undergo, undergo, same_alive]
      split
      · next alive =>
        exact perform_grown housed coherent queues_all collects_all (room asked rfl alive)
      · rfl
  | teardown =>
      have same : system.grown.manager.teardown = system.manager.teardown.grown :=
        teardown_grown system.manager
      rw [undergo, undergo, same]
      rfl
  | stir | abandon | deliver => rfl

/-! ## Runs -/

/-- What holds of a manager with fixed containers at every moment of a run. -/
theorem fixed_openRun (change : δ → H → H) (hardware : H) (limit words : Nat)
    (moves : List (OpenMove δ κ)) {system : TimerSystem H κ}
    (reached : system = openRun change hardware (.fixed limit words) moves) :
    system.manager.Housed (.fixed limit words) ∧ system.manager.housing = .inline words ∧
      system.manager.IsCoherent := by
  rw [reached]
  exact ⟨housed_openRun change hardware _ moves, housing_openRun change hardware _ moves,
    (openRun_sound change hardware _ moves).1.coherent⟩

/-- A run that fits into fixed containers goes in containers that grow as it goes in those. -/
theorem openRun_growing {change : δ → H → H} {hardware : H} {limit words : Nat}
    {moves : List (OpenMove δ κ)}
    (fits : ∀ id mode delay footprint callback,
      OpenMove.use (.schedule id mode delay footprint callback) ∈ moves →
      (Housing.inline words).misfit? footprint = none)
    (within : ∀ place (before : TimerSystem H κ), moves[place]? = some (.use .allocate) →
      before = openRun change hardware .growing (moves.take place) → before.alive = true →
      before.manager.allocatedCount < limit) :
    openRun change hardware .growing moves =
      (openRun change hardware (.fixed limit words) moves : TimerSystem H κ).grown := by
  induction moves using List.reverseRecOn with
  | nil => rfl
  | append_singleton moves move induction =>
      have same := induction
        (fun id mode delay footprint callback asked =>
          fits id mode delay footprint callback (List.mem_append_left _ asked))
        (fun place before asked ran => by
          obtain ⟨inside, _⟩ := List.getElem?_eq_some_iff.mp asked
          apply within place before (by rw [List.getElem?_append_left inside, asked])
          rwa [List.take_append_of_le_length (Nat.le_of_lt inside)])
      rw [openRun_concat, openRun_concat, same]
      generalize ran : openRun change hardware (.fixed limit words) moves = system at same ⊢
      obtain ⟨housed, housing, coherent⟩ :=
        fixed_openRun change hardware limit words moves ran.symm
      refine undergo_grown housed coherent (TimerStorage.queuesAll_fixed limit words)
        (TimerStorage.collectsAll_fixed limit words) change ?_
      rintro asked rfl alive
      cases asked with
      | allocate =>
          have few := within moves.length system.grown (by simp) (by simp [same]) alive
          rw [HasRoom, housed.slots]
          exact decide_eq_true few
      | schedule id mode delay footprint callback =>
          rw [HasRoom, housing]
          exact fits id mode delay footprint callback (by simp)
      | cancel | release | free | expire | handOver => trivial

/-- The queue of scheduled timers and the list of collected callbacks have room for all timers that
the slots have room for, so whatever is asked of a manager with fixed containers, nothing is turned
away and no callback is given up: each section is the one that containers that grow would see.  A
run whose callbacks fit and that never asks for one timer more than there are slots therefore goes
on in the same way, down to what becomes of the hardware. -/
theorem fixed_containers_answer_as_growing (change : δ → H → H) (hardware : H)
    (limit words : Nat) (moves : List (OpenMove δ κ)) (system : TimerSystem H κ)
    (reached : system = openRun change hardware (.fixed limit words) moves) :
    (∀ id mode delay footprint callback ticks,
      system.manager.accept mode delay footprint = .ok ticks →
      (∀ capacity, (system.manager.schedule id mode ticks callback).answer ≠
        .error (.queueFull capacity)) ∧
      system.manager.grown.schedule id mode ticks callback =
        (system.manager.schedule id mode ticks callback).grown) ∧
    (∀ id, system.manager.grown.cancel id = (system.manager.cancel id).grown ∧
      system.manager.grown.free id = (system.manager.free id).grown ∧
      system.manager.grown.isPending id = system.manager.isPending id ∧
      ∀ serial, system.manager.grown.isCurrent id serial = system.manager.isCurrent id serial) ∧
    system.manager.grown.expire = system.manager.expire.grown ∧
    system.manager.grown.teardown = system.manager.teardown.grown ∧
    (∀ mode delay footprint, (Housing.inline words).misfit? footprint = none →
      system.manager.grown.accept mode delay footprint =
        system.manager.accept mode delay footprint) ∧
    (system.manager.allocatedCount < limit →
      system.manager.grown.allocate = system.manager.allocate.grown) ∧
    (∀ entry ∈ system.history, ∀ id, entry.event ≠ .turnedAway id) ∧
    ((∀ id mode delay footprint callback,
        OpenMove.use (.schedule id mode delay footprint callback) ∈ moves →
        (Housing.inline words).misfit? footprint = none) →
      (∀ place (before : TimerSystem H κ), moves[place]? = some (.use .allocate) →
        before = openRun change hardware .growing (moves.take place) → before.alive = true →
        before.manager.allocatedCount < limit) →
      openRun change hardware .growing moves = system.grown) := by
  obtain ⟨housed, housing, coherent⟩ := fixed_openRun change hardware limit words moves reached
  have queues_all := TimerStorage.queuesAll_fixed limit words
  have collects_all := TimerStorage.collectsAll_fixed limit words
  refine ⟨?_, ?_, expire_grown housed coherent collects_all, teardown_grown system.manager, ?_, ?_,
    ?_, ?_⟩
  · intro id mode delay footprint callback ticks accepted
    exact ⟨schedule_ne_queueFull housed coherent queues_all id mode ticks callback,
      schedule_grown housed coherent queues_all collects_all id callback
        (period_pos_of_accept accepted)⟩
  · intro id
    exact ⟨cancel_grown housed coherent collects_all id, free_grown system.manager id, rfl,
      fun serial => rfl⟩
  · intro mode delay footprint fits
    exact accept_grown (housing ▸ fits) mode delay
  · intro few
    apply allocate_grown
    rw [housed.slots]
    exact decide_eq_true few
  · rw [reached]
    exact noneTurnedAway_openRun queues_all change hardware moves
  · intro fits within
    rw [reached]
    exact openRun_growing fits within

/-- Two timers fill every container: they wait together, one of them is scheduled again, both are
collected at once, and the slot of one is given out a second time. -/
def crowdedMoves : List (OpenMove UnreliableTimer.Change Nat) :=
  [.use .allocate, .use .allocate,
    .use (.schedule ⟨0⟩ .oneshot (.ofMicros 30) { bytes := 8 } 1),
    .use (.schedule ⟨1⟩ .periodic (.ofMicros 20) { bytes := 8 } 2),
    .use (.schedule ⟨0⟩ .oneshot (.ofMicros 20) { bytes := 8 } 3),
    .stir (.tick (.clamp 20)), .use .expire, .use (.handOver 0), .use (.handOver 0),
    .use (.release ⟨0⟩), .use (.free ⟨0⟩), .use .allocate]

/-- The system that the crowded run leaves in a storage. -/
def crowdedRun (storage : TimerStorage) : TimerSystem (TracedTimer UnreliableTimer) Nat :=
  openRun (fun change => TracedTimer.stir (UnreliableTimer.change change))
    { timer := { timer := { resolution := .microsecond } } } storage crowdedMoves

/-- Containers for two timers do for the crowded run. -/
theorem crowded_run_answers_as_growing :
    crowdedRun .growing = (crowdedRun (.fixed 2 4)).grown ∧
    (crowdedRun .growing).handles = [⟨0⟩, ⟨1⟩] ∧
    (crowdedRun .growing).inFlight = [⟨⟨1⟩, 1, 2⟩, ⟨⟨0⟩, 2, 3⟩] ∧
    (crowdedRun .growing).manager.hardware.calls.filterMap HardwareCall.period? =
      [.clamp 20, .clamp 20, .clamp 20, .clamp 30] := by
  have fits : ∀ id mode delay footprint callback,
      OpenMove.use (.schedule id mode delay footprint callback) ∈ crowdedMoves →
      (Housing.inline 4).misfit? footprint = none := by
    intro id mode delay footprint callback asked
    simp only [crowdedMoves, List.mem_cons, OpenMove.use.injEq, TimerMove.schedule.injEq,
      reduceCtorEq, List.not_mem_nil, or_false, false_or] at asked
    obtain ⟨_, _, _, rfl, _⟩ | ⟨_, _, _, rfl, _⟩ | ⟨_, _, _, rfl, _⟩ := asked <;> rfl
  have within : ∀ place, crowdedMoves[place]? = some (.use .allocate) →
      (openRun (fun change => TracedTimer.stir (UnreliableTimer.change change))
        { timer := { timer := { resolution := .microsecond } } } .growing
        (crowdedMoves.take place) :
          TimerSystem (TracedTimer UnreliableTimer) Nat).manager.allocatedCount < 2 := by
    intro place asked
    match place with
    | 0 | 1 | 11 => decide +kernel
    | 2 | 3 | 4 | 5 | 6 | 7 | 8 | 9 | 10 | _ + 12 => cases asked
  have same := (fixed_containers_answer_as_growing
    (fun change => TracedTimer.stir (UnreliableTimer.change change))
    { timer := { timer := { resolution := .microsecond } } } 2 4 crowdedMoves _ rfl).2.2.2.2.2.2.2
    fits (fun place before asked ran _ => ran ▸ within place asked)
  exact ⟨same, by decide +kernel, by decide +kernel, by decide +kernel⟩

end TimerSystem

end Reactor
