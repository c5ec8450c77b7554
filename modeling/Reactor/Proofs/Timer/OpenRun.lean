import Reactor.Proofs.Timer.Numbers
import Reactor.Proofs.Timer.Room

/-!
# Runs in the open

The surroundings of a manager do more than use it.  The hardware does what it likes between two
sections, a panic loses callbacks that are about to be handed over, the dispatcher runs what it was
handed in any order, and in the end the manager is torn down.  An open run is any list of such
moves; the moves of users have no effect once the manager is gone.
-/

namespace Reactor

/-- What happens to a manager, where `δ` are the changes that the hardware makes by itself. -/
inductive OpenMove (δ κ : Type) where
  /-- Someone uses the manager. -/
  | use (move : TimerMove κ)
  /-- The hardware changes by itself. -/
  | stir (change : δ)
  /-- A panic loses a callback that was about to be handed over. -/
  | abandon (place : Nat)
  /-- The dispatcher runs a callback that it was handed. -/
  | deliver (place : Nat)
  /-- The manager is torn down. -/
  | teardown

namespace TimerSystem

variable {δ H κ : Type} [HardwareTimer H]

/-- The system after a move, where `change` says what the hardware makes of a change. -/
def undergo (change : δ → H → H) (system : TimerSystem H κ) : OpenMove δ κ → TimerSystem H κ
  | .use move => if system.alive then system.perform move else system
  | .stir cause =>
      { system with
        manager := { system.manager with hardware := change cause system.manager.hardware } }
  | .abandon place => { system with collected := system.collected.eraseIdx place }
  | .deliver place => { system with inFlight := system.inFlight.eraseIdx place }
  | .teardown =>
      { system with
        manager := system.manager.teardown.manager
        alive := false }

/-- The system after an open run with a new manager. -/
def openRun (change : δ → H → H) (hardware : H) (storage : TimerStorage)
    (moves : List (OpenMove δ κ)) : TimerSystem H κ :=
  moves.foldl (undergo change) (fresh hardware storage)

variable {change : δ → H → H} {system : TimerSystem H κ} {hardware : H} {storage : TimerStorage}

/-- What every move keeps, every open run keeps. -/
theorem openRun_keeps (kept : TimerSystem H κ → Prop) (start : kept (fresh hardware storage))
    (step : ∀ system move, kept system → kept (system.undergo change move))
    (moves : List (OpenMove δ κ)) : kept (openRun change hardware storage moves) := by
  rw [openRun]
  generalize fresh hardware storage = system at start
  induction moves generalizing system with
  | nil => exact start
  | cons move moves induction => exact induction _ (step system move start)

theorem openRun_concat (hardware : H) (storage : TimerStorage) (moves : List (OpenMove δ κ))
    (move : OpenMove δ κ) : openRun change hardware storage (moves ++ [move]) =
      (openRun change hardware storage moves).undergo change move := by
  rw [openRun, List.foldl_append]
  rfl

omit [HardwareTimer H] in
/-- A system that only the hardware, the dispatcher and the end of the manager have touched. -/
theorem WellFormed.touch {next : TimerSystem H κ} (wellFormed : system.WellFormed)
    (slots : next.manager.slots = system.manager.slots)
    (queue : next.manager.queue = system.manager.queue)
    (handles : next.handles = system.handles) (releasing : next.releasing = system.releasing)
    (history : next.history = system.history) : next.WellFormed := by
  have timers : ∀ id, next.manager.timer? id = system.manager.timer? id := by
    intro id
    rw [TimerManager.timer?, slots, TimerManager.timer?]
  constructor
  · exact wellFormed.coherent.congr slots queue
  · intro id
    rw [timers, handles, releasing]
    exact wellFormed.allocated_iff id
  · rw [handles, releasing]
    exact wellFormed.distinct
  · rw [releasing, history]
    exact wellFormed.unplanned
  · intro id
    rw [timers, history]
    exact wellFormed.accounted id

theorem WellFormed.undergo (wellFormed : system.WellFormed) (move : OpenMove δ κ) :
    (system.undergo change move).WellFormed := by
  cases move with
  | use move =>
      rw [TimerSystem.undergo]
      split
      · exact wellFormed.perform move
      · exact wellFormed
  | stir | abandon | deliver | teardown => exact wellFormed.touch rfl rfl rfl rfl rfl

theorem Numbered.undergo (numbered : system.Numbered) (wellFormed : system.WellFormed)
    (move : OpenMove δ κ) : (system.undergo change move).Numbered := by
  obtain ⟨next_eq, counts, collected, in_flight⟩ := numbered
  cases move with
  | use move =>
      rw [TimerSystem.undergo]
      split
      · exact wellFormed.perform_keeps Numbered ⟨next_eq, counts, collected, in_flight⟩
          (fun _ _ wellFormed numbered stage => numbered.stage wellFormed stage) move
      · exact ⟨next_eq, counts, collected, in_flight⟩
  | stir | teardown => exact ⟨next_eq, counts, collected, in_flight⟩
  | abandon place =>
      exact ⟨next_eq, counts,
        fun expiry waits => collected expiry (List.mem_of_mem_eraseIdx waits), in_flight⟩
  | deliver place =>
      exact ⟨next_eq, counts, collected,
        fun expiry waits => in_flight expiry (List.mem_of_mem_eraseIdx waits)⟩

theorem housed_undergo (housed : system.manager.Housed storage)
    (wellFormed : system.WellFormed) (move : OpenMove δ κ) :
    (system.undergo change move).manager.Housed storage := by
  cases move with
  | use move =>
      rw [TimerSystem.undergo]
      split
      · exact wellFormed.perform_keeps (fun system => system.manager.Housed storage) housed
          (fun _ _ wellFormed housed stage => stage_housed housed wellFormed.coherent stage) move
      · exact housed
  | stir | abandon | deliver | teardown =>
      exact ⟨housed.slots, housed.queue, housed.fired, housed.within⟩

theorem openRun_sound (change : δ → H → H) (hardware : H) (storage : TimerStorage)
    (moves : List (OpenMove δ κ)) :
    (openRun change hardware storage moves).WellFormed ∧
      (openRun change hardware storage moves).Numbered := by
  apply openRun_keeps (fun system => system.WellFormed ∧ system.Numbered)
  · exact ⟨wellFormed_fresh hardware storage, numbered_fresh hardware storage⟩
  · rintro system move ⟨wellFormed, numbered⟩
    exact ⟨wellFormed.undergo move, numbered.undergo wellFormed move⟩

/-- What every stage of a section keeps and no move of the surroundings touches, every open run
keeps. -/
theorem openRun_keeps_of_stages (kept : TimerSystem H κ → Prop)
    (start : kept (fresh hardware storage))
    (stage_keeps : ∀ system next : TimerSystem H κ, system.WellFormed → kept system →
      Stage system next → kept next)
    (surroundings_keep : ∀ (system : TimerSystem H κ) (move : OpenMove δ κ), kept system →
      (∀ asked, move ≠ .use asked) → kept (system.undergo change move))
    (moves : List (OpenMove δ κ)) : kept (openRun change hardware storage moves) := by
  have both : (openRun change hardware storage moves).WellFormed ∧
      kept (openRun change hardware storage moves) := by
    apply openRun_keeps fun system => system.WellFormed ∧ kept system
    · exact ⟨wellFormed_fresh hardware storage, start⟩
    · rintro system move ⟨wellFormed, before⟩
      refine ⟨wellFormed.undergo move, ?_⟩
      cases move with
      | use asked =>
          rw [undergo]
          split
          · exact wellFormed.perform_keeps kept before stage_keeps asked
          · exact before
      | stir | abandon | deliver | teardown =>
          exact surroundings_keep system _ before (by simp)
  exact both.2

theorem housed_openRun (change : δ → H → H) (hardware : H) (storage : TimerStorage)
    (moves : List (OpenMove δ κ)) :
    (openRun change hardware storage moves).manager.Housed storage := by
  apply openRun_keeps_of_stages fun system => system.manager.Housed storage
  · exact housed_fresh hardware storage
  · exact fun _ _ wellFormed housed stage => stage_housed housed wellFormed.coherent stage
  · rintro system move ⟨slots, queue, fired, within⟩ others
    cases move with
    | use asked => exact absurd rfl (others asked)
    | stir | abandon | deliver | teardown => exact ⟨slots, queue, fired, within⟩

/-- A queue with room for all timers turns none away. -/
theorem noneTurnedAway_openRun (queues_all : storage.QueuesAll) (change : δ → H → H)
    (hardware : H) (moves : List (OpenMove δ κ)) :
    NoneTurnedAway (openRun change hardware storage moves).history := by
  have both : (openRun change hardware storage moves).manager.Housed storage ∧
      NoneTurnedAway (openRun change hardware storage moves).history := by
    apply openRun_keeps_of_stages fun system =>
      system.manager.Housed storage ∧ NoneTurnedAway system.history
    · exact ⟨housed_fresh hardware storage, fun entry member => absurd member List.not_mem_nil⟩
    · rintro system next wellFormed ⟨housed, none_turned_away⟩ stage
      exact ⟨stage_housed housed wellFormed.coherent stage,
        stage_noneTurnedAway queues_all housed wellFormed.coherent none_turned_away stage⟩
    · rintro system move ⟨⟨slots, queue, fired, within⟩, none_turned_away⟩ others
      cases move with
      | use asked => exact absurd rfl (others asked)
      | stir | abandon | deliver | teardown =>
          exact ⟨⟨slots, queue, fired, within⟩, none_turned_away⟩
  exact both.2

end TimerSystem

end Reactor
