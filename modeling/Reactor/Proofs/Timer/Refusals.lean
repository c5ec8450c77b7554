import Reactor.Proofs.Exec
import Reactor.Proofs.Hardware.Outages
import Reactor.Proofs.Timer.Decisions
import Reactor.Proofs.Timer.Deliveries

/-!
# Scheduling calls that fail

A scheduling call may be refused before it reaches the manager, may find that the hardware does not
stop, may find no room in the queue, or may find in the end that the hardware cannot be armed.
What is left behind depends on how far it came.
-/

namespace Reactor

/-! ## Room for those that wait already -/

namespace ScheduledQueue

variable {queue next : ScheduledQueue} {key : TimerId → Ticks} {id : TimerId}

theorem size_remove_le : (queue.remove key id).size ≤ queue.size := by
  have shorter := (List.erase_sublist (a := id) (l := queue.ids.toList)).length_le
  rw [← remove_perm.length_eq] at shorter
  exact shorter

/-- What leaves the queue leaves room for itself. -/
theorem admits_remove (fits : queue.heap.Fits) (queued : id ∈ queue.ids) :
    (queue.remove key id).heap.capacity.admits (queue.remove key id).size = true := by
  have listed := Array.mem_toList_iff.mpr queued
  have shorter : (queue.remove key id).ids.toList.length = queue.ids.toList.length - 1 :=
    remove_perm.length_eq.trans (List.length_erase_of_mem listed)
  have inside := List.length_pos_of_mem listed
  simp only [Array.length_toList] at shorter inside
  rw [capacity_remove]
  apply fits
  simp only [Roster.size, size, ids] at shorter inside ⊢
  omega

theorem fits_of_push? (pushed : queue.push? key id = some next) : next.heap.Fits := by
  obtain ⟨permuted, room, _⟩ := of_push? pushed
  have longer : next.heap.size = queue.heap.size + 1 := permuted.length_eq
  have admits : queue.heap.capacity.admits queue.heap.size = true := by
    rw [← Bool.not_eq_false]
    intro full
    rw [push?_eq_none_iff.mpr full] at pushed
    cases pushed
  intro place small
  rw [room]
  exact Capacity.admits_of_le (by omega) admits

end ScheduledQueue

theorem Timer.pending_of_settled {κ : Type} {timer : Timer κ}
    (pending : timer.settled.pending = true) : timer.pending = true := by
  rw [Timer.settled] at pending
  split at pending
  · next due => exact (Timer.isDue_iff.mp due).1
  · exact pending

namespace TimerSystem

open TimerManager

variable {H κ : Type} [HardwareTimer H] {system next : TimerSystem H κ}

theorem stage_queue_fits (fits : system.manager.queue.heap.Fits)
    (coherent : system.manager.IsCoherent) (stage : Stage system next) :
    next.manager.queue.heap.Fits := by
  have fits_withdrawn : ∀ id, (system.manager.withdrawn id).heap.Fits := fun id =>
    fits.of_le ScheduledQueue.capacity_remove ScheduledQueue.size_remove_le
  cases stage with
  | stopFailed | charged | restartFailed | restarted | givenUp | allocated | handedOver =>
      exact fits
  | turnedAway | retired | freed => exact fits_withdrawn _
  | queued idle owned held period_pos pushed => exact ScheduledQueue.fits_of_push? pushed
  | cleared idle =>
      have cleared := clearExpired_cleared coherent
      apply fits.of_le cleared.room
      have subset : system.manager.clearExpired.1.queue.ids.toList ⊆
          system.manager.queue.ids.toList := by
        intro id listed
        rw [Array.mem_toList_iff] at listed ⊢
        obtain ⟨timer, held, pending⟩ := (Coherent.queued_iff cleared.coherent id).mp listed
        rw [← timer?_eq_held?, cleared.timers, Option.map_eq_some_iff] at held
        obtain ⟨before, held, rfl⟩ := held
        exact Coherent.queued coherent held (Timer.pending_of_settled pending)
      exact (List.subperm_of_subset (Coherent.distinct cleared.coherent) subset).length_le

end TimerSystem

/-! ## How far a failing section comes -/

namespace TimerManager

variable {H κ : Type} [HardwareTimer H] {manager : TimerManager H κ} {id : TimerId}
  {timer : Timer κ} {mode : TimerMode} {ticks : Ticks} {callback : κ} {error : TimerError}

theorem timer?_startNext (manager : TimerManager H κ) (id : TimerId) :
    manager.startNext.1.timer? id = manager.timer? id := by
  rcases startNext_cases manager with
    ⟨_, result⟩ | ⟨front, _, ⟨_, _, _, result⟩ | ⟨_, _, result⟩⟩
  all_goals rw [result]
  all_goals rfl

/-- What a scheduling section that fails leaves behind: nothing but the hardware where that does not
stop, an idle timer where the queue is full, and the new schedule where the hardware cannot be
armed. -/
theorem schedule_of_failed (coherent : manager.IsCoherent)
    (held : manager.timer? id = some timer) (period_pos : mode = .periodic → 0 < ticks.count)
    (failed : (manager.schedule id mode ticks callback).answer = .error error) :
    (∃ hardware fault, HardwareTimer.stop manager.hardware = (hardware, .error fault) ∧
        manager.schedule id mode ticks callback =
          { manager := { manager with hardware }, answer := .error (.hardware fault) }) ∨
      ∃ reconciled notes, manager.reconcile = (reconciled, .ok notes) ∧
        ((∃ limit, error = .queueFull limit ∧
            (reconciled.withdrawn id).heap.capacity.admits (reconciled.withdrawn id).size = false ∧
            (manager.schedule id mode ticks callback).manager.timer? id =
              some (.turnedAway mode ticks)) ∨
          ∃ fault left hardware, error = .hardware fault ∧
            HardwareTimer.restart reconciled.hardware left = (hardware, .error fault) ∧
            (manager.schedule id mode ticks callback).manager.armed = false ∧
            (manager.schedule id mode ticks callback).manager.timer? id =
              some (Timer.waiting mode ticks ⟨manager.nextSerial, callback⟩).settled) := by
  have allocated := coherent.timer?_isSome_reconcile id
  have kept := coherent.reconcile
  have number := nextSerial_reconcile manager
  rcases reconciled : manager.reconcile with ⟨after, fault | notes⟩
  · left
    obtain ⟨_, hardware, stuck, rfl⟩ := stopFailed_of_reconcile reconciled
    exact ⟨hardware, fault, stuck, schedule_of_error held reconciled⟩
  · right
    refine ⟨after, notes, rfl, ?_⟩
    rw [reconciled] at kept allocated number
    obtain ⟨_, still_held⟩ := Option.isSome_iff_exists.mp
      (allocated.trans (by rw [held, Option.isSome_some]))
    have idle := armed_of_reconcile reconciled
    obtain ⟨coherent_after, still_idle⟩ := kept.enqueue callback still_held period_pos idle
    have cleared := clearExpired_cleared coherent_after
    obtain ⟨_, _, enqueued⟩ := enqueue_eq still_held mode ticks callback
    rw [schedule_of_ok held reconciled] at failed ⊢
    simp only at failed ⊢
    cases pushed : (after.withdrawn id).push?
        (remaining (after.slotsWaiting id mode ticks callback)) id with
    | none =>
        left
        rw [pushed] at enqueued
        rw [enqueued] at failed cleared ⊢
        cases failed
        have left_idle : ({ after.vacated id (some (.turnedAway mode ticks)) with
            nextSerial := after.nextSerial + 1 } : TimerManager H κ).timer? id =
              some (.turnedAway mode ticks) := by
          have vacated : (after.vacated id (some (.turnedAway mode ticks))).timer? id =
              if id = id then some (.turnedAway mode ticks) else after.timer? id :=
            timer?_vacated still_held _
          rwa [if_pos rfl] at vacated
        refine ⟨_, rfl, ScheduledQueue.push?_eq_none_iff.mp pushed, ?_⟩
        rw [timer?_startNext, cleared.timers, left_idle]
        rfl
    | some queue =>
        right
        rw [pushed] at enqueued
        rw [enqueued] at failed cleared still_idle ⊢
        have waits : held? (after.slotsWaiting id mode ticks callback) id =
            if id = id then some (.waiting mode ticks ⟨after.nextSerial, callback⟩)
            else after.timer? id := held?_slotsWaiting still_held
        rw [if_pos rfl, number] at waits
        have settled := cleared.timers id
        rw [timer?_eq_held? { after with queue, slots := _, nextSerial := _ }, waits] at settled
        have unarmed := cleared.armed.trans still_idle
        have same_hardware := congrArg TimerManager.hardware cleared.frame
        rw [timer?_startNext, settled]
        rcases startNext_cases (TimerManager.clearExpired { after with
          queue, slots := after.slotsWaiting id mode ticks callback
          nextSerial := after.nextSerial + 1 }).1 with
          ⟨_, result⟩ | ⟨front, _, ⟨hardware, fault, refused, result⟩ | ⟨_, _, result⟩⟩
        · rw [result] at failed
          cases failed
        · rw [result] at failed ⊢
          rw [same_hardware] at refused
          cases failed
          exact ⟨fault, _, hardware, rfl, refused, unarmed, rfl⟩
        · rw [result] at failed
          cases failed

end TimerManager

/-! ## Callbacks that are not scheduled -/

/-- The callback that a move schedules. -/
def OpenMove.callback? {δ κ : Type} : OpenMove δ κ → Option κ
  | .use (.schedule _ _ _ _ callback) => some callback
  | _ => none

/-- No schedule in the history is for the callback. -/
def Unscheduled {κ : Type} (callback : κ) (history : List (Entry κ)) : Prop :=
  ∀ entry ∈ history, ∀ id mode ticks serial,
    entry.event ≠ .scheduled id mode ticks serial callback

theorem Unscheduled.append {κ : Type} {callback : κ} {history : List (Entry κ)}
    (unscheduled : Unscheduled callback history) {time : Nat} {events : List (TimerEvent κ)}
    (others : ∀ event ∈ events, ∀ id mode ticks serial,
      event ≠ .scheduled id mode ticks serial callback) :
    Unscheduled callback (history ++ events.map (Entry.mk time)) := by
  intro entry member
  rcases List.mem_append.mp member with earlier | recorded
  · exact unscheduled entry earlier
  · obtain ⟨event, listed, rfl⟩ := List.mem_map.mp recorded
    exact others event listed

namespace TimerSystem

open TimerManager

variable {δ H κ : Type} {system : TimerSystem H κ} {callback : κ}

theorem Unscheduled.commit {α : Type} (unscheduled : Unscheduled callback system.history)
    (done : TimerSection H κ α) {decided : List (TimerEvent κ)}
    (others : ∀ event ∈ decided, ∀ id mode ticks serial,
      event ≠ .scheduled id mode ticks serial callback) :
    Unscheduled callback (system.commit done decided).history := by
  rw [history_commit]
  apply unscheduled.append
  intro event member
  rcases List.mem_append.mp member with section_member | passing
  · rcases List.mem_append.mp section_member with charging | decision
    · obtain ⟨elapsed, rfl⟩ := mem_chargesOf charging
      simp
    · exact others event decision
  · rcases mem_passOf passing with ⟨expiry, _, rfl⟩ | rfl <;> simp

variable [HardwareTimer H] {change : δ → H → H}

/-- A callback stays unscheduled until a move schedules it. -/
theorem unscheduled_undergo (unscheduled : Unscheduled callback system.history)
    {move : OpenMove δ κ} (other : move.callback? ≠ some callback) :
    Unscheduled callback (system.undergo change move).history := by
  have retired : ∀ id, Unscheduled callback (system.retire id).history := by
    intro id
    have cancelled : Unscheduled callback (system.record [.cancelled id]).history :=
      unscheduled.append (by simp)
    exact Unscheduled.commit cancelled _ (by simp)
  cases move with
  | stir | abandon | deliver | teardown => exact unscheduled
  | use move =>
      rw [undergo]
      split
      case isFalse => exact unscheduled
      cases move with
      | allocate | handOver =>
          rw [perform]
          split
          all_goals first | exact unscheduled | exact unscheduled.append (by simp)
      | cancel id | release id =>
          rw [perform]
          split
          · exact retired id
          · exact unscheduled
      | free id =>
          rw [perform]
          split
          · have freed : Unscheduled callback (system.record [.freed id]).history :=
              unscheduled.append (by simp)
            exact Unscheduled.commit freed _ (by simp)
          · exact unscheduled
      | expire => exact Unscheduled.commit unscheduled _ (by simp)
      | schedule id mode delay footprint scheduled =>
          rw [perform]
          split
          case isFalse => exact unscheduled
          split
          case h_2 => exact unscheduled
          apply Unscheduled.commit unscheduled
          rintro event member _ _ _ _ rfl
          apply other
          rw [decision] at member
          split at member
          · cases member
          · split at member
            · cases List.mem_singleton.mp member
            · cases List.mem_singleton.mp member
              rfl

/-- After some moves the callback is not handed over, whatever follows, unless it is scheduled
again. -/
def NeverRuns (change : δ → H → H) (hardware : H) (storage : TimerStorage)
    (moves : List (OpenMove δ κ)) (callback : κ) : Prop :=
  ∀ later : List (OpenMove δ κ), (∀ move ∈ later, move.callback? ≠ some callback) →
    ∀ expiry ∈ (openRun change hardware storage (moves ++ later)).inFlight,
      expiry.callback ≠ callback

theorem unscheduled_openRun {hardware : H} {storage : TimerStorage}
    {moves later : List (OpenMove δ κ)}
    (unscheduled : Unscheduled callback (openRun change hardware storage moves).history)
    (others : ∀ move ∈ later, move.callback? ≠ some callback) :
    Unscheduled callback (openRun change hardware storage (moves ++ later)).history := by
  induction later using List.reverseRecOn with
  | nil => rwa [List.append_nil]
  | append_singleton later move induction =>
      rw [← List.append_assoc, openRun_concat]
      apply unscheduled_undergo
      · exact induction fun move member => others move (List.mem_append_left _ member)
      · exact others move (by simp)

theorem neverRuns_of_unscheduled {hardware : H} {storage : TimerStorage}
    {moves : List (OpenMove δ κ)}
    (unscheduled : Unscheduled callback (openRun change hardware storage moves).history) :
    NeverRuns change hardware storage moves callback := by
  rintro later others expiry in_flight rfl
  have numbered := (openRun_sound change hardware storage (moves ++ later)).2
  obtain ⟨before, time, mode, ticks, after, split_at⟩ := numbered.inFlight expiry in_flight
  refine unscheduled_openRun unscheduled others
    ⟨time, .scheduled expiry.id mode ticks expiry.serial expiry.callback⟩ ?_ _ _ _ _ rfl
  rw [split_at]
  exact List.mem_append_right _ (List.mem_cons_self ..)

/-! ## What a failing call leaves behind -/

variable {storage : TimerStorage} {id : TimerId} {mode : TimerMode} {delay : Duration}
  {footprint : Footprint} {ticks : Ticks} {error : TimerError}

theorem queue_reconcile (manager : TimerManager H κ) :
    manager.reconcile.1.queue = manager.queue := by
  rcases reconcile_cases manager with ⟨_, result⟩ | ⟨hardware, fault, _, _, result⟩ |
    ⟨hardware, _, _, result⟩
  all_goals rw [result]
  rfl

/-- No timer that waits is turned away, and none at all where the queue has room for all. -/
theorem WellFormed.of_full (wellFormed : system.WellFormed)
    (housed : system.manager.Housed storage) (fits : system.manager.queue.heap.Fits)
    (owned : id ∈ system.handles) {reconciled : TimerManager H κ} {notes : List TimerNote}
    (stopped : system.manager.reconcile = (reconciled, .ok notes))
    (full : (reconciled.withdrawn id).heap.capacity.admits
      (reconciled.withdrawn id).size = false) :
    ¬storage.QueuesAll ∧ system.manager.isPending id = false := by
  obtain ⟨timer, held⟩ := wellFormed.exists_timer (Or.inl owned)
  have same : reconciled = system.manager.reconcile.1 := by rw [stopped]
  rw [same] at full
  constructor
  · intro queues_all
    have kept : system.reconciled.WellFormed ∧ system.reconciled.manager.Housed storage := by
      apply (stages_reconciled system).keep
        (fun system => system.WellFormed ∧ system.manager.Housed storage) ⟨wellFormed, housed⟩
      rintro system next ⟨wellFormed, housed⟩ stage
      exact ⟨wellFormed.stage stage, stage_housed housed wellFormed.coherent stage⟩
    obtain ⟨_, still_held⟩ := kept.1.exists_timer (Or.inl owned)
    have room := kept.2.admits_withdrawn kept.1.coherent queues_all still_held
    exact Bool.false_ne_true (full.symm.trans room)
  · rw [isPending, held, Option.any_some, Bool.eq_false_iff]
    intro pending
    have queued := Coherent.queued wellFormed.coherent held pending
    rw [← queue_reconcile] at fits queued
    exact Bool.false_ne_true (full.symm.trans (ScheduledQueue.admits_remove fits queued))

/-- What a call leaves of a system when it comes no further than to a stop of the hardware that
fails. -/
def Untouched (before next : TimerSystem H κ) : Prop :=
  ∃ hardware,
    (hardware = before.manager.hardware ∨
      ∃ fault, HardwareTimer.stop before.manager.hardware = (hardware, .error fault)) ∧
    next = { before with manager := { before.manager with hardware } }

theorem Untouched.refl (system : TimerSystem H κ) : Untouched system system :=
  ⟨system.manager.hardware, Or.inl rfl, rfl⟩

theorem WellFormed.perform_schedule_failed (wellFormed : system.WellFormed)
    (housed : system.manager.Housed storage) (fits : system.manager.queue.heap.Fits)
    (owned : id ∈ system.handles)
    (accepted : system.manager.accept mode delay footprint = .ok ticks)
    (failed : (system.manager.schedule id mode ticks callback).answer = .error error)
    {next : TimerSystem H κ}
    (performed : next = system.perform (.schedule id mode delay footprint callback)) :
    (Untouched system next ∧
        (system.manager.schedule id mode ticks callback).notes = [] ∧
        (system.manager.schedule id mode ticks callback).fired = []) ∨
      ∃ reconciled notes, system.manager.reconcile = (reconciled, .ok notes) ∧
        ((∃ limit, error = .queueFull limit ∧ ¬storage.QueuesAll ∧
            system.manager.isPending id = false ∧ plan? id next.history = none ∧
            (Unscheduled callback system.history → Unscheduled callback next.history)) ∨
          ∃ fault left hardware, error = .hardware fault ∧
            HardwareTimer.restart reconciled.hardware left = (hardware, .error fault) ∧
            next.manager.armed = false ∧
            next.manager.timer? id =
              some (Timer.waiting mode ticks ⟨system.manager.nextSerial, callback⟩).settled) := by
  obtain ⟨timer, held⟩ := wellFormed.exists_timer (Or.inl owned)
  have next_wellFormed := wellFormed.perform (.schedule id mode delay footprint callback)
  rw [← performed] at next_wellFormed
  rw [perform_schedule owned accepted] at performed
  have manager_eq : next.manager = (system.manager.schedule id mode ticks callback).manager := by
    rw [performed]
    rfl
  rcases schedule_of_failed wellFormed.coherent held (period_pos_of_accept accepted) failed with
    ⟨hardware, fault, stuck, result⟩ | ⟨reconciled, notes, stopped, full | unarmed⟩
  · left
    rw [result, decision, if_pos rfl, commit_eq_self _ _ rfl rfl] at performed
    rw [result]
    exact ⟨⟨hardware, Or.inr ⟨fault, stuck⟩, performed⟩, rfl, rfl⟩
  · right
    obtain ⟨limit, rfl, full, left_idle⟩ := full
    obtain ⟨crowded, idle⟩ := wellFormed.of_full housed fits owned stopped full
    refine ⟨reconciled, notes, stopped, Or.inl ⟨limit, rfl, crowded, idle, ?_, ?_⟩⟩
    · have accounted := next_wellFormed.accounted id
      rw [manager_eq, left_idle, Option.bind_some] at accounted
      exact Option.map_eq_none_iff.mp accounted.symm
    · intro unscheduled
      rw [performed]
      apply Unscheduled.commit unscheduled
      intro event member
      rw [decision, failed] at member
      split at member
      · cases member
      · rw [List.mem_singleton.mp member]
        simp
  · right
    rw [manager_eq]
    exact ⟨reconciled, notes, stopped, Or.inr unarmed⟩

end TimerSystem

/-! ## Calls in their surroundings -/

namespace TimerService

variable {σ H κ α : Type} {service : TimerService σ H κ} {world after : σ}

/-- A section whose run comes to an answer comes to that of the manager. -/
theorem answer_of_commit {act : TimerManager H κ → TimerSection H κ α} {answer : α}
    (done : (service.commit act).runFrom world = (.ok answer, after)) :
    answer = (act (service.manager.get world)).answer := by
  rw [commit, Exec.runFrom_bind, Part.runFrom_read] at done
  obtain ⟨_, _, _, reported⟩ := Exec.of_runFrom_bind_ok done
  obtain ⟨_, _, _, handed⟩ := Exec.of_runFrom_bind_ok reported
  obtain ⟨_, _, _, answered⟩ := Exec.of_runFrom_bind_ok handed
  rw [Exec.runFrom_pure, Prod.mk.injEq, Except.ok.injEq] at answered
  exact answered.1.symm

/-- A section that reports nothing and hands nothing over. -/
theorem runFrom_commit_of_silent {act : TimerManager H κ → TimerSection H κ α}
    (silent : (act (service.manager.get world)).notes = [])
    (none_fired : (act (service.manager.get world)).fired = []) :
    (service.commit act).runFrom world =
      (.ok (act (service.manager.get world)).answer,
        service.manager.set (act (service.manager.get world)).manager world) := by
  simp only [commit, Exec.runFrom_bind, Part.runFrom_read, Part.runFrom_write, silent, none_fired,
    Exec.runFrom_forM_nil, Exec.runFrom_pure]

variable [HardwareTimer H]

/-- The outcome of a call that is refused. -/
def outcomeOf : TimerManager.Refusal → Except Halt (Except TimerError Unit)
  | .panic message => .error (.panic message)
  | .error error => .ok (.error error)

theorem runFrom_schedule_of_refused (id : TimerId) {mode : TimerMode} {delay : Duration}
    {footprint : Footprint} {refusal : TimerManager.Refusal} (callback : κ)
    (refused : (service.manager.get world).accept mode delay footprint = .error refusal) :
    (service.schedule (some id) mode delay footprint callback).runFrom world =
      (outcomeOf refusal, world) := by
  simp only [schedule, Exec.runFrom_bind, Part.runFrom_read, refused]
  cases refusal <;> rfl

theorem runFrom_schedule_of_accepted (id : TimerId) {mode : TimerMode} {delay : Duration}
    {footprint : Footprint} {ticks : Ticks} (callback : κ)
    (accepted : (service.manager.get world).accept mode delay footprint = .ok ticks) :
    (service.schedule (some id) mode delay footprint callback).runFrom world =
      (service.commit (·.schedule id mode ticks callback)).runFrom world := by
  simp only [schedule, Exec.runFrom_bind, Part.runFrom_read, accepted]

end TimerService

namespace TimerSystem

open TimerManager

variable {δ H κ : Type} [HardwareTimer H] {change : δ → H → H}

/-- A call through a handle as a move; a handle that has been released makes none. -/
def callThrough (handle : Option TimerId) (mode : TimerMode) (delay : Duration)
    (footprint : Footprint) (callback : κ) : List (OpenMove δ κ) :=
  handle.toList.map fun id => .use (.schedule id mode delay footprint callback)

theorem openRun_housed (change : δ → H → H) (hardware : H) (storage : TimerStorage)
    (moves : List (OpenMove δ κ)) :
    (openRun change hardware storage moves).manager.Housed storage ∧
      (openRun change hardware storage moves).manager.queue.heap.Fits := by
  refine ⟨housed_openRun change hardware storage moves, ?_⟩
  apply openRun_keeps_of_stages fun system => system.manager.queue.heap.Fits
  · exact fun size small => absurd small (Nat.not_lt_zero size)
  · exact fun _ _ wellFormed fits stage => stage_queue_fits fits wellFormed.coherent stage
  · intro system move fits others
    cases move with
    | use asked => exact absurd rfl (others asked)
    | stir | abandon | deliver | teardown => exact fits

omit [HardwareTimer H] in
theorem misfit?_of_accept {manager : TimerManager H κ} {mode : TimerMode} {delay : Duration}
    {footprint : Footprint} {ticks : Ticks}
    (accepted : manager.accept mode delay footprint = .ok ticks) :
    manager.housing.misfit? footprint = none := by
  rw [accept] at accepted
  split at accepted
  · cases accepted
  · split at accepted
    · cases accepted
    · split at accepted
      · cases accepted
      · next fits => exact fits

/-- A scheduling call that fails leaves the schedules as they were and its callback unheard of,
unless the hardware could be stopped and then the queue was full or the hardware could not be armed.
A full queue costs a timer that has fired its schedule; where arming fails, the new schedule is in
force. -/
theorem effect_of_failed_schedule (change : δ → H → H) (hardware : H) (storage : TimerStorage)
    (moves : List (OpenMove δ κ)) (handle : Option TimerId) (mode : TimerMode) (delay : Duration)
    (footprint : Footprint) (callback : κ) (system next : TimerSystem H κ)
    (before_call : system = openRun change hardware storage moves)
    (after_call : next = openRun change hardware storage
      (moves ++ callThrough handle mode delay footprint callback))
    (alive : system.alive = true) (owned : ∀ id ∈ handle, id ∈ system.handles)
    (unused : ∀ move ∈ moves, move.callback? ≠ some callback)
    {σ : Type} (service : TimerService σ H κ) (world after : σ)
    (shown : service.manager.get world = system.manager)
    (outcome : Except Halt (Except TimerError Unit))
    (called : (service.schedule handle mode delay footprint callback).runFrom world =
      (outcome, after))
    (failed : (∃ error, outcome = .ok (.error error)) ∨
      ∃ misfit, system.manager.housing.misfit? footprint = some misfit ∧
        outcome = .error (.panic misfit.message)) :
    (Untouched system next ∧ (after = world ∨ after = service.manager.set next.manager world) ∧
        NeverRuns change hardware storage
          (moves ++ callThrough handle mode delay footprint callback) callback) ∨
      ∃ id ticks reconciled notes, handle = some id ∧
        system.manager.accept mode delay footprint = .ok ticks ∧
        system.manager.reconcile = (reconciled, .ok notes) ∧
        ((∃ limit, outcome = .ok (.error (.queueFull limit)) ∧ ¬storage.QueuesAll ∧
            system.manager.isPending id = false ∧ plan? id next.history = none ∧
            NeverRuns change hardware storage
              (moves ++ callThrough handle mode delay footprint callback) callback) ∨
          ∃ fault left refusing, outcome = .ok (.error (.hardware fault)) ∧
            HardwareTimer.restart reconciled.hardware left = (refusing, .error fault) ∧
            next.manager.armed = false ∧
            next.manager.timer? id =
              some (Timer.waiting mode ticks ⟨system.manager.nextSerial, callback⟩).settled) := by
  have nothing_yet : Unscheduled callback (openRun change hardware storage []).history := by
    simp [Unscheduled, openRun, fresh]
  have unscheduled := unscheduled_openRun nothing_yet unused
  rw [List.nil_append, ← before_call] at unscheduled
  -- The history names every callback that was ever scheduled, and no other is handed over.
  have never_runs : Unscheduled callback next.history → NeverRuns change hardware storage
      (moves ++ callThrough handle mode delay footprint callback) callback := by
    rw [after_call]
    exact neverRuns_of_unscheduled
  cases handle with
  | none =>
      left
      have same : next = system := by
        rw [after_call, before_call, callThrough, Option.toList_none, List.map_nil, List.append_nil]
      cases called
      rw [same] at never_runs ⊢
      exact ⟨.refl system, Or.inl rfl, never_runs unscheduled⟩
  | some id =>
      have performed : next = system.perform (.schedule id mode delay footprint callback) := by
        rw [after_call, callThrough, Option.toList_some, List.map_singleton, openRun_concat,
          ← before_call, undergo, if_pos alive]
      have owned_id := owned id rfl
      cases accepted : system.manager.accept mode delay footprint with
      | error refusal =>
          left
          have same : next = system := by
            rw [performed, perform, if_pos owned_id, accepted]
          rw [TimerService.runFrom_schedule_of_refused id callback (shown ▸ accepted)] at called
          cases called
          rw [same] at never_runs ⊢
          exact ⟨.refl system, Or.inl rfl, never_runs unscheduled⟩
      | ok ticks =>
          rw [TimerService.runFrom_schedule_of_accepted id callback (shown ▸ accepted)] at called
          obtain ⟨error, rfl⟩ | ⟨misfit, misfits, _⟩ := failed
          case inr =>
            rw [misfit?_of_accept accepted] at misfits
            cases misfits
          have answered := TimerService.answer_of_commit called
          rw [shown] at answered
          obtain ⟨wellFormed, _⟩ := openRun_sound change hardware storage moves
          obtain ⟨housed, fits⟩ := openRun_housed change hardware storage moves
          rw [← before_call] at wellFormed housed fits
          rcases wellFormed.perform_schedule_failed housed fits owned_id accepted answered.symm
            performed with ⟨untouched, silent, none_fired⟩ |
            ⟨reconciled, notes, stopped, full | unarmed⟩
          · left
            have manager_eq : next.manager =
                (system.manager.schedule id mode ticks callback).manager := by
              rw [performed, perform_schedule owned_id accepted]
              rfl
            rw [← shown] at silent none_fired manager_eq
            rw [TimerService.runFrom_commit_of_silent silent none_fired, ← manager_eq] at called
            refine ⟨untouched, Or.inr (Prod.mk.inj called).2.symm, never_runs ?_⟩
            obtain ⟨_, _, rfl⟩ := untouched
            exact unscheduled
          · right
            obtain ⟨limit, rfl, crowded, idle, unplanned, kept⟩ := full
            exact ⟨id, ticks, reconciled, notes, rfl, rfl, stopped,
              Or.inl ⟨limit, rfl, crowded, idle, unplanned, never_runs (kept unscheduled)⟩⟩
          · right
            obtain ⟨fault, left, refusing, rfl, refused, unarmed, waits⟩ := unarmed
            exact ⟨id, ticks, reconciled, notes, rfl, rfl, stopped,
              Or.inr ⟨fault, left, refusing, rfl, refused, unarmed, waits⟩⟩

/-- The system that a run over unreliable hardware leaves. -/
def unreliableRun (moves : List (OpenMove UnreliableTimer.Change Nat)) :
    TimerSystem UnreliableTimer Nat :=
  openRun UnreliableTimer.change { timer := { resolution := .microsecond } } .growing moves

/-- A timer waits, and then the hardware does not stop. -/
def stuckMoves : List (OpenMove UnreliableTimer.Change Nat) :=
  [.use .allocate, .use (.schedule ⟨0⟩ .oneshot (.ofMicros 30) { bytes := 8 } 1),
    .stir (.tick (.clamp 10)), .stir (.stopOutage ⟨1, .broken "stuck register"⟩)]

/-- A timer that cannot be scheduled again waits on under its earlier schedule. -/
theorem stuck_hardware_keeps_schedule :
    (unreliableRun stuckMoves).alive = true ∧ ⟨0⟩ ∈ (unreliableRun stuckMoves).handles ∧
    ∀ {σ : Type} (service : TimerService σ UnreliableTimer Nat) (world : σ),
      service.manager.get world = (unreliableRun stuckMoves).manager →
      ((service.schedule (some ⟨0⟩) .oneshot (.ofMicros 5) { bytes := 8 } 2).runFrom world).1 =
          .ok (.error (.hardware (.broken "stuck register"))) ∧
        Untouched (unreliableRun stuckMoves) (unreliableRun
          (stuckMoves ++ callThrough (some ⟨0⟩) .oneshot (.ofMicros 5) { bytes := 8 } 2)) ∧
        NeverRuns UnreliableTimer.change { timer := { resolution := .microsecond } } .growing
          (stuckMoves ++ callThrough (some ⟨0⟩) .oneshot (.ofMicros 5) { bytes := 8 } 2) 2 := by
  refine ⟨by decide +kernel, by decide +kernel, ?_⟩
  intro σ service world shown
  have accepted : (service.manager.get world).accept .oneshot (.ofMicros 5) { bytes := 8 } =
      .ok (.clamp 5) := by
    have ticks : (Duration.ofMicros 5).toTicks? (unreliableRun stuckMoves).manager.resolution =
        some (.clamp 5) := by decide +kernel
    have boxed : (unreliableRun stuckMoves).manager.housing = .boxed := by decide +kernel
    simp [accept, shown, ticks, boxed]
  have answered : ((unreliableRun stuckMoves).manager.schedule ⟨0⟩ .oneshot (.clamp 5) 2).answer =
      .error (.hardware (.broken "stuck register")) := by decide +kernel
  have called := TimerService.runFrom_schedule_of_accepted ⟨0⟩ 2 accepted
  rw [TimerService.runFrom_commit_of_silent] at called
  case silent =>
    rw [shown, ← List.isEmpty_iff]
    decide +kernel
  case none_fired =>
    rw [shown]
    decide +kernel
  rw [shown, answered] at called
  refine ⟨congrArg Prod.fst called, ?_⟩
  rcases effect_of_failed_schedule UnreliableTimer.change
    { timer := { resolution := .microsecond } } .growing stuckMoves (some ⟨0⟩) .oneshot
    (.ofMicros 5) { bytes := 8 } 2 _ _ rfl rfl (by decide +kernel) (by decide +kernel)
    (by decide) service world _ shown _ called (Or.inl ⟨_, rfl⟩) with
    ⟨untouched, _, never_runs⟩ | ⟨_, _, reconciled, notes, _, _, stopped, _⟩
  · exact ⟨untouched, never_runs⟩
  · have stuck : (unreliableRun stuckMoves).manager.reconcile.2.toOption.isNone = true := by
      decide +kernel
    rw [unreliableRun, stopped] at stuck
    cases stuck

/-- Two timers are idle when the hardware cannot be armed. -/
def unarmedMoves : List (OpenMove UnreliableTimer.Change Nat) :=
  [.use .allocate, .use .allocate, .stir (.restartOutage ⟨1, .broken "stuck register"⟩)]

/-- The other timer is scheduled, and the hardware counts and expires. -/
def rearmedMoves : List (OpenMove UnreliableTimer.Change Nat) :=
  [.use (.schedule ⟨1⟩ .oneshot (.ofMicros 10) { bytes := 8 } 2), .stir (.tick (.clamp 5)),
    .use .expire, .use (.handOver 0)]

/-- A call reports that the hardware cannot be armed, and yet its callback is handed over and runs
once another call has armed the hardware. -/
theorem unarmed_hardware_runs_refused_callback :
    (unreliableRun unarmedMoves).alive = true ∧ ⟨0⟩ ∈ (unreliableRun unarmedMoves).handles ∧
    (∀ move ∈ unarmedMoves ++ rearmedMoves, move.callback? ≠ some 1) ∧
    ((unreliableRun unarmedMoves).manager.schedule ⟨0⟩ .oneshot (.clamp 5) 1).answer =
      .error (.hardware (.broken "stuck register")) ∧
    ∀ system, system = unreliableRun (unarmedMoves ++
        callThrough (some ⟨0⟩) .oneshot (.ofMicros 5) { bytes := 8 } 1 ++ rearmedMoves) →
      system.inFlight = [⟨⟨0⟩, 0, 1⟩] ∧
      ∀ {σ : Type} (service : TimerService σ UnreliableTimer Nat) (world : σ),
        service.manager.get world = system.manager → service.alive.get world = true →
        (service.deliver ⟨⟨0⟩, 0, 1⟩).runFrom world = (service.call 1).runFrom world := by
  refine ⟨by decide +kernel, by decide +kernel, by decide, by decide +kernel, ?_⟩
  rintro system rfl
  refine ⟨by decide +kernel, ?_⟩
  intro σ service world shown living
  have current : (service.manager.get world).isCurrent ⟨0⟩ 0 = true := by
    rw [shown]
    decide +kernel
  simp only [TimerService.runFrom_deliver, current, living, Bool.and_self, if_true]

end TimerSystem

end Reactor
