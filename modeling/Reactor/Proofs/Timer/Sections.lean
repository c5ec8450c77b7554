import Reactor.Proofs.Timer.Sweep

/-!
# Sections of a timer manager

A section reconciles, decides, fires what is due and arms the hardware.  Each of these stages is
described here by itself, and each section as the stages that it goes through.
-/

namespace Reactor

namespace TimerManager

variable {H κ : Type} {manager next : TimerManager H κ} {id other : TimerId} {timer : Timer κ}

theorem IsCoherent.congr (coherent : manager.IsCoherent) (slots : next.slots = manager.slots)
    (queue : next.queue = manager.queue) : next.IsCoherent := by
  rw [IsCoherent, slots, queue]
  exact coherent

/-! ## Leaving the queue -/

/-- The queue without one timer. -/
def withdrawn (manager : TimerManager H κ) (id : TimerId) : ScheduledQueue :=
  manager.queue.remove (remaining manager.slots) id

theorem withdrawn_perm :
    (manager.withdrawn id).ids.toList.Perm (manager.queue.ids.toList.erase id) :=
  ScheduledQueue.remove_perm

theorem withdrawn_of_not_mem (absent : id ∉ manager.queue.ids) :
    manager.withdrawn id = manager.queue := by
  rw [withdrawn, ScheduledQueue.remove, ScheduledQueue.remove?_eq_none_iff.mpr absent,
    Option.getD_none]

theorem IsCoherent.mem_withdrawn (coherent : manager.IsCoherent) :
    other ∈ (manager.withdrawn id).ids ↔ other ≠ id ∧ other ∈ manager.queue.ids := by
  rw [← Array.mem_toList_iff, withdrawn_perm.mem_iff,
    (Coherent.distinct coherent).mem_erase_iff, Array.mem_toList_iff]

/-- The manager once a timer has left the queue, with what is left in its place. -/
def vacated (manager : TimerManager H κ) (id : TimerId) (entry : Option (Timer κ)) :
    TimerManager H κ :=
  { manager with
    slots := manager.slots.set id.index entry
    queue := manager.withdrawn id }

theorem IsCoherent.vacated (coherent : manager.IsCoherent)
    (held : manager.timer? id = some timer) {entry : Option (Timer κ)} (idle : AtRest entry) :
    (manager.vacated id entry).IsCoherent :=
  Coherent.leave coherent (lt_size_of_held? held) idle withdrawn_perm
    (Coherent.ordered coherent).remove

theorem timer?_vacated (held : manager.timer? id = some timer) (entry : Option (Timer κ)) :
    (manager.vacated id entry).timer? other =
      if other = id then entry else manager.timer? other := by
  rw [timer?_eq_held?, vacated]
  split
  · next same => rw [same, held?_set_self _ (lt_size_of_held? held)]
  · next apart => rw [held?_set_ne _ apart, timer?_eq_held?]

/-- A timer that leaves the queue stays allocated unless nothing is left in its place. -/
theorem timer?_isSome_vacated (held : manager.timer? id = some timer) (left : Timer κ)
    (other : TimerId) :
    ((manager.vacated id (some left)).timer? other).isSome = (manager.timer? other).isSome := by
  rw [timer?_vacated held]
  split
  · next same => rw [same, held, Option.isSome_some, Option.isSome_some]
  · rfl

/-! ## Joining the queue -/

end TimerManager

/-- A timer that has just been scheduled. -/
def Timer.waiting {κ : Type} (mode : TimerMode) (ticks : Ticks) (schedule : Schedule κ) :
    Timer κ :=
  { mode, remaining := ticks, reload := ticks, pending := true, schedule := some schedule }

/-- A timer whose schedule found no place in the queue. -/
def Timer.turnedAway {κ : Type} (mode : TimerMode) (ticks : Ticks) : Timer κ :=
  { mode, remaining := ticks, reload := ticks, pending := false, schedule := none }

/-- A timer that has been cancelled. -/
def Timer.retired {κ : Type} (timer : Timer κ) : Timer κ :=
  { timer.disarm with pending := false }

theorem Timer.ready_waiting {κ : Type} {mode : TimerMode} {ticks : Ticks} {schedule : Schedule κ}
    (period_pos : mode = .periodic → 0 < ticks.count) : (waiting mode ticks schedule).Ready :=
  ⟨rfl, period_pos⟩

namespace TimerManager

variable {H κ : Type} {manager next : TimerManager H κ} {id other : TimerId} {timer : Timer κ}
  {mode : TimerMode} {ticks : Ticks} {callback : κ} {queue : ScheduledQueue}

/-- The slots once a timer waits under the next number. -/
def slotsWaiting (manager : TimerManager H κ) (id : TimerId) (mode : TimerMode) (ticks : Ticks)
    (callback : κ) : Roster (Option (Timer κ)) :=
  manager.slots.set id.index (some (.waiting mode ticks ⟨manager.nextSerial, callback⟩))

/-- Scheduling an allocated timer queues it or, for want of room, leaves it idle; either takes a
number. -/
theorem enqueue_eq (held : manager.timer? id = some timer) (mode : TimerMode) (ticks : Ticks)
    (callback : κ) :
    ∃ notes, (∀ count elapsed, TimerNote.reconciled count elapsed ∉ notes) ∧
      manager.enqueue id mode ticks callback =
        match (manager.withdrawn id).push?
          (remaining (manager.slotsWaiting id mode ticks callback)) id with
        | some queue => ({ manager with
            queue
            slots := manager.slotsWaiting id mode ticks callback
            nextSerial := manager.nextSerial + 1 }, notes, .ok ())
        | none => ({ manager.vacated id (some (.turnedAway mode ticks)) with
            nextSerial := manager.nextSerial + 1 }, notes,
            .error (.queueFull (manager.withdrawn id).heap.capacity.limit)) := by
  cases removed : manager.queue.remove? (remaining manager.slots) id with
  | none =>
      have same : manager.withdrawn id = manager.queue := by
        simp [withdrawn, ScheduledQueue.remove, removed]
      refine ⟨[], by simp, ?_⟩
      rw [vacated, same]
      cases pushed : manager.queue.push?
          (remaining (manager.slotsWaiting id mode ticks callback)) id with
      | some queue =>
          simp only [slotsWaiting, Timer.waiting] at pushed
          simp only [enqueue, removed, held, pushed, slotsWaiting, Timer.waiting]
      | none =>
          simp only [slotsWaiting, Timer.waiting] at pushed
          simp only [enqueue, removed, held, pushed, set_set, Timer.turnedAway, Timer.disarm]
  | some rest =>
      have same : manager.withdrawn id = rest := by
        simp [withdrawn, ScheduledQueue.remove, removed]
      refine ⟨[.rescheduled id], by simp, ?_⟩
      rw [vacated, same]
      cases pushed : rest.push? (remaining (manager.slotsWaiting id mode ticks callback)) id with
      | some queue =>
          simp only [slotsWaiting, Timer.waiting] at pushed
          simp only [enqueue, removed, held, pushed, slotsWaiting, Timer.waiting]
      | none =>
          simp only [slotsWaiting, Timer.waiting] at pushed
          simp only [enqueue, removed, held, pushed, set_set, Timer.turnedAway, Timer.disarm]

theorem held?_slotsWaiting (held : manager.timer? id = some timer) :
    held? (manager.slotsWaiting id mode ticks callback) other =
      if other = id then some (.waiting mode ticks ⟨manager.nextSerial, callback⟩)
      else manager.timer? other := by
  rw [slotsWaiting]
  split
  · next same => rw [same, held?_set_self _ (lt_size_of_held? held)]
  · next apart => rw [held?_set_ne _ apart, timer?_eq_held?]

theorem IsCoherent.queued (coherent : manager.IsCoherent) (held : manager.timer? id = some timer)
    (period_pos : mode = .periodic → 0 < ticks.count)
    (pushed : (manager.withdrawn id).push?
      (remaining (manager.slotsWaiting id mode ticks callback)) id = some queue) :
    Coherent (manager.slotsWaiting id mode ticks callback) queue := by
  have inside := lt_size_of_held? held
  have away := coherent.vacated held atRest_none
  obtain ⟨permuted, _, kept⟩ := ScheduledQueue.of_push? pushed
  have absent : id ∉ (manager.withdrawn id).ids := by
    rw [coherent.mem_withdrawn]
    exact fun kept => kept.1 rfl
  have waits : Coherent ((manager.vacated id none).slots.set id.index
      (some (.waiting mode ticks ⟨manager.nextSerial, callback⟩))) queue := by
    apply Coherent.set_waiting away
    · simpa [TimerManager.vacated] using inside
    · rfl
    · exact Timer.ready_waiting period_pos
    · apply permuted.nodup_iff.mpr
      exact List.nodup_cons.mpr ⟨by simpa using absent, Coherent.distinct away⟩
    · intro other
      rw [← Array.mem_toList_iff, permuted.mem_iff, List.mem_cons, Array.mem_toList_iff]
      rfl
    · rw [TimerManager.vacated, set_set]
      apply kept
      rw [slotsWaiting, ordered_set_of_not_mem _ absent]
      exact (Coherent.ordered coherent).remove
  rwa [TimerManager.vacated, set_set] at waits

/-- Scheduling keeps the manager coherent and leaves the hardware alone. -/
theorem IsCoherent.enqueue (coherent : manager.IsCoherent) (callback : κ)
    (held : manager.timer? id = some timer) (period_pos : mode = .periodic → 0 < ticks.count)
    (idle : manager.armed = false) :
    (manager.enqueue id mode ticks callback).1.IsCoherent ∧
      (manager.enqueue id mode ticks callback).1.armed = false := by
  obtain ⟨notes, _, result⟩ := enqueue_eq held mode ticks callback
  cases pushed : (manager.withdrawn id).push?
      (remaining (manager.slotsWaiting id mode ticks callback)) id with
  | some queue =>
      rw [pushed] at result
      rw [result]
      exact ⟨coherent.queued held period_pos pushed, idle⟩
  | none =>
      have away : (manager.vacated id (some (.turnedAway mode ticks))).IsCoherent :=
        coherent.vacated held (atRest_some rfl)
      rw [pushed] at result
      rw [result]
      exact ⟨away.congr rfl rfl, idle⟩

/-! ## Reconciling -/

variable [HardwareTimer H]

/-- The manager once its hardware has been stopped and its count has been charged. -/
def chargedTo (manager : TimerManager H κ) (hardware : H) : TimerManager H κ :=
  { manager with
    hardware
    armed := false
    slots := charge (HardwareTimer.count hardware) manager.queue.ids.toList manager.slots }

/-- Reconciling does nothing, fails to stop the hardware, or charges what it counted. -/
theorem reconcile_cases (manager : TimerManager H κ) :
    (manager.armed = false ∧ manager.reconcile = (manager, .ok [])) ∨
      (∃ hardware fault, manager.armed = true ∧
        HardwareTimer.stop manager.hardware = (hardware, .error fault) ∧
        manager.reconcile = ({ manager with hardware }, .error fault)) ∨
      ∃ hardware, manager.armed = true ∧
        HardwareTimer.stop manager.hardware = (hardware, .ok ()) ∧
        manager.reconcile = (manager.chargedTo hardware,
          .ok [.reconciled manager.queue.size (HardwareTimer.count hardware)]) := by
  cases armed : manager.armed with
  | false =>
      left
      simp [reconcile, armed]
  | true =>
      right
      rcases stopped : HardwareTimer.stop manager.hardware with ⟨hardware, fault | _⟩
      · left
        exact ⟨hardware, fault, rfl, rfl, by simp [reconcile, armed, stopped]⟩
      · right
        exact ⟨hardware, rfl, rfl, by simp [reconcile, armed, stopped, chargedTo]⟩

theorem IsCoherent.chargedTo (coherent : manager.IsCoherent) (hardware : H) :
    (manager.chargedTo hardware).IsCoherent :=
  Coherent.charge coherent (HardwareTimer.count hardware)

theorem IsCoherent.timer?_chargedTo (coherent : manager.IsCoherent) (hardware : H) :
    (manager.chargedTo hardware).timer? id = (manager.timer? id).map fun timer =>
      if timer.pending = true then timer.charged (HardwareTimer.count hardware) else timer := by
  rw [timer?_eq_held?, TimerManager.chargedTo, held?_charge _ (Coherent.distinct coherent)]
  simp only [Array.mem_toList_iff, timer?_eq_held?]
  cases held : held? manager.slots id with
  | none => simp
  | some timer =>
      by_cases queued : id ∈ manager.queue.ids
      · simp [queued, Coherent.pending_of_queued coherent held queued]
      · simp [queued, Coherent.not_pending coherent held queued]

theorem IsCoherent.reconcile (coherent : manager.IsCoherent) :
    manager.reconcile.1.IsCoherent := by
  rcases reconcile_cases manager with ⟨_, result⟩ | ⟨hardware, fault, _, _, result⟩ |
    ⟨hardware, _, _, result⟩
  · rw [result]
    exact coherent
  · rw [result]
    exact coherent.congr rfl rfl
  · rw [result]
    exact coherent.chargedTo hardware

theorem IsCoherent.timer?_isSome_reconcile (coherent : manager.IsCoherent) (id : TimerId) :
    (manager.reconcile.1.timer? id).isSome = (manager.timer? id).isSome := by
  rcases reconcile_cases manager with ⟨_, result⟩ | ⟨hardware, fault, _, _, result⟩ |
    ⟨hardware, _, _, result⟩
  · rw [result]
  · rw [result]
    rfl
  · rw [result, coherent.timer?_chargedTo, Option.isSome_map]

theorem nextSerial_reconcile (manager : TimerManager H κ) :
    manager.reconcile.1.nextSerial = manager.nextSerial := by
  rcases reconcile_cases manager with ⟨_, result⟩ | ⟨hardware, fault, _, _, result⟩ |
    ⟨hardware, _, _, result⟩
  all_goals rw [result]
  rfl

theorem armed_of_reconcile {notes : List TimerNote}
    (reconciled : manager.reconcile = (next, .ok notes)) : next.armed = false := by
  rcases reconcile_cases manager with ⟨idle, result⟩ | ⟨hardware, fault, _, _, result⟩ |
    ⟨hardware, _, _, result⟩
  all_goals
    rw [reconciled] at result
    cases result
  · exact idle
  · rfl

/-- Reconciling only fails because the hardware counts and does not stop. -/
theorem stopFailed_of_reconcile {fault : Hardware.Fault}
    (failed : manager.reconcile = (next, .error fault)) :
    manager.armed = true ∧ ∃ hardware,
      HardwareTimer.stop manager.hardware = (hardware, .error fault) ∧
        next = { manager with hardware } := by
  rcases reconcile_cases manager with ⟨_, result⟩ | ⟨hardware, _, armed, stuck, result⟩ |
    ⟨hardware, _, _, result⟩
  all_goals
    rw [failed] at result
    cases result
  exact ⟨armed, hardware, stuck, rfl⟩

/-! ## Arming -/

/-- Arming does nothing, fails, or arms the hardware for the front of the queue. -/
theorem startNext_cases (manager : TimerManager H κ) :
    (manager.queue.front? = none ∧ manager.startNext = (manager, .ok [])) ∨
      ∃ front, manager.queue.front? = some front ∧
        ((∃ hardware fault,
            HardwareTimer.restart manager.hardware (remaining manager.slots front) =
              (hardware, .error fault) ∧
            manager.startNext = ({ manager with hardware }, .error fault)) ∨
          ∃ hardware,
            HardwareTimer.restart manager.hardware (remaining manager.slots front) =
              (hardware, .ok ()) ∧
            manager.startNext = ({ manager with hardware, armed := true },
              .ok [.armed (remaining manager.slots front) front])) := by
  cases in_front : manager.queue.front? with
  | none =>
      left
      simp [startNext, in_front]
  | some front =>
      right
      refine ⟨front, rfl, ?_⟩
      rcases armed : HardwareTimer.restart manager.hardware (remaining manager.slots front) with
        ⟨hardware, fault | _⟩
      · left
        exact ⟨hardware, fault, rfl, by simp [startNext, in_front, armed]⟩
      · right
        exact ⟨hardware, rfl, by simp [startNext, in_front, armed]⟩

theorem nextSerial_startNext (manager : TimerManager H κ) :
    manager.startNext.1.nextSerial = manager.nextSerial := by
  rcases startNext_cases manager with
    ⟨_, result⟩ | ⟨front, _, ⟨_, _, _, result⟩ | ⟨_, _, result⟩⟩
  all_goals rw [result]

theorem not_reconciled_of_startNext (manager : TimerManager H κ) (count : Nat) (elapsed : Ticks) :
    TimerNote.reconciled count elapsed ∉ notesOf manager.startNext.2 := by
  rcases startNext_cases manager with
    ⟨_, result⟩ | ⟨front, _, ⟨_, _, _, result⟩ | ⟨_, _, result⟩⟩
  all_goals simp [result, notesOf, Except.toOption]

/-! ## Whole sections -/

theorem schedule_of_absent (absent : manager.timer? id = none) :
    manager.schedule id mode ticks callback = { manager, answer := .error .invalidHandle } := by
  simp only [schedule, absent]

theorem schedule_of_error {fault : Hardware.Fault} (held : manager.timer? id = some timer)
    (failed : manager.reconcile = (next, .error fault)) :
    manager.schedule id mode ticks callback =
      { manager := next, answer := .error (.hardware fault) } := by
  simp only [schedule, held, failed]

theorem schedule_of_ok {notes : List TimerNote} (held : manager.timer? id = some timer)
    (reconciled : manager.reconcile = (next, .ok notes)) :
    manager.schedule id mode ticks callback =
      { manager := (next.enqueue id mode ticks callback).1.clearExpired.1.startNext.1
        notes := notes ++ (next.enqueue id mode ticks callback).2.1 ++
          notesOf (next.enqueue id mode ticks callback).1.clearExpired.1.startNext.2 ++
          [.scheduled id mode ticks]
        fired := (next.enqueue id mode ticks callback).1.clearExpired.2
        answer := (next.enqueue id mode ticks callback).2.2.bind fun () =>
          verdict (next.enqueue id mode ticks callback).1.clearExpired.1.startNext.2 } := by
  simp only [schedule, held, reconciled]

/-- All that scheduling a timer can do: the hardware does not stop, or the timer is put into the
queue of the reconciled manager and the section runs through. -/
theorem schedule_cases (mode : TimerMode) (ticks : Ticks) (callback : κ)
    (coherent : manager.IsCoherent) (held : manager.timer? id = some timer) :
    (∃ next fault, manager.reconcile = (next, .error fault) ∧ next.IsCoherent ∧
        manager.schedule id mode ticks callback =
          { manager := next, answer := .error (.hardware fault) }) ∨
      ∃ next notes now, manager.reconcile = (next, .ok notes) ∧ next.IsCoherent ∧
        next.timer? id = some now ∧
        manager.schedule id mode ticks callback =
          { manager := (next.enqueue id mode ticks callback).1.clearExpired.1.startNext.1
            notes := notes ++ (next.enqueue id mode ticks callback).2.1 ++
              notesOf (next.enqueue id mode ticks callback).1.clearExpired.1.startNext.2 ++
              [.scheduled id mode ticks]
            fired := (next.enqueue id mode ticks callback).1.clearExpired.2
            answer := (next.enqueue id mode ticks callback).2.2.bind fun () =>
              verdict (next.enqueue id mode ticks callback).1.clearExpired.1.startNext.2 } := by
  have kept := coherent.reconcile
  have allocated := coherent.timer?_isSome_reconcile id
  rcases result : manager.reconcile with ⟨next, fault | notes⟩
  all_goals rw [result] at kept allocated
  · exact Or.inl ⟨next, fault, rfl, kept, schedule_of_error held result⟩
  · obtain ⟨now, still_held⟩ := Option.isSome_iff_exists.mp
      (allocated.trans (by rw [held, Option.isSome_some]))
    exact Or.inr ⟨next, notes, now, rfl, kept, still_held, schedule_of_ok held result⟩

omit [HardwareTimer H] in
/-- Taking a timer that has been disarmed out of the queue retires it. -/
theorem dequeue_disarmed (held : manager.timer? id = some timer) :
    dequeue { manager with slots := manager.slots.set id.index (some timer.disarm) } id =
      manager.vacated id (some timer.retired) := by
  have disarmed : held? (manager.slots.set id.index (some timer.disarm)) id = some timer.disarm :=
    held?_set_self _ (lt_size_of_held? held)
  have keys : remaining (manager.slots.set id.index (some timer.disarm)) =
      remaining manager.slots := remaining_set_of_same held rfl
  rw [held?] at disarmed
  rw [dequeue]
  simp only [change, disarmed, set_set, keys, vacated, withdrawn, Timer.retired]

theorem cancel_of_absent (absent : manager.timer? id = none) :
    manager.cancel id = { manager, answer := .error .invalidHandle } := by
  simp only [cancel, absent]

/-- Cancelling a timer that does not wait retires it. -/
theorem cancel_of_idle (coherent : manager.IsCoherent) (held : manager.timer? id = some timer)
    (idle : timer.pending = false) :
    manager.cancel id =
      { manager := manager.vacated id (some timer.retired), answer := .ok false } := by
  have absent : id ∉ manager.queue.ids := by
    intro queued
    rw [Coherent.pending_of_queued coherent held queued] at idle
    cases idle
  have same : timer.retired = timer.disarm := by
    rw [Timer.retired, ← idle]
    rfl
  simp [cancel, held, idle, vacated, withdrawn_of_not_mem absent, same]

/-- Cancelling a timer that waits behind another retires it. -/
theorem cancel_of_behind (held : manager.timer? id = some timer) (waits : timer.pending = true)
    (behind : manager.queue.front? ≠ some id) :
    manager.cancel id =
      { manager := manager.vacated id (some timer.retired), notes := [.cancelled id]
        answer := .ok true } := by
  simp [cancel, held, waits, behind, dequeue_disarmed held]

theorem cancel_of_error {fault : Hardware.Fault} (held : manager.timer? id = some timer)
    (waits : timer.pending = true) (in_front : manager.queue.front? = some id)
    (failed : (manager.vacated id (some timer.retired)).reconcile = (next, .error fault)) :
    manager.cancel id = { manager := next, answer := .error (.hardware fault) } := by
  simp [cancel, held, waits, in_front, dequeue_disarmed held, failed]

theorem cancel_of_ok {notes : List TimerNote} (held : manager.timer? id = some timer)
    (waits : timer.pending = true) (in_front : manager.queue.front? = some id)
    (reconciled : (manager.vacated id (some timer.retired)).reconcile = (next, .ok notes)) :
    manager.cancel id =
      { manager := next.clearExpired.1.startNext.1
        notes := notes ++ notesOf next.clearExpired.1.startNext.2 ++ [.cancelledFront id]
        fired := next.clearExpired.2
        answer := (verdict next.clearExpired.1.startNext.2).map fun () => true } := by
  simp [cancel, held, waits, in_front, dequeue_disarmed held, reconciled]

/-- All that cancelling a timer can do: it did not wait, or waited behind another; it was in front
and the hardware does not stop; or the section runs through without it. -/
theorem cancel_cases (coherent : manager.IsCoherent) (held : manager.timer? id = some timer) :
    (timer.pending = false ∧ manager.cancel id =
        { manager := manager.vacated id (some timer.retired), answer := .ok false }) ∨
      (timer.pending = true ∧ manager.queue.front? ≠ some id ∧ manager.cancel id =
        { manager := manager.vacated id (some timer.retired), notes := [.cancelled id]
          answer := .ok true }) ∨
      (∃ next fault, timer.pending = true ∧ manager.queue.front? = some id ∧
        (manager.vacated id (some timer.retired)).reconcile = (next, .error fault) ∧
        manager.cancel id = { manager := next, answer := .error (.hardware fault) }) ∨
      ∃ next notes, timer.pending = true ∧ manager.queue.front? = some id ∧
        (manager.vacated id (some timer.retired)).reconcile = (next, .ok notes) ∧
        manager.cancel id =
          { manager := next.clearExpired.1.startNext.1
            notes := notes ++ notesOf next.clearExpired.1.startNext.2 ++ [.cancelledFront id]
            fired := next.clearExpired.2
            answer := (verdict next.clearExpired.1.startNext.2).map fun () => true } := by
  cases waits : timer.pending with
  | false => exact Or.inl ⟨rfl, cancel_of_idle coherent held waits⟩
  | true =>
      right
      by_cases in_front : manager.queue.front? = some id
      · right
        rcases reconciled : (manager.vacated id (some timer.retired)).reconcile with
          ⟨next, fault | notes⟩
        · exact Or.inl ⟨next, fault, rfl, in_front, rfl,
            cancel_of_error held waits in_front reconciled⟩
        · exact Or.inr ⟨next, notes, rfl, in_front, rfl,
            cancel_of_ok held waits in_front reconciled⟩
      · exact Or.inl ⟨rfl, in_front, cancel_of_behind held waits in_front⟩

omit [HardwareTimer H] in
theorem free_eq (held : manager.timer? id = some timer) :
    manager.free id =
      { manager := manager.vacated id none, notes := [.freed id], answer := () } := by
  rw [timer?] at held
  simp only [free, dequeue, change, held, set_set, vacated, withdrawn]

theorem expire_of_error {fault : Hardware.Fault}
    (failed : manager.reconcile = (next, .error fault)) :
    manager.expire = { manager := next, notes := [.stopFailed fault], answer := () } := by
  simp only [expire, failed]

theorem expire_of_ok {notes : List TimerNote}
    (reconciled : manager.reconcile = (next, .ok notes)) :
    ∃ starting, (∀ count elapsed, TimerNote.reconciled count elapsed ∉ starting) ∧
      manager.expire =
        { manager := next.clearExpired.1.startNext.1
          notes := notes ++ starting ++ [.expired next.clearExpired.2.length]
          fired := next.clearExpired.2
          answer := () } := by
  rcases startNext_cases next.clearExpired.1 with
    ⟨_, result⟩ | ⟨front, _, ⟨hardware, fault, _, result⟩ | ⟨hardware, _, result⟩⟩
  · exact ⟨[], by simp, by simp [expire, reconciled, result]⟩
  · exact ⟨[.rearmFailed fault], by simp, by simp [expire, reconciled, result]⟩
  · exact ⟨[.armed (remaining next.clearExpired.1.slots front) front], by simp,
      by simp [expire, reconciled, result]⟩

/-! ## Allocating -/

omit [HardwareTimer H] in
/-- A new timer takes a place that held none, and is idle. -/
theorem allocate_of_ok {id : TimerId} (allocated : manager.allocate.answer = .ok id) :
    ∃ slots, manager.allocate.manager = { manager with slots } ∧ manager.timer? id = none ∧
      (∀ other, held? slots other = if other = id then some .idle else manager.timer? other) ∧
      slots.capacity = manager.slots.capacity ∧
      (slots.size = manager.slots.size ∨
        slots.size = manager.slots.size + 1 ∧
          manager.slots.capacity.admits manager.slots.size = true) := by
  cases free : freeIndex? manager.slots with
  | some index =>
      obtain ⟨inside, empty, _⟩ := Array.findIdx?_eq_some_iff_getElem.mp free
      have bound : index < manager.slots.size := inside
      simp only [allocate, free, Except.ok.injEq] at allocated
      subst allocated
      refine ⟨manager.slots.set index (some .idle), by simp [allocate, free], ?_, ?_, rfl,
        Or.inl (Roster.size_set _ _ _)⟩
      · have absent := Option.isNone_iff_eq_none.mp empty
        rw [timer?, Roster.get?, Array.getElem?_eq_getElem inside, absent]
        rfl
      · intro other
        split
        · next same =>
            have inside : (⟨index⟩ : TimerId).index < manager.slots.size := bound
            rw [same]
            exact held?_set_self _ inside
        · next apart => exact held?_set_ne _ apart
  | none =>
      cases pushed : manager.slots.push? (some .idle) with
      | none => simp [allocate, free, pushed] at allocated
      | some slots =>
          simp only [allocate, free, pushed, Except.ok.injEq] at allocated
          subst allocated
          simp only [Roster.push?] at pushed
          split at pushed
          case isFalse => cases pushed
          case isTrue room =>
            cases pushed
            refine ⟨{ manager.slots with entries := manager.slots.entries.push (some .idle) },
              by simp [allocate, free, Roster.push?, room], ?_, ?_, rfl, Or.inr ⟨?_, room⟩⟩
            · simp [timer?, Roster.get?, Roster.size]
            · intro other
              by_cases same : other = ⟨manager.slots.size⟩
              · subst same
                simp [held?, Roster.get?, Roster.size]
              · have apart : other.index ≠ manager.slots.entries.size := by
                  intro at_end
                  apply same
                  cases other
                  simpa [Roster.size] using at_end
                simp only [same, if_false, held?, timer?, Roster.get?, Array.getElem?_push, apart]
            · simp [Roster.size]

omit [HardwareTimer H] in
theorem allocate_of_error {error : TimerError} (refused : manager.allocate.answer = .error error) :
    manager.allocate.manager = manager := by
  cases free : freeIndex? manager.slots with
  | some index => simp [allocate, free] at refused
  | none =>
      cases pushed : manager.slots.push? (some .idle) with
      | none => simp [allocate, free, pushed]
      | some slots => simp [allocate, free, pushed] at refused

omit [HardwareTimer H] in
theorem IsCoherent.allocate (coherent : manager.IsCoherent) :
    manager.allocate.manager.IsCoherent := by
  cases answered : manager.allocate.answer with
  | ok id =>
      obtain ⟨slots, result, absent, placed, _⟩ := allocate_of_ok answered
      rw [result]
      exact Coherent.place coherent absent rfl placed
  | error error =>
      rw [allocate_of_error answered]
      exact coherent

end TimerManager

end Reactor
