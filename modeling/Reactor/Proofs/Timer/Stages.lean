import Reactor.Proofs.Timer.Sections
import Reactor.Proofs.Timer.System
import Mathlib.Logic.Relation

/-!
# Stages of a run

Every move goes through some of a few kinds of stages, and what all stages keep is kept by every
run.  A stage says what becomes of the manager and what it adds to the history.
-/

namespace Reactor.TimerSystem

variable {H κ : Type} [HardwareTimer H] {system next : TimerSystem H κ}

open TimerManager

/-- What a pass over the due timers adds to a history. -/
def firing {κ : Type} (fired : List (Expiry κ)) : List (TimerEvent κ) :=
  fired.map .collected ++ [.passed]

theorem mem_firing {κ : Type} {fired : List (Expiry κ)} {event : TimerEvent κ} :
    event ∈ firing fired ↔ (∃ expiry ∈ fired, event = .collected expiry) ∨ event = .passed := by
  simp [firing, eq_comm]

/-- What one stage of a section makes of a system. -/
inductive Stage : TimerSystem H κ → TimerSystem H κ → Prop
  /-- The hardware refuses to stop. -/
  | stopFailed (system : TimerSystem H κ) {hardware : H} {fault : Hardware.Fault}
      (armed : system.manager.armed = true)
      (failed : HardwareTimer.stop system.manager.hardware = (hardware, .error fault)) :
      Stage system { system with manager := { system.manager with hardware } }
  /-- The hardware stops, and what it counted is charged. -/
  | charged (system : TimerSystem H κ) {hardware : H} (armed : system.manager.armed = true)
      (stopped : HardwareTimer.stop system.manager.hardware = (hardware, .ok ())) :
      Stage system
        ({ system with manager := system.manager.chargedTo hardware }.record
          [.charged (HardwareTimer.count hardware)])
  /-- A timer takes its place in the queue. -/
  | queued (system : TimerSystem H κ) {id : TimerId} {timer : Timer κ} {queue : ScheduledQueue}
      {mode : TimerMode} {ticks : Ticks} {callback : κ} (idle : system.manager.armed = false)
      (owned : id ∈ system.handles) (held : system.manager.timer? id = some timer)
      (period_pos : mode = .periodic → 0 < ticks.count)
      (pushed : (system.manager.withdrawn id).push?
        (remaining (system.manager.slotsWaiting id mode ticks callback)) id = some queue) :
      Stage system
        ({ system with
            manager := { system.manager with
              queue
              slots := system.manager.slotsWaiting id mode ticks callback
              nextSerial := system.manager.nextSerial + 1 } }.record
          [.scheduled id mode ticks system.manager.nextSerial callback])
  /-- A timer finds no room in the queue. -/
  | turnedAway (system : TimerSystem H κ) {id : TimerId} {timer : Timer κ} {mode : TimerMode}
      {ticks : Ticks} (idle : system.manager.armed = false)
      (held : system.manager.timer? id = some timer)
      (full : (system.manager.withdrawn id).heap.capacity.admits
        (system.manager.withdrawn id).size = false) :
      Stage system
        ({ system with
            manager := { system.manager.vacated id (some (.turnedAway mode ticks)) with
              nextSerial := system.manager.nextSerial + 1 } }.record
          [.turnedAway id])
  /-- What is due fires. -/
  | cleared (system : TimerSystem H κ) (idle : system.manager.armed = false) :
      Stage system
        ({ system with
            manager := system.manager.clearExpired.1
            collected := system.collected ++ system.manager.clearExpired.2 }.record
          (firing system.manager.clearExpired.2))
  /-- The hardware refuses to be armed. -/
  | restartFailed (system : TimerSystem H κ) {front : TimerId} {hardware : H}
      {fault : Hardware.Fault} (idle : system.manager.armed = false)
      (none_due : system.manager.NoneDue)
      (in_front : system.manager.queue.front? = some front)
      (failed : HardwareTimer.restart system.manager.hardware
        (remaining system.manager.slots front) = (hardware, .error fault)) :
      Stage system { system with manager := { system.manager with hardware } }
  /-- The hardware is armed for the timer in front. -/
  | restarted (system : TimerSystem H κ) {front : TimerId} {hardware : H}
      (idle : system.manager.armed = false) (none_due : system.manager.NoneDue)
      (in_front : system.manager.queue.front? = some front)
      (armed : HardwareTimer.restart system.manager.hardware
        (remaining system.manager.slots front) = (hardware, .ok ())) :
      Stage system { system with manager := { system.manager with hardware, armed := true } }
  /-- A timer is retired. -/
  | retired (system : TimerSystem H κ) {id : TimerId} {timer : Timer κ}
      (held : system.manager.timer? id = some timer) :
      Stage system
        ({ system with manager := system.manager.vacated id (some timer.retired) }.record
          [.cancelled id])
  /-- The handle of a retired timer is given up. -/
  | givenUp (system : TimerSystem H κ) {id : TimerId} (owned : id ∈ system.handles)
      (idle : plan? id system.history = none) :
      Stage system
        { system with
          handles := system.handles.erase id
          releasing := id :: system.releasing }
  /-- A timer is freed. -/
  | freed (system : TimerSystem H κ) {id : TimerId} {timer : Timer κ}
      (given_up : id ∈ system.releasing) (held : system.manager.timer? id = some timer) :
      Stage system
        ({ system with
            manager := system.manager.vacated id none
            releasing := system.releasing.erase id }.record
          [.freed id])
  /-- A new timer takes a place that held none. -/
  | allocated (system : TimerSystem H κ) {id : TimerId} {slots : Roster (Option (Timer κ))}
      (absent : system.manager.timer? id = none)
      (placed : ∀ other, held? slots other =
        if other = id then some .idle else system.manager.timer? other)
      (capacity : slots.capacity = system.manager.slots.capacity)
      (size : slots.size = system.manager.slots.size ∨
        slots.size = system.manager.slots.size + 1 ∧
          system.manager.slots.capacity.admits system.manager.slots.size = true) :
      Stage system
        { system with
          manager := { system.manager with slots }
          handles := id :: system.handles }
  /-- A collected callback is handed over. -/
  | handedOver (system : TimerSystem H κ) {place : Nat} {expiry : Expiry κ}
      (waits : system.collected[place]? = some expiry) :
      Stage system
        ({ system with
            collected := system.collected.eraseIdx place
            inFlight := system.inFlight ++ [expiry] }.record [.handedOver expiry])

/-- The stages of a run, one after another. -/
def Stages : TimerSystem H κ → TimerSystem H κ → Prop := Relation.ReflTransGen Stage

theorem Stages.refl (system : TimerSystem H κ) : Stages system system := Relation.ReflTransGen.refl

theorem Stage.stages (stage : Stage system next) : Stages system next :=
  Relation.ReflTransGen.single stage

theorem Stages.trans {last : TimerSystem H κ} (first : Stages system next)
    (second : Stages next last) : Stages system last := Relation.ReflTransGen.trans first second

/-- What every stage keeps, any number of stages keeps. -/
theorem Stages.keep (kept : TimerSystem H κ → Prop) (stages : Stages system next)
    (start : kept system)
    (step : ∀ system next, kept system → Stage system next → kept next) : kept next := by
  induction stages with
  | refl => exact start
  | tail _ stage induction => exact step _ _ induction stage

/-! ## The stages of a section -/

/-- The manager reconciles, and the charge is recorded. -/
def reconciled (system : TimerSystem H κ) : TimerSystem H κ :=
  { system with manager := system.manager.reconcile.1 }.record
    (chargesOf (notesOf system.manager.reconcile.2))

/-- The due timers fire, and the hardware is armed. -/
def settled (system : TimerSystem H κ) : TimerSystem H κ :=
  { system with
      manager := system.manager.clearExpired.1.startNext.1
      collected := system.collected ++ system.manager.clearExpired.2 }.record
    (firing system.manager.clearExpired.2)

theorem stages_reconciled (system : TimerSystem H κ) : Stages system system.reconciled := by
  rcases reconcile_cases system.manager with
    ⟨_, result⟩ | ⟨hardware, fault, armed, failed, result⟩ | ⟨hardware, armed, stopped, result⟩
  · rw [reconciled, result]
    simpa [notesOf, Except.toOption, chargesOf] using Stages.refl system
  · have stage := (Stage.stopFailed system armed failed).stages
    rw [reconciled, result]
    simpa [notesOf, Except.toOption, chargesOf] using stage
  · have stage := (Stage.charged system armed stopped).stages
    rw [reconciled, result]
    simpa [notesOf, Except.toOption, chargesOf] using stage

theorem stages_settled (coherent : system.manager.IsCoherent)
    (idle : system.manager.armed = false) : Stages system system.settled := by
  have cleared := clearExpired_cleared coherent
  have none_due := cleared.noneDue coherent
  have still_idle := cleared.armed.trans idle
  refine (Stage.cleared system idle).stages.trans ?_
  rcases startNext_cases system.manager.clearExpired.1 with
    ⟨_, result⟩ | ⟨front, in_front, ⟨hardware, fault, failed, result⟩ | ⟨hardware, armed, result⟩⟩
  · rw [settled, result]
    exact .refl _
  · rw [settled, result]
    exact (Stage.restartFailed _ still_idle none_due in_front failed).stages
  · rw [settled, result]
    exact (Stage.restarted _ still_idle none_due in_front armed).stages

/-! ## The stages of a move -/

section

variable {κ α : Type}

theorem chargesOf_append (first second : List TimerNote) :
    (chargesOf (first ++ second) : List (TimerEvent κ)) = chargesOf first ++ chargesOf second :=
  List.filterMap_append

theorem mem_chargesOf {notes : List TimerNote} {event : TimerEvent κ}
    (member : event ∈ chargesOf notes) : ∃ elapsed, event = .charged elapsed := by
  obtain ⟨note, _, charged⟩ := List.mem_filterMap.mp member
  cases note with
  | reconciled count elapsed => exact ⟨elapsed, (Option.some.inj charged).symm⟩
  | _ => cases charged

theorem mem_passOf {notes : List TimerNote} {fired : List (Expiry κ)} {event : TimerEvent κ}
    (member : event ∈ passOf notes fired) :
    (∃ expiry ∈ fired, event = .collected expiry) ∨ event = .passed := by
  rcases List.mem_append.mp member with collected | passed
  · left
    obtain ⟨expiry, fired, same⟩ := List.mem_map.mp collected
    exact ⟨expiry, fired, same.symm⟩
  · right
    split at passed
    · exact List.mem_singleton.mp passed
    · cases passed

theorem chargesOf_eq_nil {notes : List TimerNote}
    (silent : ∀ count elapsed, TimerNote.reconciled count elapsed ∉ notes) :
    (chargesOf notes : List (TimerEvent κ)) = [] := by
  rw [chargesOf, List.filterMap_eq_nil_iff]
  intro note reported
  cases note with
  | reconciled count elapsed => exact absurd reported (silent count elapsed)
  | _ => rfl

end

/-- A section that goes through all stages settles what it has decided. -/
theorem commit_eq_settled {α : Type} (system : TimerSystem H κ) (manager : TimerManager H κ)
    {notes : List TimerNote} (ends : notes.any TimerNote.endsPass = true) (answer : α)
    (decision : List (TimerEvent κ)) :
    system.commit { manager := manager.clearExpired.1.startNext.1, notes
                    fired := manager.clearExpired.2, answer } decision =
      ({ system with manager }.record (chargesOf notes ++ decision)).settled := by
  simp [commit, settled, record, passOf, firing, ends]

omit [HardwareTimer H] in
/-- A section that comes to nothing more than a change of the hardware. -/
theorem commit_eq_self {α : Type} (system : TimerSystem H κ) (manager : TimerManager H κ)
    {notes : List TimerNote} (silent : (chargesOf notes : List (TimerEvent κ)) = [])
    (unfinished : notes.any TimerNote.endsPass = false) (answer : α) :
    system.commit { manager, notes, answer } [] = { system with manager } := by
  simp [commit, record, passOf, silent, unfinished]

theorem reconciled_of_eq {after : TimerManager H κ}
    {attempt : Except Hardware.Fault (List TimerNote)}
    (result : system.manager.reconcile = (after, attempt)) :
    system.reconciled = { system with manager := after }.record (chargesOf (notesOf attempt)) := by
  rw [reconciled, result]

/-- Scheduling is one stage, which takes a number. -/
theorem enqueue_stage (system : TimerSystem H κ) {id : TimerId} {mode : TimerMode} {ticks : Ticks}
    (callback : κ) {timer : Timer κ} (idle : system.manager.armed = false)
    (owned : id ∈ system.handles)
    (held : system.manager.timer? id = some timer)
    (period_pos : mode = .periodic → 0 < ticks.count) :
    ∃ events, Stage system
        ({ system with manager := (system.manager.enqueue id mode ticks callback).1 }.record
          events) ∧
      (system.manager.enqueue id mode ticks callback).1.nextSerial =
        system.manager.nextSerial + 1 ∧
      (∀ count elapsed, TimerNote.reconciled count elapsed ∉
        (system.manager.enqueue id mode ticks callback).2.1) ∧
      ((system.manager.enqueue id mode ticks callback).2.2 = .ok () ∧
          events = [.scheduled id mode ticks system.manager.nextSerial callback] ∨
        ∃ limit, (system.manager.enqueue id mode ticks callback).2.2 =
            .error (.queueFull limit) ∧
          events = [.turnedAway id]) := by
  obtain ⟨notes, silent, result⟩ := enqueue_eq held mode ticks callback
  cases pushed : (system.manager.withdrawn id).push?
      (remaining (system.manager.slotsWaiting id mode ticks callback)) id with
  | some queue =>
      rw [pushed] at result
      rw [result]
      exact ⟨_, .queued system idle owned held period_pos pushed, rfl, silent,
        Or.inl ⟨rfl, rfl⟩⟩
  | none =>
      rw [pushed] at result
      rw [result]
      exact ⟨_, .turnedAway system idle held (ScheduledQueue.push?_eq_none_iff.mp pushed), rfl,
        silent, Or.inr ⟨_, rfl, rfl⟩⟩

theorem schedule_stages {id : TimerId} {mode : TimerMode} {ticks : Ticks} (callback : κ)
    {timer : Timer κ} (coherent : system.manager.IsCoherent) (owned : id ∈ system.handles)
    (held : system.manager.timer? id = some timer)
    (period_pos : mode = .periodic → 0 < ticks.count) :
    Stages system (system.commit (system.manager.schedule id mode ticks callback)
      (decision system.manager (system.manager.schedule id mode ticks callback) id mode ticks
        callback)) := by
  have charged := stages_reconciled system
  have kept := coherent.reconcile
  have allocated := coherent.timer?_isSome_reconcile id
  have number := nextSerial_reconcile system.manager
  rcases result : system.manager.reconcile with ⟨after, fault | notes⟩
  · -- The hardware does not stop, and nothing is decided.
    rw [reconciled_of_eq result] at charged
    rw [result] at number
    rw [schedule_of_error held result, decision, if_pos number, commit_eq_self _ _ rfl rfl]
    simpa [notesOf, Except.toOption, chargesOf] using charged
  · rw [reconciled_of_eq result] at charged
    rw [result] at kept allocated number
    obtain ⟨held_after, still_held⟩ := Option.isSome_iff_exists.mp
      (allocated.trans (by rw [held, Option.isSome_some]))
    obtain ⟨coherent_after, idle⟩ := kept.enqueue callback still_held period_pos
      (armed_of_reconcile result)
    obtain ⟨events, stage, taken, silent, outcome⟩ := enqueue_stage
      ({ system with manager := after }.record (chargesOf (notesOf (.ok notes))))
      callback (armed_of_reconcile result) owned still_held period_pos
    simp only [manager_record] at taken silent outcome number
    have decided : decision system.manager
        (system.manager.schedule id mode ticks callback) id mode ticks callback = events := by
      have serial : (system.manager.schedule id mode ticks callback).manager.nextSerial =
          system.manager.nextSerial + 1 := by
        rw [schedule_of_ok held result, nextSerial_startNext,
          (clearExpired_cleared coherent_after).nextSerial, ← number]
        exact taken
      have fresh : system.manager.nextSerial + 1 ≠ system.manager.nextSerial := by simp
      rw [decision, serial, if_neg fresh, ← number, schedule_of_ok held result]
      rcases outcome with ⟨accepted, rfl⟩ | ⟨limit, refused, rfl⟩
      · simp only [accepted, Except.bind]
        cases (after.enqueue id mode ticks callback).1.clearExpired.1.startNext.2 <;> rfl
      · simp only [refused, Except.bind]
    have charges : (chargesOf (notes ++ (after.enqueue id mode ticks callback).2.1 ++
        notesOf (after.enqueue id mode ticks callback).1.clearExpired.1.startNext.2 ++
        [.scheduled id mode ticks]) : List (TimerEvent κ)) = chargesOf notes := by
      rw [chargesOf_append, chargesOf_append, chargesOf_append, chargesOf_eq_nil silent,
        chargesOf_eq_nil (not_reconciled_of_startNext _)]
      simp [chargesOf]
    rw [decided, schedule_of_ok held result, commit_eq_settled _ _ (by simp [TimerNote.endsPass]),
      charges, ← record_record]
    exact charged.trans (stage.stages.trans (stages_settled coherent_after idle))

/-- A section that fails to stop the hardware. -/
theorem stopFailed_stages {α : Type} {after : TimerManager H κ} {fault : Hardware.Fault}
    (result : system.manager.reconcile = (after, .error fault)) {notes : List TimerNote}
    (silent : (chargesOf notes : List (TimerEvent κ)) = [])
    (unfinished : notes.any TimerNote.endsPass = false) (answer : α) :
    Stages system (system.commit { manager := after, notes, answer } []) := by
  have charged := stages_reconciled system
  rw [reconciled_of_eq result] at charged
  rw [commit_eq_self _ _ silent unfinished]
  simpa [notesOf, Except.toOption, chargesOf] using charged

/-- A section that reconciles and settles with nothing in between. -/
theorem pass_stages {α : Type} {after : TimerManager H κ} {charged starting : List TimerNote}
    {last : TimerNote} (coherent : system.manager.IsCoherent)
    (result : system.manager.reconcile = (after, .ok charged))
    (silent : ∀ count elapsed, TimerNote.reconciled count elapsed ∉ starting)
    (ends : last.endsPass = true) (answer : α) :
    Stages system (system.commit
      { manager := after.clearExpired.1.startNext.1, notes := charged ++ starting ++ [last]
        fired := after.clearExpired.2, answer } []) := by
  have stages := stages_reconciled system
  have kept := coherent.reconcile
  rw [reconciled_of_eq result] at stages
  rw [result] at kept
  have charges : (chargesOf (charged ++ starting ++ [last]) : List (TimerEvent κ)) =
      chargesOf charged := by
    have last_silent : ∀ count elapsed, TimerNote.reconciled count elapsed ∉ [last] := by
      intro count elapsed reported
      rw [← List.mem_singleton.mp reported] at ends
      cases ends
    rw [chargesOf_append, chargesOf_append, chargesOf_eq_nil silent, chargesOf_eq_nil last_silent,
      List.append_nil, List.append_nil]
  rw [commit_eq_settled _ _ (by simp [ends]), charges, List.append_nil]
  exact stages.trans (stages_settled kept (armed_of_reconcile result))

theorem retire_stages {id : TimerId} {timer : Timer κ} (coherent : system.manager.IsCoherent)
    (held : system.manager.timer? id = some timer) : Stages system (system.retire id) := by
  have kept := coherent.vacated held (atRest_some (rfl : timer.retired.pending = false))
  refine (Stage.retired system held).stages.trans ?_
  have regroup : ∀ done : TimerSection H κ (Except TimerError Bool),
      (system.record [.cancelled id]).commit done [] =
        ({ system with manager := system.manager.vacated id (some timer.retired) }.record
          [.cancelled id]).commit done [] := fun done => rfl
  rw [retire, regroup]
  rcases cancel_cases coherent held with ⟨_, result⟩ | ⟨_, _, result⟩ |
    ⟨_, _, _, _, stuck, result⟩ | ⟨_, _, _, _, reconciled, result⟩
  all_goals rw [result]
  · rw [commit_eq_self _ _ rfl rfl]
    exact .refl _
  · rw [commit_eq_self _ _ rfl rfl]
    exact .refl _
  · exact stopFailed_stages stuck rfl rfl _
  · exact pass_stages kept reconciled (not_reconciled_of_startNext _) rfl _

theorem expire_stages (coherent : system.manager.IsCoherent) :
    Stages system (system.commit system.manager.expire []) := by
  rcases result : system.manager.reconcile with ⟨after, fault | notes⟩
  · rw [expire_of_error result]
    exact stopFailed_stages result rfl rfl _
  · obtain ⟨starting, silent, expired⟩ := expire_of_ok result
    rw [expired]
    exact pass_stages coherent result silent rfl _

/-- Nothing is planned for a timer that has just been retired. -/
theorem plan?_retire (system : TimerSystem H κ) (id : TimerId) :
    plan? id (system.retire id).history = none := by
  have retired : plan? id (system.record [.cancelled id]).history = none := by
    rw [history_record, List.map_singleton, plan?_concat_of_retires (by simp [Entry.retires])]
    rfl
  rw [retire, commit, history_record, plan?_append]
  rw [history_record] at retired
  simp only [record]
  rw [retired]
  apply foldl_follow_none
  intro entry recorded _
  obtain ⟨event, member, rfl⟩ := List.mem_map.mp recorded
  rw [List.append_nil] at member
  rcases List.mem_append.mp member with charged | passed
  · obtain ⟨elapsed, rfl⟩ := mem_chargesOf charged
    rfl
  · rcases mem_passOf passed with ⟨expiry, _, rfl⟩ | rfl <;> rfl

omit [HardwareTimer H] in
/-- An accepted period is not zero. -/
theorem period_pos_of_accept {manager : TimerManager H κ} {mode : TimerMode} {delay : Duration}
    {footprint : Footprint} {ticks : Ticks}
    (accepted : manager.accept mode delay footprint = .ok ticks) :
    mode = .periodic → 0 < ticks.count := by
  intro periodic
  rw [accept] at accepted
  split at accepted
  · cases accepted
  · next given =>
      split at accepted
      · cases accepted
      · next nonzero =>
          split at accepted
          · cases accepted
          · cases accepted
            simp only [periodic, true_and, Bool.not_eq_true, Ticks.isZero,
              beq_eq_false_iff_ne] at nonzero
            omega

end Reactor.TimerSystem
