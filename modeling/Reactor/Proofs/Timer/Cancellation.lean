import Reactor.Proofs.Timer.Refusals

/-!
# What a cancellation leaves behind

A cancellation takes its timer out of the queue before it touches the hardware, so the timer is
retired whichever call of the hardware fails.  Other timers are charged at most what the hardware
had counted.  Between two moves nothing is due, so what fires in a cancellation was brought there
by the count that the cancellation read.
-/

namespace Reactor

/-! ## Passes over a single timer -/

namespace Timer

variable {κ : Type} {timer : Timer κ} {elapsed : Ticks}

/-- The timer after a pass that charges some ticks to the timers that wait. -/
def after (elapsed : Ticks) (timer : Timer κ) : Timer κ :=
  (if timer.pending = true then timer.charged elapsed else timer).settled

@[simp]
theorem charged_zero (timer : Timer κ) : timer.charged .zero = timer := by
  have whole : timer.remaining - .zero = timer.remaining := Ticks.ext (Nat.sub_zero _)
  rw [charged, whole]

theorem settled_of_idle (idle : timer.pending = false) : timer.settled = timer := by
  rw [settled, isDue, idle, Bool.false_and, if_neg Bool.false_ne_true]

theorem settled_of_not_due (waits : timer.isDue = false) : timer.settled = timer := by
  rw [settled, waits, if_neg Bool.false_ne_true]

theorem after_of_idle (idle : timer.pending = false) : timer.after elapsed = timer := by
  rw [after, idle, if_neg Bool.false_ne_true, settled_of_idle idle]

theorem after_zero (waits : timer.isDue = false) : timer.after .zero = timer := by
  rw [after, charged_zero, ite_self, settled_of_not_due waits]

/-- A timer that waits for longer than has been counted goes on waiting. -/
theorem after_of_lt (pending : timer.pending = true) (less : elapsed < timer.remaining) :
    timer.after elapsed = { timer with remaining := timer.remaining - elapsed } := by
  have left : (timer.charged elapsed).isDue = false := by
    rw [Bool.eq_false_iff, ne_eq, isDue_iff]
    simp only [charged, Ticks.count_sub, Ticks.lt_iff] at less ⊢
    omega
  rw [after, if_pos pending, settled_of_not_due left]
  rfl

/-- A timer fires if all of its ticks have been counted. -/
theorem after_of_le (pending : timer.pending = true) (enough : timer.remaining ≤ elapsed) :
    timer.after elapsed = (timer.charged elapsed).fired := by
  have due : (timer.charged elapsed).isDue = true := by
    rw [isDue_iff]
    simp only [charged, Ticks.count_sub, Ticks.le_iff] at enough ⊢
    exact ⟨pending, by omega⟩
  rw [after, if_pos pending, settled, if_pos due]

/-- What a call that charges some ticks leaves of a timer. -/
inductive Bystander (elapsed : Ticks) (before : Timer κ) : Timer κ → Prop where
  /-- A timer that does not wait stays as it is. -/
  | idle (idle : before.pending = false) : Bystander elapsed before before
  /-- A timer with more ticks left waits on. -/
  | waits (pending : before.pending = true) (less : elapsed < before.remaining) :
      Bystander elapsed before { before with remaining := before.remaining - elapsed }
  /-- A timer whose ticks have all been counted fires. -/
  | fires (pending : before.pending = true) (some_left : 0 < before.remaining.count)
      (enough : before.remaining ≤ elapsed) :
      Bystander elapsed before (before.charged elapsed).fired

/-- Unless a timer is due already, a pass does no more to it. -/
theorem bystander_after (waits : timer.isDue = false) :
    timer.Bystander elapsed (timer.after elapsed) := by
  cases pending : timer.pending with
  | false =>
      rw [after_of_idle pending]
      exact .idle pending
  | true =>
      by_cases enough : timer.remaining ≤ elapsed
      · rw [after_of_le pending enough]
        refine .fires pending (Nat.pos_of_ne_zero fun none_left => ?_) enough
        rw [isDue_iff.mpr ⟨pending, none_left⟩] at waits
        cases waits
      · have less : elapsed < timer.remaining := Nat.lt_of_not_le enough
        rw [after_of_lt pending less]
        exact .waits pending less

@[simp]
theorem schedule_after (timer : Timer κ) : (timer.after elapsed).schedule = timer.schedule := by
  rw [after, schedule_settled]
  split <;> rfl

end Timer

/-! ## Nothing is due between two moves -/

namespace TimerManager

variable {H κ : Type} {manager next : TimerManager H κ} {id : TimerId} {timer : Timer κ}

theorem NoneDue.congr (none_due : manager.NoneDue) (slots : next.slots = manager.slots) :
    next.NoneDue := by
  intro id timer held
  rw [timer?, slots] at held
  exact none_due id timer held

theorem NoneDue.vacated (none_due : manager.NoneDue) (held : manager.timer? id = some timer)
    {entry : Option (Timer κ)} (idle : AtRest entry) : (manager.vacated id entry).NoneDue := by
  intro other found placed
  rw [timer?_vacated held] at placed
  split at placed
  · rw [Timer.isDue, idle found placed, Bool.false_and]
  · exact none_due other found placed

variable [HardwareTimer H]

theorem IsCoherent.startNext (coherent : manager.IsCoherent) : manager.startNext.1.IsCoherent := by
  rcases startNext_cases manager with
    ⟨_, result⟩ | ⟨front, _, ⟨_, _, _, result⟩ | ⟨_, _, result⟩⟩
  all_goals
    rw [result]
    exact coherent.congr rfl rfl

/-- A section that has gone through all stages leaves nothing due. -/
theorem noneDue_startNext (coherent : manager.IsCoherent) :
    manager.clearExpired.1.startNext.1.NoneDue := by
  intro id timer held
  rw [timer?_startNext] at held
  exact (clearExpired_cleared coherent).noneDue coherent id timer held

theorem NoneDue.of_stopFailed {fault : Hardware.Fault} (none_due : manager.NoneDue)
    (failed : manager.reconcile = (next, .error fault)) : next.NoneDue := by
  obtain ⟨_, hardware, _, rfl⟩ := stopFailed_of_reconcile failed
  exact none_due.congr rfl

theorem NoneDue.schedule {mode : TimerMode} {ticks : Ticks} (callback : κ)
    (none_due : manager.NoneDue) (coherent : manager.IsCoherent)
    (held : manager.timer? id = some timer) (period_pos : mode = .periodic → 0 < ticks.count) :
    (manager.schedule id mode ticks callback).manager.NoneDue := by
  rcases schedule_cases mode ticks callback coherent held with
    ⟨_, _, stuck, _, result⟩ | ⟨_, _, _, reconciled, kept, still_held, result⟩
  all_goals rw [result]
  · exact none_due.of_stopFailed stuck
  · exact noneDue_startNext
      (kept.enqueue callback still_held period_pos (armed_of_reconcile reconciled)).1

theorem NoneDue.expire (none_due : manager.NoneDue) (coherent : manager.IsCoherent) :
    manager.expire.manager.NoneDue := by
  have kept := coherent.reconcile
  rcases result : manager.reconcile with ⟨after, fault | notes⟩
  · rw [expire_of_error result]
    exact none_due.of_stopFailed result
  · rw [result] at kept
    obtain ⟨_, _, expired⟩ := expire_of_ok result
    rw [expired]
    exact noneDue_startNext kept

/-! ## The stages of a cancellation -/

/-- The hardware was counting, and this is the count with which it could be stopped. -/
def Reads (manager : TimerManager H κ) (elapsed : Ticks) : Prop :=
  manager.armed = true ∧ ∃ stopped, HardwareTimer.stop manager.hardware = (stopped, .ok ()) ∧
    elapsed = HardwareTimer.count stopped

/-- The hardware of a manager once it does not count. -/
def Halts (manager : TimerManager H κ) (hardware : H) : Prop :=
  manager.armed = false ∧ hardware = manager.hardware ∨
    manager.armed = true ∧ HardwareTimer.stop manager.hardware = (hardware, .ok ())

/-- A call of the hardware failed with a fault on the way to `next`: it did not stop, or it could
not be armed for the timer that is then in front. -/
def Refuses (manager next : TimerManager H κ) (fault : Hardware.Fault) : Prop :=
  (manager.armed = true ∧
      HardwareTimer.stop manager.hardware = (next.hardware, .error fault)) ∨
    ∃ hardware front, manager.Halts hardware ∧ next.queue.front? = some front ∧
      HardwareTimer.restart hardware (remaining next.slots front) = (next.hardware, .error fault)

/-- A manager without the timer that is cancelled, once what the hardware counted is charged. -/
theorem reconcile_vacated (coherent : manager.IsCoherent) {entry : Option (Timer κ)}
    (held : manager.timer? id = some timer) (idle : AtRest entry) {notes : List TimerNote}
    (stopped : (manager.vacated id entry).reconcile = (next, .ok notes)) :
    next.IsCoherent ∧ manager.Halts next.hardware ∧
      ∃ elapsed, (elapsed = .zero ∨ manager.Reads elapsed) ∧ ∀ other,
        (next.timer? other).map Timer.settled =
          ((manager.vacated id entry).timer? other).map (Timer.after elapsed) := by
  have away := coherent.vacated held idle
  have kept := away.reconcile
  rw [stopped] at kept
  rcases reconcile_cases (manager.vacated id entry) with ⟨idle_hardware, result⟩ |
    ⟨hardware, _, _, _, result⟩ | ⟨hardware, armed, counted, result⟩
  all_goals
    rw [stopped] at result
    cases result
  · refine ⟨kept, Or.inl ⟨idle_hardware, rfl⟩, .zero, Or.inl rfl, fun other => ?_⟩
    congr 1
    funext found
    rw [Timer.after, Timer.charged_zero, ite_self]
  · refine ⟨kept, Or.inr ⟨armed, counted⟩, _, Or.inr ⟨armed, hardware, counted, rfl⟩, ?_⟩
    intro other
    rw [away.timer?_chargedTo, Option.map_map]
    rfl

/-- A cancellation retires its timer, charges one count to the others, and fails only where the
hardware does and the timer was in front. -/
theorem cancel_spec (coherent : manager.IsCoherent) (none_due : manager.NoneDue)
    (held : manager.timer? id = some timer) :
    (manager.cancel id).manager.IsCoherent ∧ (manager.cancel id).manager.NoneDue ∧
      (∃ elapsed, (elapsed = .zero ∨ manager.Reads elapsed) ∧
        ∀ other, (manager.cancel id).manager.timer? other =
          if other = id then some timer.retired
          else (manager.timer? other).map (Timer.after elapsed)) ∧
      ((timer.pending = false ∧ (manager.cancel id).answer = .ok false) ∨
        timer.pending = true ∧ ((manager.cancel id).answer = .ok true ∨
          ∃ fault, (manager.cancel id).answer = .error (.hardware fault) ∧
            manager.queue.front? = some id ∧
              manager.Refuses (manager.cancel id).manager fault)) := by
  have idle : AtRest (some timer.retired) := atRest_some rfl
  have away := coherent.vacated held idle
  have still_none_due := none_due.vacated held idle
  have untouched : ∀ other, (manager.vacated id (some timer.retired)).timer? other =
      if other = id then some timer.retired
      else (manager.timer? other).map (Timer.after .zero) := by
    intro other
    rw [timer?_vacated held]
    split
    · rfl
    · cases found : manager.timer? other with
      | none => rfl
      | some other_timer =>
          rw [Option.map_some, Timer.after_zero (none_due other other_timer found)]
  rcases cancel_cases coherent held with ⟨not_pending, result⟩ | ⟨pending, _, result⟩ |
    ⟨after, fault, pending, in_front, stuck, result⟩ |
    ⟨after, notes, pending, in_front, stopped, result⟩
  all_goals rw [result]
  · exact ⟨away, still_none_due, ⟨.zero, Or.inl rfl, untouched⟩, Or.inl ⟨not_pending, rfl⟩⟩
  · exact ⟨away, still_none_due, ⟨.zero, Or.inl rfl, untouched⟩, Or.inr ⟨pending, Or.inl rfl⟩⟩
  · obtain ⟨armed, hardware, refused, rfl⟩ := stopFailed_of_reconcile stuck
    exact ⟨away.congr rfl rfl, still_none_due.congr rfl, ⟨.zero, Or.inl rfl, untouched⟩,
      Or.inr ⟨pending, Or.inr ⟨fault, rfl, in_front, Or.inl ⟨armed, refused⟩⟩⟩⟩
  · obtain ⟨kept, halted, elapsed, read, timers⟩ := reconcile_vacated coherent held idle stopped
    have cleared := clearExpired_cleared kept
    have same_hardware := congrArg TimerManager.hardware cleared.frame
    refine ⟨cleared.coherent.startNext, noneDue_startNext kept, ⟨elapsed, read, ?_⟩,
      Or.inr ⟨pending, ?_⟩⟩
    · intro other
      rw [timer?_startNext, cleared.timers, timers, timer?_vacated held]
      split
      · rw [Option.map_some, Timer.after_of_idle rfl]
      · rfl
    · rcases startNext_cases after.clearExpired.1 with
        ⟨_, started⟩ | ⟨front, next_front, ⟨refusing, fault, refused, started⟩ | ⟨_, _, started⟩⟩
      · rw [started]
        exact Or.inl rfl
      · rw [same_hardware] at refused
        rw [started]
        exact Or.inr ⟨fault, rfl, in_front,
          Or.inr ⟨after.hardware, front, halted, next_front, refused⟩⟩
      · rw [started]
        exact Or.inl rfl

omit [HardwareTimer H] in
/-- Replacing a slot by what it holds changes nothing. -/
theorem set_held? (slots : Roster (Option (Timer κ))) (id : TimerId) :
    slots.set id.index (held? slots id) = slots := by
  have entries : slots.entries.setIfInBounds id.index (held? slots id) = slots.entries := by
    apply Array.ext_getElem?
    intro place
    rw [Array.getElem?_setIfInBounds, held?, Roster.get?]
    split
    · next same =>
        subst same
        split
        · next inside => rw [Array.getElem?_eq_getElem inside, Option.join_some]
        · next outside => rw [Array.getElem?_eq_none (Nat.le_of_not_lt outside)]
    · rfl
  rw [Roster.set, entries]

omit [HardwareTimer H] in
/-- Freeing an id without a timer changes nothing. -/
theorem IsCoherent.free_of_absent (coherent : manager.IsCoherent)
    (absent : manager.timer? id = none) :
    manager.free id = { manager, notes := [.freed id], answer := () } := by
  have unqueued : id ∉ manager.queue.ids := by
    rw [Coherent.queued_iff coherent, ← timer?_eq_held?, absent]
    rintro ⟨_, ⟨⟩, _⟩
  have same_queue := withdrawn_of_not_mem unqueued
  have nothing : manager.dequeue id = manager := by
    rw [withdrawn] at same_queue
    rw [timer?] at absent
    simp only [dequeue, change, absent, same_queue]
  rw [free, nothing, ← absent, timer?_eq_held?, set_held?]

/-- Cancelling a timer that neither waits nor holds a schedule changes nothing. -/
theorem cancel_of_retired (held : manager.timer? id = some timer) (idle : timer.pending = false)
    (unscheduled : timer.schedule = none) :
    manager.cancel id = { manager, answer := .ok false } := by
  have same : timer.disarm = timer := by rw [Timer.disarm, ← unscheduled]
  have unchanged : manager.slots.set id.index (some timer) = manager.slots := by
    rw [← held, timer?_eq_held?, set_held?]
  simp [cancel, held, idle, same, unchanged]

end TimerManager

/-! ## Runs in the open -/

namespace TimerSystem

open TimerManager

variable {δ H κ : Type} [HardwareTimer H] {change : δ → H → H} {system : TimerSystem H κ}
  {hardware : H} {storage : TimerStorage} {id : TimerId}

theorem noneDue_fresh (hardware : H) (storage : TimerStorage) :
    (fresh hardware storage : TimerSystem H κ).manager.NoneDue := by
  intro id timer held
  simp [fresh, new, timer?, Roster.empty, Roster.get?] at held

/-- No move of a user leaves a timer that is due. -/
theorem noneDue_perform (wellFormed : system.WellFormed) (none_due : system.manager.NoneDue)
    (move : TimerMove κ) : (system.perform move).manager.NoneDue := by
  have retired : ∀ id ∈ system.handles, (system.retire id).manager.NoneDue := by
    intro id owned
    obtain ⟨timer, held⟩ := wellFormed.exists_timer (Or.inl owned)
    exact (cancel_spec wellFormed.coherent none_due held).2.1
  cases move with
  | allocate =>
      rw [perform]
      split
      · next id allocated =>
          obtain ⟨slots, result, _, placed, _⟩ := allocate_of_ok allocated
          rw [result]
          intro other timer held
          rw [timer?_eq_held?, placed] at held
          split at held
          · cases held
            rfl
          · exact none_due other timer held
      · exact none_due
  | schedule id mode delay footprint callback =>
      rw [perform]
      split
      · next owned =>
          obtain ⟨timer, held⟩ := wellFormed.exists_timer (Or.inl owned)
          split
          · next ticks accepted =>
              exact none_due.schedule callback wellFormed.coherent held
                (period_pos_of_accept accepted)
          · exact none_due
      · exact none_due
  | cancel id =>
      rw [perform]
      split
      · next owned => exact retired id owned
      · exact none_due
  | release id =>
      rw [perform]
      split
      · next owned => exact retired id owned
      · exact none_due
  | free id =>
      rw [perform]
      split
      · next given_up =>
          obtain ⟨timer, held⟩ := wellFormed.exists_timer (Or.inr given_up)
          rw [free_eq held]
          exact none_due.vacated held atRest_none
      · exact none_due
  | expire => exact none_due.expire wellFormed.coherent
  | handOver place =>
      rw [perform]
      split <;> exact none_due

theorem noneDue_openRun (change : δ → H → H) (hardware : H) (storage : TimerStorage)
    (moves : List (OpenMove δ κ)) : (openRun change hardware storage moves).manager.NoneDue := by
  have both : (openRun change hardware storage moves).WellFormed ∧
      (openRun change hardware storage moves).manager.NoneDue := by
    apply openRun_keeps fun system => system.WellFormed ∧ system.manager.NoneDue
    · exact ⟨wellFormed_fresh hardware storage, noneDue_fresh hardware storage⟩
    · rintro system move ⟨wellFormed, none_due⟩
      refine ⟨wellFormed.undergo move, ?_⟩
      cases move with
      | use asked =>
          rw [undergo]
          split
          · exact noneDue_perform wellFormed none_due asked
          · exact none_due
      | stir | abandon | deliver | teardown => exact none_due.congr rfl
  exact both.2

end TimerSystem

/-! ## The call in its surroundings -/

namespace TimerService

variable {σ H κ α : Type} {service : TimerService σ H κ} {world : σ}

/-- What follows a section, once the manager has been replaced: reports are taken, callbacks are
handed over, and only then the caller gets the answer. -/
def conclude (service : TimerService σ H κ) (done : TimerSection H κ α) : Exec σ α := do
  done.notes.forM service.report
  done.fired.forM service.handOver
  return done.answer

theorem runFrom_commit (act : TimerManager H κ → TimerSection H κ α) (world : σ) :
    (service.commit act).runFrom world =
      (service.conclude (act (service.manager.get world))).runFrom
        (service.manager.set (act (service.manager.get world)).manager world) := rfl

/-- A callback is skipped once its timer holds no schedule. -/
theorem runFrom_deliver_of_unscheduled {timer : Timer κ} {expiry : Expiry κ}
    (held : (service.manager.get world).timer? expiry.id = some timer)
    (unscheduled : timer.schedule = none) :
    (service.deliver expiry).runFrom world =
      (service.report (.skipped expiry.id)).runFrom world := by
  have retired : (service.manager.get world).isCurrent expiry.id expiry.serial = false := by
    rw [TimerManager.isCurrent, held, Option.any_some, Timer.holds, unscheduled, Option.any_none]
  simp only [runFrom_deliver, retired, Bool.and_false, Bool.false_eq_true, if_false]

end TimerService

namespace TimerSystem

open TimerManager

variable {δ H κ : Type} [HardwareTimer H]

/-- Whatever the hardware does, the section of a cancellation retires its timer and answers whether
it was pending; only for the timer in front can it fail, and then a call of the hardware has failed.
The others are charged at most what the hardware had counted.  All this comes before anything is
reported or handed over, and a second cancellation finds nothing to do. -/
theorem cancel_retires_timer (change : δ → H → H) (hardware : H) (storage : TimerStorage)
    (moves : List (OpenMove δ κ)) (system : TimerSystem H κ)
    (reached : system = openRun change hardware storage moves) (id : TimerId)
    (owned : id ∈ system.handles) :
    ∃ done, done = system.manager.cancel id ∧
      (∃ timer, done.manager.timer? id = some timer ∧ timer.pending = false ∧
        timer.schedule = none) ∧
      id ∉ done.manager.queue.ids ∧
      (done.answer = .ok false ↔ system.manager.isPending id = false) ∧
      (∀ error, done.answer = .error error →
        system.manager.isPending id = true ∧ system.manager.queue.front? = some id ∧
        ∃ fault, error = .hardware fault ∧ system.manager.Refuses done.manager fault) ∧
      (∃ elapsed, (elapsed = .zero ∨ system.manager.Reads elapsed) ∧
        ∀ other before, other ≠ id → system.manager.timer? other = some before →
          ∃ after, done.manager.timer? other = some after ∧ after.schedule = before.schedule ∧
            before.Bystander elapsed after ∧
            (other ∈ done.manager.queue.ids ↔ after.pending = true)) ∧
      done.manager.cancel id = { manager := done.manager, answer := .ok false } ∧
      ∀ {σ : Type} (service : TimerService σ H κ) (world : σ),
        (service.manager.get world = system.manager →
          (service.tryCancel (some id)).runFrom world =
            (service.conclude done).runFrom (service.manager.set done.manager world)) ∧
        (service.manager.get world = done.manager →
          (∀ serial callback, (service.deliver ⟨id, serial, callback⟩).runFrom world =
            (service.report (.skipped id)).runFrom world) ∧
          (service.tryCancel (some id)).runFrom world =
            (.ok (.ok false), service.manager.set done.manager world)) := by
  have wellFormed := (openRun_sound change hardware storage moves).1
  have none_due := noneDue_openRun change hardware storage moves
  rw [← reached] at wellFormed none_due
  obtain ⟨timer, held⟩ := wellFormed.exists_timer (Or.inl owned)
  obtain ⟨coherent, _, ⟨elapsed, read, timers⟩, answer⟩ :=
    cancel_spec wellFormed.coherent none_due held
  have asked : system.manager.isPending id = timer.pending := by
    rw [isPending, held, Option.any_some]
  have retired : (system.manager.cancel id).manager.timer? id = some timer.retired := by
    rw [timers, if_pos rfl]
  have again : (system.manager.cancel id).manager.cancel id =
      { manager := (system.manager.cancel id).manager, answer := .ok false } :=
    cancel_of_retired retired rfl rfl
  refine ⟨_, rfl, ⟨_, retired, rfl, rfl⟩, ?_, ?_, ?_, ⟨elapsed, read, ?_⟩, again, ?_⟩
  · intro queued
    cases Coherent.pending_of_queued coherent retired queued
  · rw [asked]
    rcases answer with ⟨idle, answered⟩ | ⟨pending, answered | ⟨fault, failed, _⟩⟩
    · exact iff_of_true answered idle
    · rw [answered, pending]
      decide
    · rw [failed, pending]
      exact iff_of_false (by simp) (by simp)
  · intro error failed
    rw [asked]
    rcases answer with ⟨_, answered⟩ | ⟨pending, answered | ⟨fault, refused, in_front, because⟩⟩
    · rw [answered] at failed
      cases failed
    · rw [answered] at failed
      cases failed
    · rw [refused, Except.error.injEq] at failed
      exact ⟨pending, in_front, fault, failed.symm, because⟩
  · intro other before apart found
    have left : (system.manager.cancel id).manager.timer? other = some (before.after elapsed) := by
      rw [timers, if_neg apart, found, Option.map_some]
    refine ⟨_, left, before.schedule_after, Timer.bystander_after (none_due other before found), ?_⟩
    exact ⟨Coherent.pending_of_queued coherent left, Coherent.queued coherent left⟩
  · intro σ service world
    refine ⟨fun shown => ?_, fun shown => ⟨fun serial callback => ?_, ?_⟩⟩
    · rw [TimerService.tryCancel, TimerService.runFrom_commit, shown]
    · exact TimerService.runFrom_deliver_of_unscheduled (shown ▸ retired) rfl
    · rw [TimerService.tryCancel, TimerService.runFrom_commit, shown, again]
      rfl

/-- Three timers wait, one of them for as long as the hardware then counts, and the hardware is
about to refuse to be armed. -/
def unrearmedMoves : List (OpenMove UnreliableTimer.Change Nat) :=
  [.use .allocate, .use .allocate, .use .allocate,
    .use (.schedule ⟨0⟩ .oneshot (.ofMicros 10) { bytes := 8 } 1),
    .use (.schedule ⟨1⟩ .periodic (.ofMicros 10) { bytes := 8 } 2),
    .use (.schedule ⟨2⟩ .oneshot (.ofMicros 30) { bytes := 8 } 3),
    .stir (.tick (.clamp 10)), .stir (.restartOutage ⟨1, .broken "stuck register"⟩)]

/-- The timer in front is cancelled although the hardware cannot be armed for the next one; of the
others, one fires in this call and one waits for the ticks that are left. -/
theorem failing_cancel_retires_front :
    ∃ system, system = unreliableRun unrearmedMoves ∧ ⟨0⟩ ∈ system.handles ∧
      system.manager.isPending ⟨0⟩ = true ∧
      ∃ done, done = system.manager.cancel ⟨0⟩ ∧
        done.answer = .error (.hardware (.broken "stuck register")) ∧
        done.fired = [⟨⟨1⟩, 1, 2⟩] ∧ done.manager.queue.ids.toList = [⟨1⟩, ⟨2⟩] ∧
        ((done.manager.timer? ⟨2⟩).map fun timer => timer.remaining.count) = some 20 ∧
        ⟨0⟩ ∉ done.manager.queue.ids ∧
        done.manager.cancel ⟨0⟩ = { manager := done.manager, answer := .ok false } := by
  have owned : ⟨0⟩ ∈ (unreliableRun unrearmedMoves).handles := by decide +kernel
  obtain ⟨_, rfl, _, unqueued, _, _, _, again, _⟩ :=
    cancel_retires_timer _ _ _ unrearmedMoves _ rfl ⟨0⟩ owned
  refine ⟨_, rfl, owned, by decide +kernel, _, rfl, by decide +kernel, by decide +kernel,
    by decide +kernel, by decide +kernel, unqueued, again⟩

end TimerSystem

end Reactor
