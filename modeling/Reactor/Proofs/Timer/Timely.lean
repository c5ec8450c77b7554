import Reactor.Proofs.Hardware.Outages
import Reactor.Proofs.Timer.Room
import Reactor.Proofs.Timer.Watch

/-!
# Timers on time

The ticks that a timer has left are spread over its own count and the count of the hardware, and
every section splits them anew.  What stays the same is the time at which they will have passed.
-/

namespace Reactor

namespace SimulatedTimer

/-- The calls of a simulated timer do not fail. -/
def watch : Watch SimulatedTimer where
  Flawless _ := True
  period? timer := some timer.period
  stop_ok _ _ := rfl
  restart_ok timer ticks positive _ := by
    rw [restart_eq positive]
    exact ⟨rfl, rfl⟩

end SimulatedTimer

/-! ## Plans on time -/

namespace Plan

variable {κ : Type} {plan : Plan κ} {timer : Timer κ} {now uncharged : Nat}

/-- When a timer under the plan is due for the time after some rounds. -/
def dueTime (plan : Plan κ) (rounds : Nat) : Nat := plan.start + (rounds + 1) * plan.ticks.count

/-- When a timer under the plan is due next. -/
def nextDue (plan : Plan κ) : Nat := plan.dueTime plan.hits.length

/-- The timer does what its plan says, where `uncharged` are the ticks that have passed since the
hardware was read last. -/
structure OnTime (plan : Plan κ) (timer : Timer κ) (now uncharged : Nat) : Prop where
  /-- The timer is of the planned mode. -/
  mode : timer.mode = plan.mode
  /-- The timer starts over with the planned ticks. -/
  reload : timer.reload = plan.ticks
  /-- The timer waits unless it was to fire once and has fired. -/
  pending_iff : timer.pending = true ↔ plan.mode = .periodic ∨ plan.hits = []
  /-- The timer has fired whenever it was due. -/
  hits_eq : plan.hits = (List.range plan.hits.length).map plan.dueTime
  /-- The timer has not fired in the future. -/
  past : ∀ hit ∈ plan.hits, hit ≤ now
  /-- A one-shot has fired at most once. -/
  once : plan.mode = .oneshot → plan.hits.length ≤ 1
  /-- What is left and what is not yet charged add up to the next due time. -/
  due_eq : timer.pending = true → plan.nextDue + uncharged = now + timer.remaining.count
  /-- What is left and what has been charged add up to the planned ticks. -/
  spent_eq : timer.pending = true → timer.remaining.count + plan.spent = plan.ticks.count

/-- A timer under the plan has fired whenever it was due. -/
def UpToDate (plan : Plan κ) (now : Nat) : Prop :=
  plan.hits = dueTimes plan.mode plan.start plan.ticks.count now

/-- A timer under the plan is due right now and has fired whenever it was due before. -/
def DueNow (plan : Plan κ) (now : Nat) : Prop :=
  plan.hits ++ [now] = dueTimes plan.mode plan.start plan.ticks.count now

/-- A timer that is not overdue has fired at all of its due times. -/
theorem OnTime.upToDate (on_time : plan.OnTime timer now uncharged)
    (period_pos : plan.mode = .periodic → 0 < plan.ticks.count)
    (early : timer.pending = true → now < plan.nextDue) : plan.UpToDate now := by
  rw [UpToDate]
  cases mode : plan.mode with
  | oneshot =>
      have hits_eq := on_time.hits_eq
      have once := on_time.once mode
      rw [dueTimes]
      by_cases unfired : plan.hits = []
      · have waits := early (on_time.pending_iff.mpr (Or.inr unfired))
        simp only [nextDue, dueTime, unfired, List.length_nil, Nat.zero_add, Nat.one_mul] at waits
        rw [unfired, if_neg (by omega)]
      · have one : plan.hits.length = 1 := by
          have nonzero := List.length_pos_iff.mpr unfired
          omega
        simp only [one, List.range_one, List.map_singleton, dueTime, Nat.zero_add,
          Nat.one_mul] at hits_eq
        have fired := on_time.past (plan.start + plan.ticks.count) (by simp [hits_eq])
        rw [hits_eq, if_pos fired]
  | periodic =>
      have pending := on_time.pending_iff.mpr (Or.inl mode)
      have waits := early pending
      have positive := period_pos mode
      have due_eq := on_time.due_eq pending
      have spent_eq := on_time.spent_eq pending
      have rounds : (now - plan.start) / plan.ticks.count = plan.hits.length := by
        simp only [nextDue, dueTime, Nat.succ_mul] at waits due_eq
        apply Nat.div_eq_of_lt_le
        · omega
        · rw [Nat.succ_mul]
          omega
      rw [dueTimes, rounds]
      exact on_time.hits_eq

/-- A timer that waits and is due right now lacks only that. -/
theorem OnTime.dueNow (on_time : plan.OnTime timer now uncharged)
    (period_pos : plan.mode = .periodic → 0 < plan.ticks.count) (pending : timer.pending = true)
    (due : plan.nextDue = now) : plan.DueNow now := by
  rw [DueNow]
  cases mode : plan.mode with
  | oneshot =>
      have unfired : plan.hits = [] := by
        rcases on_time.pending_iff.mp pending with periodic | unfired
        · rw [mode] at periodic
          cases periodic
        · exact unfired
      simp only [nextDue, dueTime, unfired, List.length_nil, Nat.zero_add, Nat.one_mul] at due
      rw [dueTimes, unfired, due]
      simp
  | periodic =>
      have positive := period_pos mode
      have rounds : (now - plan.start) / plan.ticks.count = plan.hits.length + 1 := by
        simp only [nextDue, dueTime] at due
        rw [← due, Nat.add_sub_cancel_left, Nat.mul_div_cancel _ positive]
      rw [dueTimes, rounds, List.range_succ, List.map_append, List.map_singleton]
      congr 1
      · exact on_time.hits_eq
      · rw [← due]
        rfl

end Plan

/-! ## What happens to a timer on time -/

namespace Plan

variable {κ : Type} {plan : Plan κ} {timer : Timer κ} {now uncharged : Nat}

theorem onTime_waiting (mode : TimerMode) (ticks : Ticks) (serial : UInt32) (callback : κ)
    (now : Nat) :
    OnTime { start := now, mode, ticks, serial, callback }
      (.waiting mode ticks ⟨serial, callback⟩) now 0 where
  mode := rfl
  reload := rfl
  pending_iff := by simp [Timer.waiting]
  hits_eq := rfl
  past := by simp
  once := by simp
  due_eq := by simp [Timer.waiting, nextDue, dueTime]
  spent_eq := by simp [Timer.waiting]

/-- Charging what the hardware has counted moves ticks from one side to the other. -/
theorem OnTime.charged {id : TimerId} {elapsed : Ticks}
    (on_time : plan.OnTime timer now elapsed.count)
    (unfloored : timer.pending = true → elapsed.count ≤ timer.remaining.count) :
    (plan.after id [⟨now, .charged elapsed⟩]).OnTime
      (if timer.pending = true then timer.charged elapsed else timer) now 0 := by
  have hits : (plan.after id [⟨now, .charged elapsed⟩]).hits = plan.hits := by
    simp [after, collections, Entry.collects?]
  have next_due : (plan.after id [⟨now, .charged elapsed⟩]).nextDue = plan.nextDue := by
    rw [nextDue, hits]
    rfl
  obtain ⟨mode, reload, waits⟩ :
      (if timer.pending = true then timer.charged elapsed else timer).mode = timer.mode ∧
      (if timer.pending = true then timer.charged elapsed else timer).reload = timer.reload ∧
      (if timer.pending = true then timer.charged elapsed else timer).pending =
        timer.pending := by
    split <;> exact ⟨rfl, rfl, rfl⟩
  refine ⟨mode.trans on_time.mode, reload.trans on_time.reload, ?_, ?_, ?_, ?_, ?_, ?_⟩
  · rw [waits, hits]
    exact on_time.pending_iff
  · rw [hits]
    exact on_time.hits_eq
  · rw [hits]
    exact on_time.past
  · rw [hits]
    exact on_time.once
  · intro pending
    rw [waits] at pending
    have enough := unfloored pending
    have due_eq := on_time.due_eq pending
    rw [next_due, if_pos pending, Timer.charged, Ticks.count_sub]
    omega
  · intro pending
    rw [waits] at pending
    have enough := unfloored pending
    have spent_eq := on_time.spent_eq pending
    rw [if_pos pending, Timer.charged, Ticks.count_sub]
    simp only [after, List.foldl_cons, List.foldl_nil, Entry.spend]
    omega

/-- A due timer fires at its next due time. -/
theorem OnTime.fired {id : TimerId} {entries : List (Entry κ)} (on_time : plan.OnTime timer now 0)
    (due : timer.isDue = true) (collected : collections id entries = [now])
    (forgiven : ∀ spent, entries.foldl (Entry.spend id) spent = 0) :
    (plan.after id entries).OnTime timer.fired now 0 := by
  obtain ⟨pending, none_left⟩ := Timer.isDue_iff.mp due
  have due_now := on_time.due_eq pending
  rw [none_left, Nat.add_zero, Nat.add_zero] at due_now
  have hits : (plan.after id entries).hits = plan.hits ++ [now] := by rw [after, collected]
  have hits_eq : (plan.after id entries).hits =
      (List.range (plan.after id entries).hits.length).map plan.dueTime := by
    rw [hits, List.length_append, List.length_singleton, List.range_succ, List.map_append,
      List.map_singleton, ← on_time.hits_eq, ← due_now]
    rfl
  have past : ∀ hit ∈ (plan.after id entries).hits, hit ≤ now := by
    intro hit member
    rw [hits] at member
    rcases List.mem_append.mp member with earlier | last
    · exact on_time.past hit earlier
    · exact Nat.le_of_eq (List.mem_singleton.mp last)
  cases mode : plan.mode with
  | oneshot =>
      have timer_mode := on_time.mode.trans mode
      have fired : timer.fired = { timer with pending := false } := by
        simp [Timer.fired, timer_mode]
      have unfired : plan.hits = [] := by
        rcases on_time.pending_iff.mp pending with periodic | unfired
        · rw [mode] at periodic
          cases periodic
        · exact unfired
      rw [fired]
      constructor
      · exact on_time.mode
      · exact on_time.reload
      · rw [hits]
        simp [after, mode]
      · exact hits_eq
      · exact past
      · rw [hits, unfired]
        simp
      · exact fun waits => absurd waits Bool.false_ne_true
      · exact fun waits => absurd waits Bool.false_ne_true
  | periodic =>
      have timer_mode := on_time.mode.trans mode
      have fired : timer.fired = { timer with remaining := timer.reload } := by
        simp [Timer.fired, timer_mode]
      rw [fired]
      constructor
      · exact on_time.mode
      · exact on_time.reload
      · simp [after, mode, pending]
      · exact hits_eq
      · exact past
      · simp [after, mode]
      · intro _
        rw [nextDue, hits, List.length_append, List.length_singleton, on_time.reload, ← due_now]
        simp only [nextDue, dueTime, after, Nat.succ_mul]
        omega
      · intro _
        rw [after, forgiven, on_time.reload]
        simp

/-- Time passes for a timer as it does for the hardware. -/
theorem OnTime.elapse {later counted : Nat} (on_time : plan.OnTime timer now uncharged)
    (passed : timer.pending = true → later + uncharged = now + counted) (forward : now ≤ later) :
    plan.OnTime timer later counted := by
  refine ⟨on_time.mode, on_time.reload, on_time.pending_iff, on_time.hits_eq, ?_, on_time.once,
    ?_, on_time.spent_eq⟩
  · exact fun hit fired => Nat.le_trans (on_time.past hit fired) forward
  · intro pending
    have due_eq := on_time.due_eq pending
    have together := passed pending
    omega

end Plan

/-! ## What a pass does to a plan -/

namespace TimerSystem

section

variable {κ : Type} {id : TimerId} {fired : List (Expiry κ)}

theorem collections_firing_of_not_mem (now : Nat) (absent : id ∉ fired.map Expiry.id) :
    collections id ((firing fired).map (Entry.mk now)) = [] ∧
      ∀ spent, ((firing fired).map (Entry.mk now)).foldl (Entry.spend id) spent = spent := by
  induction fired with
  | nil => exact ⟨rfl, fun _ => rfl⟩
  | cons expiry fired induction =>
      rw [List.map_cons, List.mem_cons, not_or] at absent
      obtain ⟨collected, kept⟩ := induction absent.2
      have other : ¬expiry.id = id := fun same => absent.1 same.symm
      constructor
      · simpa [firing, collections, Entry.collects?, other] using collected
      · intro spent
        simpa [firing, Entry.spend, other] using kept spent

theorem collections_firing_of_mem (now : Nat) (distinct : (fired.map Expiry.id).Nodup)
    (listed : id ∈ fired.map Expiry.id) :
    collections id ((firing fired).map (Entry.mk now)) = [now] ∧
      ∀ spent, ((firing fired).map (Entry.mk now)).foldl (Entry.spend id) spent = 0 := by
  induction fired with
  | nil => cases listed
  | cons expiry fired induction =>
      rw [List.map_cons, List.nodup_cons] at distinct
      by_cases same : expiry.id = id
      · subst same
        obtain ⟨collected, kept⟩ := collections_firing_of_not_mem now distinct.1
        constructor
        · simpa [firing, collections, Entry.collects?] using collected
        · intro spent
          simpa [firing, Entry.spend] using kept 0
      · have later : id ∈ fired.map Expiry.id := by
          rw [List.map_cons, List.mem_cons] at listed
          exact listed.resolve_left fun at_head => same at_head.symm
        obtain ⟨collected, forgiven⟩ := induction distinct.2 later
        constructor
        · simpa [firing, collections, Entry.collects?, same] using collected
        · intro spent
          simpa [firing, Entry.spend, same] using forgiven spent

end

end TimerSystem

/-! ## A system on time -/

namespace TimerManager

variable {κ : Type} {manager : TimerManager SimulatedTimer κ}

/-- The ticks that the hardware has counted and that are yet to be charged. -/
def uncharged (manager : TimerManager SimulatedTimer κ) : Nat :=
  if manager.armed then manager.hardware.elapsed.count else 0

theorem uncharged_of_armed (armed : manager.armed = true) :
    manager.uncharged = manager.hardware.elapsed.count := by
  rw [uncharged, if_pos armed]

theorem uncharged_of_idle (idle : manager.armed = false) : manager.uncharged = 0 := by
  rw [uncharged, idle]
  rfl

end TimerManager

namespace TimerSystem

open TimerManager

variable {κ : Type} {system next : TimerSystem SimulatedTimer κ} {storage : TimerStorage}

/-- Every timer does what its plan says. -/
structure Timely (system : TimerSystem SimulatedTimer κ) : Prop where
  /-- Timers and plans agree on times. -/
  on_time : ∀ id plan timer, plan? id system.history = some plan →
    system.manager.timer? id = some timer →
    plan.OnTime timer system.time system.manager.uncharged
  /-- The hardware has not counted past any timer. -/
  unfloored : system.manager.armed = true → ∀ id timer, system.manager.timer? id = some timer →
    timer.pending = true → system.manager.hardware.elapsed.count ≤ timer.remaining.count
  /-- The hardware counts towards its period or has reached it. -/
  running : system.manager.armed = true →
    (system.manager.hardware.phase = .armed ∧
      system.manager.hardware.elapsed.count < system.manager.hardware.period.count) ∨
    (system.manager.hardware.phase = .expired ∧
      system.manager.hardware.elapsed = system.manager.hardware.period)

/-- A change that leaves the hardware alone, under which the timers either keep to their plans or
have none any more. -/
theorem Timely.of_timers (timely : system.Timely)
    (hardware : next.manager.hardware = system.manager.hardware)
    (armed : next.manager.armed = system.manager.armed) (time : next.time = system.time)
    (timers : ∀ id timer, next.manager.timer? id = some timer →
      (plan? id next.history = plan? id system.history ∧
        system.manager.timer? id = some timer) ∨
      (plan? id next.history = none ∧ timer.pending = false)) : next.Timely := by
  constructor
  · intro id plan timer planned held
    have uncharged : next.manager.uncharged = system.manager.uncharged := by
      rw [TimerManager.uncharged, TimerManager.uncharged, armed, hardware]
    rw [time, uncharged]
    rcases timers id timer held with ⟨same_plan, same_timer⟩ | ⟨unplanned, _⟩
    · exact timely.on_time id plan timer (same_plan ▸ planned) same_timer
    · rw [unplanned] at planned
      cases planned
  · intro counting id timer held pending
    rw [armed] at counting
    rw [hardware]
    rcases timers id timer held with ⟨_, same_timer⟩ | ⟨_, idle⟩
    · exact timely.unfloored counting id timer same_timer pending
    · rw [idle] at pending
      cases pending
  · rw [armed, hardware]
    exact timely.running

/-- An entry that retires nothing but one timer leaves the plans of the others as they are. -/
theorem plan?_concat_of_apart {history : List (Entry κ)} {entry : Entry κ} {id other : TimerId}
    (retires : ∀ other, entry.retires other = (id == other))
    (uncollected : ∀ other, entry.collects? other = none)
    (free : ∀ other spent, entry.spend other spent = spent) (apart : other ≠ id) :
    plan? other (history ++ [entry]) = plan? other history := by
  apply plan?_concat_of_ignored _ (uncollected other) (free other)
  rw [retires, beq_eq_false_iff_ne]
  exact Ne.symm apart

/-- A timer leaves the queue, and its plan ends. -/
theorem Timely.vacated {id : TimerId} {timer : Timer κ} {entry : Option (Timer κ)}
    {event : TimerEvent κ} (timely : system.Timely) (held : system.manager.timer? id = some timer)
    (idle : AtRest entry)
    (timers : ∀ other, next.manager.timer? other =
      (system.manager.vacated id entry).timer? other)
    (hardware : next.manager.hardware = system.manager.hardware)
    (armed : next.manager.armed = system.manager.armed) (time : next.time = system.time)
    (history : next.history = system.history ++ [⟨system.time, event⟩])
    (retires : ∀ other, (Entry.mk system.time event).retires other = (id == other))
    (closes : (Entry.mk system.time event).opens? = none)
    (uncollected : ∀ other, (Entry.mk system.time event).collects? other = none)
    (free : ∀ other spent, (Entry.mk system.time event).spend other spent = spent) :
    next.Timely := by
  apply timely.of_timers hardware armed time
  intro other found found_at
  rw [timers, timer?_vacated held] at found_at
  rw [history]
  split at found_at
  · next same =>
      right
      rw [same, plan?_concat_of_retires (by rw [retires, beq_self_eq_true]), closes]
      exact ⟨rfl, idle found found_at⟩
  · next apart =>
      exact Or.inl ⟨plan?_concat_of_apart retires uncollected free apart, found_at⟩

/-- What the hardware has counted is charged. -/
theorem Timely.charged (timely : system.Timely) (coherent : system.manager.IsCoherent)
    {hardware : SimulatedTimer} (armed : system.manager.armed = true)
    (stopped : HardwareTimer.stop system.manager.hardware = (hardware, .ok ())) :
    Timely ({ system with manager := system.manager.chargedTo hardware }.record
      [.charged (HardwareTimer.count hardware)]) := by
  have elapsed : HardwareTimer.count hardware = system.manager.hardware.elapsed := by
    rw [← SimulatedTimer.count_stop, stopped]
  constructor
  · intro id plan timer planned held
    rw [manager_record, coherent.timer?_chargedTo, Option.map_eq_some_iff] at held
    obtain ⟨before, held_before, rfl⟩ := held
    rw [history_record, List.map_singleton, plan?_append_of_quiet (by simp [Entry.retires]),
      Option.map_eq_some_iff] at planned
    obtain ⟨plan, planned_before, rfl⟩ := planned
    have on_time := timely.on_time id plan before planned_before held_before
    rw [uncharged_of_armed armed, ← elapsed] at on_time
    apply on_time.charged
    intro pending
    rw [elapsed]
    exact timely.unfloored armed id before held_before pending
  · exact fun counting => absurd counting Bool.false_ne_true
  · exact fun counting => absurd counting Bool.false_ne_true

/-- A timer starts to wait under a new plan. -/
theorem Timely.queued (timely : system.Timely) {id : TimerId} {timer : Timer κ}
    (queue : ScheduledQueue) (mode : TimerMode) (ticks : Ticks) (callback : κ)
    (idle : system.manager.armed = false) (held : system.manager.timer? id = some timer) :
    Timely ({ system with
      manager := { system.manager with
        queue
        slots := system.manager.slotsWaiting id mode ticks callback
        nextSerial := system.manager.nextSerial + 1 } }.record
      [.scheduled id mode ticks system.manager.nextSerial callback]) := by
  have none_counted := uncharged_of_idle idle
  constructor
  · intro other plan found planned found_at
    rw [manager_record, timer?_eq_held?, held?_slotsWaiting held] at found_at
    rw [history_record, List.map_singleton] at planned
    have on_time := timely.on_time other plan found
    rw [none_counted] at on_time
    have none_counted_after : TimerManager.uncharged { system.manager with
        queue
        slots := system.manager.slotsWaiting id mode ticks callback
        nextSerial := system.manager.nextSerial + 1 } = 0 := none_counted
    rw [manager_record, none_counted_after]
    split at found_at
    · next same =>
        subst same
        rw [plan?_concat_of_retires (by simp [Entry.retires])] at planned
        cases planned
        cases found_at
        exact Plan.onTime_waiting mode ticks _ callback system.time
    · next apart =>
        rw [plan?_concat_of_apart (fun _ => rfl) (fun _ => rfl) (fun _ _ => rfl) apart] at planned
        exact on_time planned found_at
  · exact fun counting => absurd (idle ▸ counting) Bool.false_ne_true
  · exact fun counting => absurd (idle ▸ counting) Bool.false_ne_true

/-- The due timers fire, each at its due time. -/
theorem Timely.cleared (timely : system.Timely) (coherent : system.manager.IsCoherent)
    (housed : system.manager.Housed storage) (collects_all : storage.CollectsAll)
    (idle : system.manager.armed = false) :
    Timely ({ system with
      manager := system.manager.clearExpired.1
      collected := system.collected ++ system.manager.clearExpired.2 }.record
        (firing system.manager.clearExpired.2)) := by
  have cleared := clearExpired_cleared coherent
  have none_counted := uncharged_of_idle idle
  have still_idle := cleared.armed.trans idle
  constructor
  · intro id plan timer planned held
    rw [manager_record, cleared.timers, Option.map_eq_some_iff] at held
    obtain ⟨before, held_before, rfl⟩ := held
    have quiet : ∀ entry ∈ (firing system.manager.clearExpired.2).map (Entry.mk system.time),
        entry.retires id = false := by
      intro entry member
      obtain ⟨event, listed, rfl⟩ := List.mem_map.mp member
      exact quiet_firing _ event listed
    rw [history_record, plan?_append_of_quiet quiet, Option.map_eq_some_iff] at planned
    obtain ⟨plan, planned_before, rfl⟩ := planned
    have on_time := timely.on_time id plan before planned_before held_before
    rw [none_counted] at on_time
    rw [manager_record, uncharged_of_idle still_idle]
    cases due : before.isDue with
    | true =>
        obtain ⟨expiry, collected, same⟩ := cleared.complete
          (housed.collects coherent.inOrder collects_all) id before held_before due
        obtain ⟨hits, forgiven⟩ := collections_firing_of_mem system.time cleared.distinct
          (List.mem_map.mpr ⟨expiry, collected, same⟩)
        rw [Timer.settled, if_pos due]
        exact on_time.fired due hits forgiven
    | false =>
        have uncollected : id ∉ system.manager.clearExpired.2.map Expiry.id := by
          intro listed
          obtain ⟨expiry, collected, rfl⟩ := List.mem_map.mp listed
          obtain ⟨timer, held, was_due, _⟩ := cleared.due expiry collected
          rw [held_before] at held
          cases held
          rw [due] at was_due
          cases was_due
        obtain ⟨hits, kept⟩ := collections_firing_of_not_mem system.time uncollected
        have same_plan : plan.after id
            ((firing system.manager.clearExpired.2).map (Entry.mk system.time)) = plan := by
          rw [Plan.after, hits, kept, List.append_nil]
        rw [same_plan, Timer.settled, if_neg (by simp [due])]
        exact on_time
  · exact fun counting => absurd (still_idle ▸ counting) Bool.false_ne_true
  · exact fun counting => absurd (still_idle ▸ counting) Bool.false_ne_true

/-- The hardware starts to count for some ticks. -/
theorem Timely.restarted (timely : system.Timely) (idle : system.manager.armed = false)
    {hardware : SimulatedTimer} {ticks : Ticks} (positive : 0 < ticks.count)
    (armed : HardwareTimer.restart system.manager.hardware ticks = (hardware, .ok ())) :
    Timely { system with manager := { system.manager with hardware, armed := true } } := by
  rw [SimulatedTimer.restart_eq positive] at armed
  cases armed
  have none_counted := uncharged_of_idle idle
  constructor
  · intro id plan timer planned held
    have on_time := timely.on_time id plan timer planned held
    rw [none_counted] at on_time
    exact on_time
  · exact fun _ _ timer _ _ => Nat.zero_le timer.remaining.count
  · exact fun _ => Or.inl ⟨rfl, positive⟩

theorem Timely.stage (timely : system.Timely) (wellFormed : system.WellFormed)
    (housed : system.manager.Housed storage) (collects_all : storage.CollectsAll)
    (stage : Stage system next) : next.Timely := by
  have coherent := wellFormed.coherent
  cases stage with
  | stopFailed armed failed =>
      rw [SimulatedTimer.stop_eq] at failed
      cases failed
  | charged armed stopped => exact timely.charged coherent armed stopped
  | queued idle owned held period_pos pushed => exact timely.queued _ _ _ _ idle held
  | turnedAway idle held full =>
      exact timely.vacated held (atRest_some rfl) (fun _ => rfl) rfl rfl rfl rfl (fun _ => rfl) rfl
        (fun _ => rfl) (fun _ _ => rfl)
  | retired held =>
      exact timely.vacated held (atRest_some rfl) (fun _ => rfl) rfl rfl rfl rfl (fun _ => rfl) rfl
        (fun _ => rfl) (fun _ _ => rfl)
  | freed given_up held =>
      exact timely.vacated held atRest_none (fun _ => rfl) rfl rfl rfl rfl (fun _ => rfl) rfl
        (fun _ => rfl) (fun _ _ => rfl)
  | cleared idle => exact timely.cleared coherent housed collects_all idle
  | restartFailed idle none_due in_front failed =>
      rw [SimulatedTimer.restart_eq (none_due.remaining_pos coherent
        (ScheduledQueue.mem_of_front? in_front))] at failed
      cases failed
  | restarted idle none_due in_front armed =>
      exact timely.restarted idle
        (none_due.remaining_pos coherent (ScheduledQueue.mem_of_front? in_front)) armed
  | givenUp => exact ⟨timely.on_time, timely.unfloored, timely.running⟩
  | @allocated id slots absent placed capacity size =>
      refine timely.of_timers rfl rfl rfl ?_
      intro other timer held
      rw [timer?_eq_held?, placed] at held
      split at held
      · next same =>
          right
          have accounted := wellFormed.accounted other
          rw [same, absent, Option.bind_none] at accounted
          cases held
          rw [same]
          exact ⟨Option.map_eq_none_iff.mp accounted.symm, rfl⟩
      · exact Or.inl ⟨rfl, held⟩
  | handedOver waits =>
      refine timely.of_timers rfl rfl rfl ?_
      intro other timer held
      exact Or.inl ⟨plan?_concat_of_ignored rfl rfl (fun _ => rfl), held⟩

/-- A system whose manager is new is on time. -/
theorem timely_fresh (hardware : SimulatedTimer) (storage : TimerStorage) :
    (fresh hardware storage : TimerSystem SimulatedTimer κ).Timely where
  on_time := by simp [fresh, plan?]
  unfloored := fun armed => absurd armed Bool.false_ne_true
  running := fun armed => absurd armed Bool.false_ne_true

/-- The front of the queue has no more ticks left than any timer that waits. -/
theorem WellFormed.period_le (wellFormed : system.WellFormed)
    (synced : system.manager.Synced SimulatedTimer.watch) {id : TimerId} {timer : Timer κ}
    (held : system.manager.timer? id = some timer) (pending : timer.pending = true) :
    system.manager.armed = true ∧
      system.manager.hardware.period.count ≤ timer.remaining.count := by
  have queued := Coherent.queued wellFormed.coherent held pending
  have nonempty : system.manager.queue.ids ≠ #[] := by
    intro empty
    simp [empty] at queued
  refine ⟨synced.armed_iff.mpr nonempty, ?_⟩
  cases in_front : system.manager.queue.front? with
  | none => exact absurd (ScheduledQueue.front?_eq_none_iff.mp in_front) nonempty
  | some front =>
      have period := synced.period front in_front
      have least := (Coherent.ordered wellFormed.coherent).front_le in_front queued
      rw [remaining_of_held? held, Ticks.le_iff] at least
      have same : system.manager.hardware.period = remaining system.manager.slots front :=
        Option.some.inj period
      rwa [same]

/-- The hardware counts on, and the time goes on with it. -/
theorem Timely.elapse (timely : system.Timely) (wellFormed : system.WellFormed)
    (synced : system.manager.Synced SimulatedTimer.watch) {hardware : SimulatedTimer} {time : Nat}
    {notices : Nat} (period : hardware.period = system.manager.hardware.period)
    (forward : system.time ≤ time)
    (in_step : system.manager.armed = true →
      time + system.manager.hardware.elapsed.count = system.time + hardware.elapsed.count)
    (running : system.manager.armed = true →
      (hardware.phase = .armed ∧ hardware.elapsed.count < hardware.period.count) ∨
      (hardware.phase = .expired ∧ hardware.elapsed = hardware.period)) :
    ({ system with manager := { system.manager with hardware }, notices, time } :
      TimerSystem SimulatedTimer κ).Timely where
  on_time := by
    intro id plan timer planned held
    apply (timely.on_time id plan timer planned held).elapse _ forward
    intro pending
    have armed := (wellFormed.period_le synced held pending).1
    have armed_after : TimerManager.armed { system.manager with hardware } = true := armed
    rw [uncharged_of_armed armed, uncharged_of_armed armed_after]
    exact in_step armed
  unfloored := by
    intro armed id timer held pending
    have bound := (wellFormed.period_le synced held pending).2
    rw [← period] at bound
    rcases running armed with ⟨_, short⟩ | ⟨_, reached⟩
    · simp only
      omega
    · simp only [reached]
      exact bound
  running := running

/-! ## Being up to date -/

/-- Every schedule in force has been collected at all of its due times. -/
def UpToDate (history : List (Entry κ)) (now : Nat) : Prop :=
  ∀ id plan, plan? id history = some plan → plan.UpToDate now

theorem WellFormed.timer_of_plan? (wellFormed : system.WellFormed) {id : TimerId} {plan : Plan κ}
    (planned : plan? id system.history = some plan) :
    ∃ timer, system.manager.timer? id = some timer := by
  have accounted := wellFormed.accounted id
  rw [planned, Option.map_some] at accounted
  obtain ⟨timer, held, _⟩ := Option.bind_eq_some_iff.mp accounted
  exact ⟨timer, held⟩

theorem WellFormed.ticks_pos (wellFormed : system.WellFormed) (timely : system.Timely)
    {id : TimerId} {plan : Plan κ} {timer : Timer κ}
    (planned : plan? id system.history = some plan)
    (held : system.manager.timer? id = some timer) :
    plan.mode = .periodic → 0 < plan.ticks.count := by
  intro periodic
  have on_time := timely.on_time id plan timer planned held
  have pending := on_time.pending_iff.mpr (Or.inl periodic)
  rw [← on_time.reload]
  exact (wellFormed.coherent.ready held pending).reload_pos (on_time.mode.trans periodic)

/-- Nothing is missing where no timer that waits has reached its due time. -/
theorem Timely.upToDate (timely : system.Timely) (wellFormed : system.WellFormed)
    (early : ∀ id timer, system.manager.timer? id = some timer → timer.pending = true →
      system.manager.uncharged < timer.remaining.count) :
    UpToDate system.history system.time := by
  intro id plan planned
  obtain ⟨timer, held⟩ := wellFormed.timer_of_plan? planned
  have on_time := timely.on_time id plan timer planned held
  apply on_time.upToDate (wellFormed.ticks_pos timely planned held)
  intro pending
  have due_eq := on_time.due_eq pending
  have left := early id timer held pending
  omega

/-- Every pass leaves the schedules in force up to date. -/
def PassesUpToDate (history : List (Entry κ)) : Prop :=
  AtEach (fun before entry => entry.event = .passed → UpToDate before entry.time) history

theorem PassesUpToDate.append_of_others {history : List (Entry κ)}
    (passes : PassesUpToDate history) {time : Nat} {events : List (TimerEvent κ)}
    (others : ∀ event ∈ events, event ≠ .passed) :
    PassesUpToDate (history ++ events.map (Entry.mk time)) := by
  apply AtEach.append_of_forall passes
  intro entry member before passed
  obtain ⟨event, listed, rfl⟩ := List.mem_map.mp member
  exact absurd passed (others event listed)

theorem PassesUpToDate.stage (passes : PassesUpToDate system.history) (timely : system.Timely)
    (wellFormed : system.WellFormed) (housed : system.manager.Housed storage)
    (collects_all : storage.CollectsAll) (stage : Stage system next) :
    PassesUpToDate next.history := by
  have timely_after := timely.stage wellFormed housed collects_all stage
  have wellFormed_after := wellFormed.stage stage
  cases stage with
  | stopFailed | restartFailed | restarted | givenUp | allocated => exact passes
  | charged | queued | turnedAway | retired | freed | handedOver =>
      exact passes.append_of_others (by simp)
  | cleared idle =>
      have cleared := clearExpired_cleared wellFormed.coherent
      have none_due := cleared.noneDue wellFormed.coherent
      have up_to_date := timely_after.upToDate wellFormed_after (by
        intro id timer held pending
        have waits := none_due id timer held
        rw [Bool.eq_false_iff, ne_eq, Timer.isDue_iff, not_and] at waits
        rw [manager_record, uncharged_of_idle (cleared.armed.trans idle)]
        exact Nat.pos_of_ne_zero (waits pending))
      rw [history_record, firing, List.map_append, ← List.append_assoc] at up_to_date ⊢
      apply AtEach.concat
      · exact passes.append_of_others (by simp)
      · intro _ id plan planned
        apply up_to_date id plan
        rw [List.map_singleton, plan?_concat_of_ignored rfl rfl (fun _ => rfl)]
        exact planned

end TimerSystem

end Reactor
