import Reactor.Proofs.Hardware.Outages
import Reactor.Proofs.Timer.Decisions
import Reactor.Proofs.Timer.Ledger
import Reactor.Proofs.Timer.OpenRun
import Reactor.Proofs.Timer.Timely

/-!
# Timers on unreliable hardware

The hardware may refuse to stop or to be armed at any time, so the manager may find it running with
nobody to run for, or standing still with timers that wait.  Time is measured here by the ticks that
the hardware counts.  Outages delay timers; they make none early, and they lose and repeat nothing.
-/

namespace Reactor

/-! ## Plans that are not hurried -/

namespace Plan

variable {κ : Type} {plan : Plan κ} {timer : Timer κ} {id : TimerId} {now unread : Nat}
  {complete : Prop}

/-- When the timer fired last, or else when the plan was made. -/
def latest (plan : Plan κ) : Nat := plan.hits.getLastD plan.start

/-- The timer fires no earlier than its plan says, where `unread` are the ticks that are yet to be
charged and `complete` says that whatever fires is collected. -/
structure Unhurried (plan : Plan κ) (timer : Timer κ) (now unread : Nat) (complete : Prop) :
    Prop where
  mode : timer.mode = plan.mode
  reload : timer.reload = plan.ticks
  /-- What is off the ticks that it waits for has been charged. -/
  covered : timer.pending = true → plan.ticks.count ≤ timer.remaining.count + plan.spent
  /-- What has been charged was counted since it fired last. -/
  counted : timer.pending = true → plan.latest + plan.spent + unread ≤ now
  /-- A one-shot that waits has not fired. -/
  unfired : timer.pending = true → plan.mode = .oneshot → plan.hits = []
  /-- Only a one-shot whose ticks have been counted does not wait. -/
  fired : timer.pending = false → plan.mode = .oneshot ∧ plan.start + plan.ticks.count ≤ now ∧
    (complete → plan.hits ≠ [])

theorem unhurried_waiting (mode : TimerMode) (ticks : Ticks) (serial : UInt32) (callback : κ)
    (now : Nat) (complete : Prop) :
    Plan.Unhurried { start := now, mode, ticks, serial, callback }
      (.waiting mode ticks ⟨serial, callback⟩) now 0 complete where
  mode := rfl
  reload := rfl
  covered _ := Nat.le_refl _
  counted _ := Nat.le_refl _
  unfired _ _ := rfl
  fired idle := nomatch idle

/-- A timer that is due has waited long enough. -/
theorem Unhurried.ripe (unhurried : plan.Unhurried timer now 0 complete)
    (due : timer.isDue = true) :
    plan.latest + plan.ticks.count ≤ now ∧ (plan.mode = .oneshot → plan.hits = []) := by
  obtain ⟨pending, none_left⟩ := Timer.isDue_iff.mp due
  have covered := unhurried.covered pending
  have counted := unhurried.counted pending
  constructor
  · omega
  · exact unhurried.unfired pending

theorem Unhurried.charged {elapsed : Ticks} (time : Nat)
    (unhurried : plan.Unhurried timer now elapsed.count complete) :
    (plan.after id [⟨time, .charged elapsed⟩]).Unhurried
      (if timer.pending = true then timer.charged elapsed else timer) now 0 complete := by
  have after : plan.after id [⟨time, .charged elapsed⟩] =
      { plan with spent := plan.spent + elapsed.count } := by
    simp [Plan.after, collections, Entry.collects?, Entry.spend]
  rw [after]
  split
  case isTrue pending =>
    have covered := unhurried.covered pending
    have counted := unhurried.counted pending
    constructor
    · exact unhurried.mode
    · exact unhurried.reload
    · intro _
      simp only [Timer.charged, Ticks.count_sub]
      omega
    · intro _
      simp only [latest] at counted ⊢
      omega
    · exact fun _ => unhurried.unfired pending
    · intro idle
      rw [Timer.charged, pending] at idle
      cases idle
  case isFalse idle =>
    exact ⟨unhurried.mode, unhurried.reload, fun pending => absurd pending idle,
      fun pending => absurd pending idle, fun pending => absurd pending idle, unhurried.fired⟩

theorem Unhurried.collected (unhurried : plan.Unhurried timer now 0 complete)
    (due : timer.isDue = true) :
    Plan.Unhurried { plan with hits := plan.hits ++ [now], spent := 0 } timer.fired now 0
      complete := by
  obtain ⟨ripe, unfired⟩ := unhurried.ripe due
  obtain ⟨pending, _⟩ := Timer.isDue_iff.mp due
  cases mode : plan.mode with
  | oneshot =>
      have start : plan.latest = plan.start := by rw [latest, unfired mode, List.getLastD_nil]
      have fired : timer.fired = { timer with pending := false } := by
        simp [Timer.fired, unhurried.mode, mode]
      rw [fired]
      have idle : ¬false = true := Bool.false_ne_true
      refine ⟨unhurried.mode.trans mode, unhurried.reload, fun pending => absurd pending idle,
        fun pending => absurd pending idle, fun pending => absurd pending idle, fun _ => ?_⟩
      exact ⟨rfl, start ▸ ripe, fun _ => List.append_ne_nil_of_right_ne_nil _ (by simp)⟩
  | periodic =>
      have fired : timer.fired = { timer with remaining := timer.reload } := by
        simp [Timer.fired, unhurried.mode, mode]
      rw [fired]
      refine ⟨unhurried.mode.trans mode, unhurried.reload, fun _ => ?_, fun _ => ?_,
        fun _ oneshot => absurd oneshot (by simp), ?_⟩
      · simp [unhurried.reload]
      · simp [latest]
      · exact fun idle => absurd (pending.symm.trans idle) (by simp)

/-- What a timer hands over when it fires may find no room; its plan knows nothing of it then. -/
theorem Unhurried.dropped (unhurried : plan.Unhurried timer now 0 complete)
    (due : timer.isDue = true) (incomplete : ¬complete) :
    plan.Unhurried timer.fired now 0 complete := by
  obtain ⟨ripe, unfired⟩ := unhurried.ripe due
  obtain ⟨pending, _⟩ := Timer.isDue_iff.mp due
  cases mode : plan.mode with
  | oneshot =>
      have start : plan.latest = plan.start := by rw [latest, unfired mode, List.getLastD_nil]
      have fired : timer.fired = { timer with pending := false } := by
        simp [Timer.fired, unhurried.mode, mode]
      rw [fired]
      have idle : ¬false = true := Bool.false_ne_true
      refine ⟨unhurried.mode, unhurried.reload, fun pending => absurd pending idle,
        fun pending => absurd pending idle, fun pending => absurd pending idle, fun _ => ?_⟩
      exact ⟨mode, start ▸ ripe, fun complete => absurd complete incomplete⟩
  | periodic =>
      have fired : timer.fired = { timer with remaining := timer.reload } := by
        simp [Timer.fired, unhurried.mode, mode]
      rw [fired]
      refine ⟨unhurried.mode, unhurried.reload, fun _ => ?_, unhurried.counted,
        unhurried.unfired, unhurried.fired⟩
      simp [unhurried.reload]

/-- Time passes as the hardware counts. -/
theorem Unhurried.elapse {later counted : Nat} (unhurried : plan.Unhurried timer now unread complete)
    (passed : now + counted ≤ later + unread) (forward : now ≤ later) :
    plan.Unhurried timer later counted complete := by
  refine ⟨unhurried.mode, unhurried.reload, unhurried.covered, fun pending => ?_,
    unhurried.unfired, fun idle => ?_⟩
  · have counted := unhurried.counted pending
    omega
  · obtain ⟨mode, ripe, collected⟩ := unhurried.fired idle
    exact ⟨mode, Nat.le_trans ripe forward, collected⟩

end Plan

/-! ## A manager that hurries nothing -/

namespace TimerManager

variable {H κ : Type} [HardwareTimer H] {manager : TimerManager H κ}

/-- The ticks that the hardware has counted for the timers and that are yet to be charged. -/
def unread (manager : TimerManager H κ) : Nat :=
  if manager.armed then (HardwareTimer.count manager.hardware).count else 0

theorem unread_of_armed (armed : manager.armed = true) :
    manager.unread = (HardwareTimer.count manager.hardware).count := by
  rw [unread, if_pos armed]

theorem unread_of_idle (idle : manager.armed = false) : manager.unread = 0 := by
  rw [unread, idle]
  rfl

theorem unread_congr {next : TimerManager H κ} (armed : next.armed = manager.armed)
    (count : manager.armed = true →
      HardwareTimer.count next.hardware = HardwareTimer.count manager.hardware) :
    next.unread = manager.unread := by
  rw [unread, unread, armed]
  split
  · next running => rw [count running]
  · rfl

theorem unread_le_add {next : TimerManager H κ} (armed : next.armed = manager.armed) :
    next.unread ≤ manager.unread + ((HardwareTimer.count next.hardware).count -
      (HardwareTimer.count manager.hardware).count) := by
  rw [unread, unread, armed]
  split <;> omega

end TimerManager

/-- Whether an entry charges ticks or marks a time from which ticks are charged to a timer. -/
def Entry.marks {κ : Type} (entry : Entry κ) : Bool :=
  match entry.event with
  | .scheduled .. | .charged _ | .collected _ => true
  | _ => false

theorem Entry.ignored_of_unmarked {κ : Type} {entry : Entry κ} (unmarked : entry.marks = false)
    (id : TimerId) : entry.collects? id = none ∧ ∀ spent, entry.spend id spent = spent := by
  obtain ⟨time, event⟩ := entry
  cases event with
  | scheduled | charged | collected => cases unmarked
  | turnedAway | cancelled | freed | passed | handedOver => exact ⟨rfl, fun _ => rfl⟩

section

variable {κ : Type} {history : List (Entry κ)} {time : Nat} {events : List (TimerEvent κ)}

/-- Each charge is for ticks that were counted after every mark before it. -/
def ChargesApart (history : List (Entry κ)) : Prop :=
  AtEach (fun before entry => ∀ elapsed, entry.event = .charged elapsed →
    ∀ earlier ∈ before, earlier.marks = true → earlier.time + elapsed.count ≤ entry.time) history

/-- What is collected has waited long enough since it was collected last or scheduled, and a
one-shot has not been collected before. -/
def CollectsRipe (history : List (Entry κ)) : Prop :=
  AtEach (fun before entry => ∀ expiry, entry.event = .collected expiry →
    ∀ plan, plan? expiry.id before = some plan →
      plan.latest + plan.ticks.count ≤ entry.time ∧
        (plan.mode = .oneshot → plan.hits = [])) history

theorem ChargesApart.append_of_others (apart : ChargesApart history)
    (others : ∀ event ∈ events, ∀ elapsed, event ≠ .charged elapsed) :
    ChargesApart (history ++ events.map (Entry.mk time)) := by
  apply AtEach.append_of_forall apart
  intro entry member before elapsed charged
  obtain ⟨event, listed, rfl⟩ := List.mem_map.mp member
  exact absurd charged (others event listed elapsed)

theorem CollectsRipe.append_of_others (ripe : CollectsRipe history)
    (others : ∀ event ∈ events, ∀ expiry, event ≠ .collected expiry) :
    CollectsRipe (history ++ events.map (Entry.mk time)) := by
  apply AtEach.append_of_forall ripe
  intro entry member before expiry collected
  obtain ⟨event, listed, rfl⟩ := List.mem_map.mp member
  exact absurd collected (others event listed expiry)

/-- The plan of a timer does not see the others being collected. -/
theorem plan?_append_collected {id : TimerId} {fired : List (Expiry κ)}
    (absent : id ∉ fired.map Expiry.id) :
    plan? id (history ++ (fired.map TimerEvent.collected).map (Entry.mk time)) =
      plan? id history := by
  induction fired using List.reverseRecOn with
  | nil => simp
  | append_singleton fired last induction =>
      rw [List.map_append, List.mem_append, not_or] at absent
      have other : ¬last.id = id := fun same => absent.2 (by simp [same])
      rw [List.map_append, List.map_append, ← List.append_assoc, List.map_singleton,
        List.map_singleton, plan?_concat_of_ignored rfl (by simp [Entry.collects?, other])
          (by simp [Entry.spend, other])]
      exact induction absent.1

/-- A pass collects each timer once, so each is collected under the plan before the pass. -/
theorem CollectsRipe.append_firing {fired : List (Expiry κ)} (ripe : CollectsRipe history)
    (distinct : (fired.map Expiry.id).Nodup)
    (each : ∀ expiry ∈ fired, ∀ plan, plan? expiry.id history = some plan →
      plan.latest + plan.ticks.count ≤ time ∧ (plan.mode = .oneshot → plan.hits = [])) :
    CollectsRipe (history ++ (TimerSystem.firing fired).map (Entry.mk time)) := by
  have collected : CollectsRipe
      (history ++ (fired.map TimerEvent.collected).map (Entry.mk time)) := by
    induction fired using List.reverseRecOn with
    | nil => simpa using ripe
    | append_singleton fired last induction =>
        rw [List.map_append, List.nodup_append] at distinct
        rw [List.map_append, List.map_append, ← List.append_assoc]
        refine AtEach.concat (induction distinct.1 fun expiry member =>
          each expiry (List.mem_append_left _ member)) ?_
        rintro expiry ⟨⟩ plan planned
        rw [plan?_append_collected] at planned
        · exact each last (by simp) plan planned
        · intro again
          exact distinct.2.2 _ again _ (List.mem_singleton_self _) rfl
  rw [TimerSystem.firing, List.map_append, ← List.append_assoc]
  exact collected.append_of_others (by simp)

end

namespace TimerSystem

open TimerManager

variable {δ H κ : Type} [HardwareTimer H] {system next : TimerSystem H κ} {storage : TimerStorage}
  {change : δ → H → H}

/-- No timer is hurried, and no tick is charged twice. -/
structure Unhurried (storage : TimerStorage) (system : TimerSystem H κ) : Prop where
  /-- Every timer keeps to its plan. -/
  timers : ∀ id plan timer, plan? id system.history = some plan →
    system.manager.timer? id = some timer →
    plan.Unhurried timer system.time system.manager.unread storage.CollectsAll
  /-- What is yet to be charged was counted after every mark. -/
  marked : ∀ entry ∈ system.history, entry.marks = true →
    entry.time + system.manager.unread ≤ system.time
  apart : ChargesApart system.history
  ripe : CollectsRipe system.history

theorem Unhurried.of_timers (unhurried : system.Unhurried storage)
    (unread : next.manager.unread = system.manager.unread) (time : next.time = system.time)
    {events : List (TimerEvent κ)}
    (history : next.history = system.history ++ events.map (Entry.mk system.time))
    (unmarked : ∀ event ∈ events, (Entry.mk system.time event).marks = false)
    (timers : ∀ id timer, next.manager.timer? id = some timer →
      (plan? id next.history = plan? id system.history ∧
        system.manager.timer? id = some timer) ∨
      plan? id next.history = none) : next.Unhurried storage := by
  constructor
  · intro id plan timer planned held
    rw [time, unread]
    rcases timers id timer held with ⟨same_plan, same_timer⟩ | unplanned
    · exact unhurried.timers id plan timer (same_plan ▸ planned) same_timer
    · rw [unplanned] at planned
      cases planned
  · intro entry member marks
    rw [history] at member
    rw [time, unread]
    rcases List.mem_append.mp member with earlier | recorded
    · exact unhurried.marked entry earlier marks
    · obtain ⟨event, listed, rfl⟩ := List.mem_map.mp recorded
      rw [unmarked event listed] at marks
      cases marks
  · rw [history]
    apply unhurried.apart.append_of_others
    rintro event listed elapsed rfl
    cases unmarked _ listed
  · rw [history]
    apply unhurried.ripe.append_of_others
    rintro event listed expiry rfl
    cases unmarked _ listed

/-- No more ticks have become unread than have passed. -/
theorem Unhurried.touch (unhurried : system.Unhurried storage)
    (forward : system.time ≤ next.time)
    (passed : system.time + next.manager.unread ≤ next.time + system.manager.unread)
    (history : next.history = system.history)
    (timers : ∀ id, next.manager.timer? id = system.manager.timer? id) :
    next.Unhurried storage := by
  refine ⟨?_, ?_, history ▸ unhurried.apart, history ▸ unhurried.ripe⟩
  · intro id plan timer planned held
    rw [history] at planned
    rw [timers] at held
    exact (unhurried.timers id plan timer planned held).elapse passed forward
  · intro entry member marks
    rw [history] at member
    have marked := unhurried.marked entry member marks
    omega

/-- A timer leaves the queue, and its plan ends. -/
theorem Unhurried.vacated {id : TimerId} {timer : Timer κ} {entry : Option (Timer κ)}
    {event : TimerEvent κ} (unhurried : system.Unhurried storage)
    (held : system.manager.timer? id = some timer)
    (timers : ∀ other, next.manager.timer? other =
      (system.manager.vacated id entry).timer? other)
    (hardware : next.manager.hardware = system.manager.hardware)
    (armed : next.manager.armed = system.manager.armed) (time : next.time = system.time)
    (history : next.history = system.history ++ [event].map (Entry.mk system.time))
    (retires : ∀ other, (Entry.mk system.time event).retires other = (id == other))
    (closes : (Entry.mk system.time event).opens? = none)
    (unmarked : (Entry.mk system.time event).marks = false) : next.Unhurried storage := by
  have unread : next.manager.unread = system.manager.unread :=
    unread_congr armed fun _ => by rw [hardware]
  refine unhurried.of_timers unread time history
    (by simpa using unmarked) ?_
  intro other found found_at
  rw [timers, timer?_vacated held] at found_at
  rw [history]
  split at found_at
  · next same =>
      right
      rw [same, List.map_singleton, plan?_concat_of_retires (by rw [retires, beq_self_eq_true]),
        closes]
  · next apart =>
      left
      have ignored := Entry.ignored_of_unmarked unmarked
      exact ⟨plan?_concat_of_apart retires (fun other => (ignored other).1)
        (fun other => (ignored other).2) apart, found_at⟩

theorem Unhurried.charged (unhurried : system.Unhurried storage)
    (coherent : system.manager.IsCoherent) (metered : Metered H) {hardware : H}
    (armed : system.manager.armed = true)
    (stopped : HardwareTimer.stop system.manager.hardware = (hardware, .ok ())) :
    Unhurried storage ({ system with manager := system.manager.chargedTo hardware }.record
      [.charged (HardwareTimer.count hardware)]) := by
  have read := metered.count_stop system.manager.hardware
  rw [stopped] at read
  have counted : system.manager.unread = (HardwareTimer.count hardware).count := by
    rw [unread_of_armed armed, read]
  have marked := unhurried.marked
  rw [counted] at marked
  have none_left : (system.manager.chargedTo hardware).unread = 0 := unread_of_idle rfl
  constructor
  · intro id plan timer planned held
    rw [manager_record, coherent.timer?_chargedTo, Option.map_eq_some_iff] at held
    obtain ⟨before, held_before, rfl⟩ := held
    rw [history_record, List.map_singleton, plan?_append_of_quiet (by simp [Entry.retires]),
      Option.map_eq_some_iff] at planned
    obtain ⟨plan, planned_before, rfl⟩ := planned
    have waited := unhurried.timers id plan before planned_before held_before
    rw [counted] at waited
    rw [manager_record, none_left]
    exact waited.charged system.time
  · intro entry member marks
    rw [manager_record, none_left]
    rcases List.mem_append.mp member with earlier | last
    · exact Nat.le_trans (Nat.le_add_right _ _) (marked entry earlier marks)
    · rw [List.mem_singleton.mp last]
      exact Nat.le_refl _
  · refine AtEach.concat unhurried.apart ?_
    rintro elapsed ⟨⟩ earlier member marks
    exact marked earlier member marks
  · exact unhurried.ripe.append_of_others (by simp)

theorem Unhurried.queued (unhurried : system.Unhurried storage) {id : TimerId}
    {timer : Timer κ} (queue : ScheduledQueue) (mode : TimerMode) (ticks : Ticks) (callback : κ)
    (idle : system.manager.armed = false) (held : system.manager.timer? id = some timer) :
    Unhurried storage ({ system with
      manager := { system.manager with
        queue
        slots := system.manager.slotsWaiting id mode ticks callback
        nextSerial := system.manager.nextSerial + 1 } }.record
      [.scheduled id mode ticks system.manager.nextSerial callback]) := by
  have none_unread := unread_of_idle idle
  have none_unread_after : TimerManager.unread { system.manager with
      queue
      slots := system.manager.slotsWaiting id mode ticks callback
      nextSerial := system.manager.nextSerial + 1 } = 0 := none_unread
  constructor
  · intro other plan found planned found_at
    rw [manager_record, timer?_eq_held?, held?_slotsWaiting held] at found_at
    rw [history_record, List.map_singleton] at planned
    have waited := unhurried.timers other plan found
    rw [none_unread] at waited
    rw [manager_record, none_unread_after]
    split at found_at
    · next same =>
        subst same
        rw [plan?_concat_of_retires (by simp [Entry.retires])] at planned
        cases planned
        cases found_at
        exact Plan.unhurried_waiting mode ticks _ callback system.time _
    · next apart =>
        rw [plan?_concat_of_apart (fun _ => rfl) (fun _ => rfl) (fun _ _ => rfl) apart] at planned
        exact waited planned found_at
  · intro entry member marks
    rw [manager_record, none_unread_after]
    rcases List.mem_append.mp member with earlier | last
    · exact Nat.le_trans (Nat.le_add_right _ _) (unhurried.marked entry earlier marks)
    · rw [List.mem_singleton.mp last]
      exact Nat.le_refl _
  · exact unhurried.apart.append_of_others (by simp)
  · exact unhurried.ripe.append_of_others (by simp)

omit [HardwareTimer H] in
/-- A timer that is due fires under its plan and is collected if there is room. -/
theorem Unhurried.settled {id : TimerId} {plan : Plan κ} {timer : Timer κ}
    (waited : plan.Unhurried timer system.time 0 storage.CollectsAll)
    (held : system.manager.timer? id = some timer) (coherent : system.manager.IsCoherent)
    (housed : system.manager.Housed storage) :
    (plan.after id ((firing system.manager.clearExpired.2).map
      (Entry.mk system.time))).Unhurried timer.settled system.time 0 storage.CollectsAll := by
  have cleared := clearExpired_cleared coherent
  by_cases listed : id ∈ system.manager.clearExpired.2.map Expiry.id
  · obtain ⟨hits, forgiven⟩ := collections_firing_of_mem system.time cleared.distinct listed
    obtain ⟨expiry, collected, rfl⟩ := List.mem_map.mp listed
    obtain ⟨found, found_at, due, _⟩ := cleared.due expiry collected
    rw [held] at found_at
    cases found_at
    rw [Plan.after, hits, forgiven, Timer.settled, if_pos due]
    exact waited.collected due
  · obtain ⟨hits, kept⟩ := collections_firing_of_not_mem system.time listed
    rw [Plan.after, hits, kept, List.append_nil, Timer.settled]
    split
    · next due =>
        apply waited.dropped due
        intro collects_all
        obtain ⟨expiry, collected, rfl⟩ := cleared.complete
          (housed.collects coherent.inOrder collects_all) id timer held due
        exact listed (List.mem_map.mpr ⟨expiry, collected, rfl⟩)
    · exact waited

theorem Unhurried.cleared (unhurried : system.Unhurried storage)
    (wellFormed : system.WellFormed) (housed : system.manager.Housed storage)
    (idle : system.manager.armed = false) :
    Unhurried storage ({ system with
      manager := system.manager.clearExpired.1
      collected := system.collected ++ system.manager.clearExpired.2 }.record
        (firing system.manager.clearExpired.2)) := by
  have coherent := wellFormed.coherent
  have cleared := clearExpired_cleared coherent
  have none_unread := unread_of_idle idle
  have none_unread_after := unread_of_idle (cleared.armed.trans idle)
  constructor
  · intro id plan timer planned held
    rw [manager_record, cleared.timers, Option.map_eq_some_iff] at held
    obtain ⟨before, held_before, rfl⟩ := held
    have quiet : ∀ entry ∈ (firing system.manager.clearExpired.2).map (Entry.mk system.time),
        entry.retires id = false := by
      intro entry member
      obtain ⟨event, listed, rfl⟩ := List.mem_map.mp member
      exact quiet_firing _ event listed
    rw [history_record, plan?_append_of_quiet quiet, Option.map_eq_some_iff] at planned
    obtain ⟨plan, planned_before, rfl⟩ := planned
    have waited := unhurried.timers id plan before planned_before held_before
    rw [none_unread] at waited
    rw [manager_record, none_unread_after]
    exact settled waited held_before coherent housed
  · intro entry member marks
    rw [manager_record, none_unread_after]
    rcases List.mem_append.mp member with earlier | recorded
    · exact Nat.le_trans (Nat.le_add_right _ _) (unhurried.marked entry earlier marks)
    · obtain ⟨event, listed, rfl⟩ := List.mem_map.mp recorded
      exact Nat.le_refl _
  · apply unhurried.apart.append_of_others
    intro event member elapsed
    rcases mem_firing.mp member with ⟨expiry, _, rfl⟩ | rfl <;> simp
  · apply unhurried.ripe.append_firing cleared.distinct
    intro expiry collected plan planned
    obtain ⟨timer, held, due, _⟩ := cleared.due expiry collected
    have waited := unhurried.timers _ plan timer planned held
    rw [none_unread] at waited
    exact waited.ripe due

theorem Unhurried.stage (unhurried : system.Unhurried storage)
    (metered : Metered H) (wellFormed : system.WellFormed)
    (housed : system.manager.Housed storage) (stage : Stage system next) :
    next.Unhurried storage := by
  have coherent := wellFormed.coherent
  cases stage with
  | @stopFailed hardware fault armed failed =>
      have read := metered.count_stop system.manager.hardware
      rw [failed] at read
      refine unhurried.touch (Nat.le_refl _) (Nat.add_le_add_left ?_ _) rfl
        fun _ => rfl
      exact Nat.le_of_eq (unread_congr rfl fun _ => read)
  | charged armed stopped => exact unhurried.charged coherent metered armed stopped
  | queued idle owned held period_pos pushed => exact unhurried.queued _ _ _ _ idle held
  | turnedAway idle held full =>
      exact unhurried.vacated held (fun _ => rfl) rfl rfl rfl rfl (fun _ => rfl) rfl rfl
  | retired held =>
      exact unhurried.vacated held (fun _ => rfl) rfl rfl rfl rfl (fun _ => rfl) rfl rfl
  | freed given_up held =>
      exact unhurried.vacated held (fun _ => rfl) rfl rfl rfl rfl (fun _ => rfl) rfl rfl
  | cleared idle => exact unhurried.cleared wellFormed housed idle
  | @restartFailed front hardware fault idle none_due in_front failed =>
      refine unhurried.touch (Nat.le_refl _) (Nat.add_le_add_left ?_ _) rfl
        fun _ => rfl
      refine Nat.le_of_eq (unread_congr rfl fun armed => ?_)
      rw [idle] at armed
      cases armed
  | @restarted front hardware idle none_due in_front armed =>
      have positive := none_due.remaining_pos coherent (ScheduledQueue.mem_of_front? in_front)
      refine unhurried.touch (Nat.le_refl _) (Nat.add_le_add_left ?_ _) rfl
        fun _ => rfl
      rw [unread_of_armed rfl, metered.count_restart positive armed]
      exact Nat.zero_le _
  | givenUp => exact ⟨unhurried.timers, unhurried.marked, unhurried.apart,
      unhurried.ripe⟩
  | @allocated id slots absent placed capacity size =>
      have nothing : system.history = system.history ++
          ([] : List (TimerEvent κ)).map (Entry.mk system.time) := by simp
      refine unhurried.of_timers rfl rfl nothing (by simp) ?_
      intro other timer held
      rw [timer?_eq_held?, placed] at held
      split at held
      · next same =>
          right
          have accounted := wellFormed.accounted other
          rw [same, absent, Option.bind_none] at accounted
          rw [same]
          exact Option.map_eq_none_iff.mp accounted.symm
      · exact Or.inl ⟨rfl, held⟩
  | handedOver waits =>
      refine unhurried.of_timers rfl rfl rfl (by simp [Entry.marks]) ?_
      intro other timer held
      exact Or.inl ⟨plan?_concat_of_ignored rfl rfl (fun _ => rfl), held⟩

/-! ## Runs whose time the hardware measures -/

/-- The system after a move, where time passes as the hardware counts by itself. -/
def meter (change : δ → H → H) (system : TimerSystem H κ) (move : OpenMove δ κ) :
    TimerSystem H κ :=
  { system.undergo change move with
    time :=
      match move with
      | .stir cause => system.time +
          ((HardwareTimer.count (change cause system.manager.hardware)).count -
            (HardwareTimer.count system.manager.hardware).count)
      | _ => system.time }

/-- The system after a run with a new manager. -/
def meteredRun (change : δ → H → H) (hardware : H) (storage : TimerStorage)
    (moves : List (OpenMove δ κ)) : TimerSystem H κ :=
  moves.foldl (meter change) (fresh hardware storage)

/-- Everything that holds of a system on unreliable hardware. -/
structure Outlasting (storage : TimerStorage) (system : TimerSystem H κ) :
    Prop where
  wellFormed : system.WellFormed
  housed : system.manager.Housed storage
  unhurried : system.Unhurried storage
  in_force : CollectsInForce system.history

theorem outlasting_fresh (hardware : H) (storage : TimerStorage) :
    (fresh hardware storage : TimerSystem H κ).Outlasting storage where
  wellFormed := wellFormed_fresh hardware storage
  housed := housed_fresh hardware storage
  unhurried := ⟨by simp [fresh, plan?], by simp [fresh], .nil, .nil⟩
  in_force := .nil

theorem Outlasting.meter (outlasting : system.Outlasting storage)
    (metered : Metered H) (move : OpenMove δ κ) :
    (system.meter change move).Outlasting storage := by
  obtain ⟨wellFormed, housed, unhurried, in_force⟩ := outlasting
  have still_wellFormed : (system.meter change move).WellFormed :=
    (wellFormed.undergo move).touch rfl rfl rfl rfl rfl
  have still_housed : (system.meter change move).manager.Housed storage :=
    housed_undergo housed wellFormed move
  have same_time := Nat.le_refl system.time
  cases move with
  | use move =>
      have kept : (system.undergo change (.use move)).Unhurried storage ∧
          CollectsInForce (system.undergo change (.use move)).history := by
        rw [undergo]
        split
        · have all := wellFormed.perform_keeps (fun system => system.manager.Housed storage ∧
              system.Unhurried storage ∧ CollectsInForce system.history)
            ⟨housed, unhurried, in_force⟩
            (fun _ _ wellFormed kept stage =>
              ⟨stage_housed kept.1 wellFormed.coherent stage,
                kept.2.1.stage metered wellFormed kept.1 stage,
                stage_collectsInForce kept.2.2 wellFormed stage⟩) move
          exact all.2
        · exact ⟨unhurried, in_force⟩
      have time : (system.undergo change (.use move)).time = system.time := by
        rw [undergo]
        split
        · exact time_perform system move
        · rfl
      refine ⟨still_wellFormed, still_housed, ?_, kept.2⟩
      exact kept.1.touch (Nat.le_of_eq time) (time ▸ Nat.le_refl _) rfl fun _ => rfl
  | stir cause =>
      refine ⟨still_wellFormed, still_housed, ?_, in_force⟩
      refine unhurried.touch (Nat.le_add_right _ _) ?_ rfl fun _ => rfl
      have grows : (system.meter change (.stir cause)).manager.unread ≤ system.manager.unread +
          ((HardwareTimer.count (system.meter change (.stir cause)).manager.hardware).count -
            (HardwareTimer.count system.manager.hardware).count) := unread_le_add rfl
      have moved : (system.meter change (.stir cause)).time = system.time +
        ((HardwareTimer.count (system.meter change (.stir cause)).manager.hardware).count -
          (HardwareTimer.count system.manager.hardware).count) := rfl
      omega
  | abandon place | deliver place =>
      exact ⟨still_wellFormed, still_housed,
        unhurried.touch same_time (Nat.le_refl _) rfl fun _ => rfl, in_force⟩
  | teardown =>
      refine ⟨still_wellFormed, still_housed, ?_, in_force⟩
      refine unhurried.touch same_time (Nat.add_le_add_left ?_ _) rfl fun _ => rfl
      exact Nat.zero_le _

theorem outlasting_meteredRun (metered : Metered H) (change : δ → H → H) (hardware : H)
    (storage : TimerStorage) (moves : List (OpenMove δ κ)) :
    (meteredRun change hardware storage moves).Outlasting storage := by
  rw [meteredRun]
  have start := outlasting_fresh (κ := κ) hardware storage
  generalize (fresh hardware storage : TimerSystem H κ) = system at start
  induction moves generalizing system with
  | nil => exact start
  | cons move moves induction => exact induction _ (start.meter metered move)

/-! ## What ends a schedule -/

/-- The moves that end the schedule of a timer, given the manager that they meet. -/
inductive EndsSchedule (manager : TimerManager H κ) (id : TimerId) : TimerMove κ → Prop
  | cancel : EndsSchedule manager id (.cancel id)
  | release : EndsSchedule manager id (.release id)
  | free : EndsSchedule manager id (.free id)
  /-- The timer is scheduled again, and the hardware has been stopped. -/
  | schedule {mode : TimerMode} {delay : Duration} {footprint : Footprint} {callback : κ}
      {reconciled : TimerManager H κ} {notes : List TimerNote}
      (stopped : manager.reconcile = (reconciled, .ok notes)) :
      EndsSchedule manager id (.schedule id mode delay footprint callback)

omit [HardwareTimer H] in
/-- Only what a section decides retires a schedule. -/
theorem mem_of_retires {notes : List TimerNote} {decided : List (TimerEvent κ)}
    {fired : List (Expiry κ)} {event : TimerEvent κ} {time : Nat} {id : TimerId}
    (member : event ∈ chargesOf notes ++ decided ++ passOf notes fired)
    (retires : (Entry.mk time event).retires id = true) : event ∈ decided := by
  rcases List.mem_append.mp member with section_member | passing
  · rcases List.mem_append.mp section_member with charging | decision
    · obtain ⟨elapsed, rfl⟩ := mem_chargesOf charging
      cases retires
    · exact decision
  · rcases mem_passOf passing with ⟨expiry, _, rfl⟩ | rfl <;> cases retires

/-- A scheduling section that decides anything has stopped the hardware. -/
theorem stopped_of_decision {id : TimerId} {mode : TimerMode} {ticks : Ticks} {callback : κ}
    {timer : Timer κ} {event : TimerEvent κ} (held : system.manager.timer? id = some timer)
    (decided : event ∈ decision system.manager
      (system.manager.schedule id mode ticks callback) id mode ticks callback) :
    ∃ reconciled notes, system.manager.reconcile = (reconciled, .ok notes) := by
  rcases result : system.manager.reconcile with ⟨after, fault | notes⟩
  · have number := nextSerial_reconcile system.manager
    rw [result] at number
    rw [schedule_of_error held result, decision, if_pos number] at decided
    cases decided
  · exact ⟨after, notes, rfl⟩

omit [HardwareTimer H] in
theorem retires_of_mem_decision {before : TimerManager H κ}
    {done : TimerSection H κ (Except TimerError Unit)} {id other : TimerId} {mode : TimerMode}
    {ticks : Ticks} {callback : κ} {event : TimerEvent κ} {time : Nat}
    (decided : event ∈ decision before done id mode ticks callback)
    (retires : (Entry.mk time event).retires other = true) : other = id := by
  rw [decision] at decided
  split at decided
  · cases decided
  · split at decided
    all_goals
      rw [List.mem_singleton.mp decided] at retires
      exact (beq_iff_eq.mp retires).symm

/-- A move adds to the history, and what it adds retires a schedule just if the move ends it. -/
theorem endsSchedule_of_perform (wellFormed : system.WellFormed) (move : TimerMove κ) :
    ∃ events : List (TimerEvent κ),
      (system.perform move).history = system.history ++ events.map (Entry.mk system.time) ∧
      ∀ event ∈ events, ∀ id, (Entry.mk system.time event).retires id = true →
        EndsSchedule system.manager id move := by
  have nothing : ∃ events : List (TimerEvent κ),
      system.history = system.history ++ events.map (Entry.mk system.time) ∧
      ∀ event ∈ events, ∀ id, (Entry.mk system.time event).retires id = true →
        EndsSchedule system.manager id move := ⟨[], by simp, by simp⟩
  have retired : ∀ id, EndsSchedule system.manager id move →
      ∃ events : List (TimerEvent κ),
        (system.retire id).history = system.history ++ events.map (Entry.mk system.time) ∧
        ∀ event ∈ events, ∀ id, (Entry.mk system.time event).retires id = true →
          EndsSchedule system.manager id move := by
    intro id ends
    refine ⟨_, history_retire system id, ?_⟩
    intro event member other retires
    rcases List.mem_append.mp member with cancelled | rest
    · rw [List.mem_singleton.mp cancelled] at retires
      rw [← beq_iff_eq.mp retires]
      exact ends
    · cases mem_of_retires rest retires
  cases move with
  | allocate =>
      rw [perform]
      split <;> exact nothing
  | schedule id mode delay footprint callback =>
      rw [perform]
      split
      · next owned =>
          obtain ⟨timer, held⟩ := wellFormed.exists_timer (Or.inl owned)
          split
          · next ticks _ =>
              refine ⟨_, history_commit .., ?_⟩
              intro event member other retires
              have decided := mem_of_retires member retires
              obtain ⟨_, _, stopped⟩ := stopped_of_decision held decided
              rw [retires_of_mem_decision decided retires]
              exact .schedule stopped
          · exact nothing
      · exact nothing
  | cancel id =>
      rw [perform]
      split
      · exact retired id .cancel
      · exact nothing
  | release id =>
      rw [perform]
      split
      · exact retired id .release
      · exact nothing
  | free id =>
      rw [perform]
      split
      · next given_up =>
          obtain ⟨timer, held⟩ := wellFormed.exists_timer (Or.inr given_up)
          refine ⟨[.freed id], ?_, ?_⟩
          · rw [free_eq held]
            simp [commit, record, chargesOf, passOf, TimerNote.endsPass]
          · intro event member other retires
            rw [List.mem_singleton.mp member] at retires
            rw [← beq_iff_eq.mp retires]
            exact .free
      · exact nothing
  | expire =>
      refine ⟨_, history_commit .., ?_⟩
      intro event member other retires
      cases mem_of_retires member retires
  | handOver place =>
      rw [perform]
      split
      · exact nothing
      · exact ⟨[.handedOver _], rfl, by simp [Entry.retires]⟩

/-- Outages only delay timers.  What is collected belongs to a schedule in force, after at least its
ticks, and a one-shot is collected once.  A schedule in force waits in the queue, unless it is that
of a one-shot whose ticks have been counted; only a user's move ends it, and a scheduling call only
once the hardware has stopped.  No charge is for ticks that were charged before or that were counted
before a timer was scheduled. -/
theorem outages_only_delay (metered : Metered H) (change : δ → H → H) (hardware : H)
    (storage : TimerStorage) (moves : List (OpenMove δ κ)) (system : TimerSystem H κ)
    (ran : system = meteredRun change hardware storage moves) :
    CollectsInForce system.history ∧
    (∀ before start id mode ticks serial callback reign now expiry rest,
      system.history = before ++ ⟨start, .scheduled id mode ticks serial callback⟩ ::
        (reign ++ ⟨now, .collected expiry⟩ :: rest) →
      (∀ entry ∈ reign, entry.retires id = false) → expiry.id = id →
      expiry = ⟨id, serial, callback⟩ ∧
      (collections id reign).getLastD start + ticks.count ≤ now ∧
      (mode = .oneshot → collections id reign = [])) ∧
    (∀ before start id mode ticks serial callback reign,
      system.history = before ++ ⟨start, .scheduled id mode ticks serial callback⟩ :: reign →
      (∀ entry ∈ reign, entry.retires id = false) →
      ∃ timer, system.manager.timer? id = some timer ∧
        timer.schedule = some ⟨serial, callback⟩ ∧
        (id ∈ system.manager.queue.ids ∧
            ticks.count ≤ timer.remaining.count + spentSince id reign ∧
            (collections id reign).getLastD start + spentSince id reign ≤ system.time ∨
          id ∉ system.manager.queue.ids ∧ mode = .oneshot ∧ start + ticks.count ≤ system.time ∧
            (storage.CollectsAll → collections id reign ≠ []))) ∧
    (∀ move, ∃ events, (system.meter change move).history = system.history ++ events ∧
      ∀ entry ∈ events, ∀ id, entry.retires id = true →
        ∃ use, move = .use use ∧ EndsSchedule system.manager id use) ∧
    ChargesApart system.history := by
  obtain ⟨wellFormed, _, unhurried, in_force⟩ :=
    outlasting_meteredRun metered change hardware storage moves
  rw [← ran] at wellFormed unhurried in_force
  refine ⟨in_force, ?_, ?_, ?_, unhurried.apart⟩
  · rintro before start _ mode ticks serial callback reign now expiry rest split_at quiet rfl
    have regrouped : system.history = (before ++
        ⟨start, .scheduled expiry.id mode ticks serial callback⟩ :: reign) ++
          ⟨now, .collected expiry⟩ :: rest := by simp [split_at]
    have fitting := inForce_iff_plan?.mp (in_force _ _ _ regrouped expiry rfl)
    have ripe := unhurried.ripe _ _ _ regrouped expiry rfl _ (plan?_of_reign quiet)
    rw [plan?_of_reign quiet, Option.map_some, Plan.schedule, Option.some.injEq,
      Schedule.mk.injEq] at fitting
    obtain ⟨rfl, rfl⟩ := fitting
    exact ⟨rfl, ripe⟩
  · intro before start id mode ticks serial callback reign split_at quiet
    have planned : plan? id system.history = some
        { start, mode, ticks, serial, callback
          hits := collections id reign, spent := spentSince id reign } := by
      rw [split_at, plan?_of_reign quiet]
    have accounted := wellFormed.accounted id
    rw [planned, Option.map_some, Option.bind_eq_some_iff] at accounted
    obtain ⟨timer, held, scheduled⟩ := accounted
    have waited := unhurried.timers id _ timer planned held
    refine ⟨timer, held, scheduled, ?_⟩
    cases pending : timer.pending with
    | true =>
        have counted := waited.counted pending
        exact Or.inl ⟨Coherent.queued wellFormed.coherent held pending, waited.covered pending,
          Nat.le_of_add_right_le counted⟩
    | false =>
        right
        refine ⟨?_, waited.fired pending⟩
        intro queued
        rw [Coherent.pending_of_queued wellFormed.coherent held queued] at pending
        cases pending
  · intro move
    cases move with
    | stir | abandon | deliver | teardown => exact ⟨[], (List.append_nil _).symm, by simp⟩
    | use use =>
        cases alive : system.alive with
        | false =>
            refine ⟨[], ?_, by simp⟩
            simp [meter, undergo, alive]
        | true =>
            obtain ⟨events, history, ends⟩ := endsSchedule_of_perform wellFormed use
            refine ⟨events.map (Entry.mk system.time), ?_, ?_⟩
            · simpa [meter, undergo, alive] using history
            · intro entry member id retires
              obtain ⟨event, listed, rfl⟩ := List.mem_map.mp member
              exact ⟨use, rfl, ends event listed id retires⟩

/-- The hardware cannot be armed again after ten ticks, and later it does not stop when it
expires. -/
def outageSystem : TimerSystem UnreliableTimer Nat :=
  meteredRun UnreliableTimer.change { timer := { resolution := .microsecond } } .growing
    [.use .allocate, .use (.schedule ⟨0⟩ .oneshot (.ofMicros 30) { bytes := 8 } 1),
      .stir (.tick (.clamp 10)), .stir (.restartOutage ⟨1, .broken "stuck register"⟩),
      .use .expire, .stir (.tick (.clamp 50)), .use .expire, .stir (.tick (.clamp 20)),
      .stir (.stopOutage ⟨1, .broken "stuck register"⟩), .use .expire, .use .expire]

/-- The one-shot is collected once all of its ticks have been counted. -/
theorem outages_delay_one_shot :
    Metered UnreliableTimer ∧ ∃ reign, outageSystem.history =
        [] ++ ⟨0, .scheduled ⟨0⟩ .oneshot (.clamp 30) 0 1⟩ ::
          (reign ++ ⟨30, .collected ⟨⟨0⟩, 0, 1⟩⟩ :: [⟨30, .passed⟩]) ∧
      collections ⟨0⟩ reign = [] := by
  have history : outageSystem.history =
      [] ++ ⟨0, .scheduled ⟨0⟩ .oneshot (.clamp 30) 0 1⟩ ::
        ([⟨0, .passed⟩, ⟨10, .charged (.clamp 10)⟩, ⟨10, .passed⟩, ⟨10, .passed⟩,
          ⟨30, .charged (.clamp 20)⟩] ++ ⟨30, .collected ⟨⟨0⟩, 0, 1⟩⟩ :: [⟨30, .passed⟩]) := by
    decide +kernel
  refine ⟨UnreliableTimer.metered, _, history, ?_⟩
  exact ((outages_only_delay UnreliableTimer.metered _ _ _ _ outageSystem rfl).2.1 _ _ _ _ _ _ _ _
    _ _ _ history (by simp [Entry.retires]) rfl).2.2 rfl

end TimerSystem

end Reactor
