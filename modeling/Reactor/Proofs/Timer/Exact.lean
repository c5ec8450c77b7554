import Reactor.Proofs.Timer.Custody
import Reactor.Proofs.Timer.Punctual

/-!
# Systems that are exact

A simulated timer is moved by hand, and whenever it expires on the way the manager works the expiry
off before the clock moves on.  Between any two moves every schedule in force has then been
collected whenever it was due and at no other time, however the moves of the clock are cut.
-/

namespace Reactor

namespace TimerSystem

open TimerManager

variable {κ α : Type} {system : TimerSystem SimulatedTimer κ} {storage : TimerStorage}

/-- The system after the hardware has moved on and ticks have passed. -/
def elapse (system : TimerSystem SimulatedTimer κ) (hardware : SimulatedTimer) (ticks : Nat) :
    TimerSystem SimulatedTimer κ :=
  { system with
    manager := { system.manager with hardware }
    time := system.time + ticks }

/-- Between any two moves every schedule has been collected whenever it was due. -/
structure Exact (storage : TimerStorage) (system : TimerSystem SimulatedTimer κ) : Prop where
  /-- The manager is on time. -/
  punctual : system.Punctual storage
  /-- The hardware counts whenever it is armed. -/
  ticking : system.Ticking
  /-- Schedules that have ended had been collected at all of their due times. -/
  ends : EndsWith Plan.UpToDate system.history
  /-- The history is in the order of time. -/
  sorted : system.Sorted

theorem exact_fresh (resolution : Duration) (storage : TimerStorage) :
    (fresh { resolution } storage : TimerSystem SimulatedTimer κ).Exact storage where
  punctual := punctual_fresh _ storage
  ticking := fun armed => absurd armed Bool.false_ne_true
  ends := AtEach.nil
  sorted := ⟨List.Pairwise.nil, by simp [fresh]⟩

theorem Exact.perform (exact_before : system.Exact storage) (collects_all : storage.CollectsAll)
    (move : TimerMove κ) : (system.perform move).Exact storage := by
  obtain ⟨punctual, ticking, ends, sorted⟩ := exact_before
  obtain ⟨punctual_after, ticking_after, sorted_after⟩ := punctual.perform_keeps collects_all
    (fun system => system.Ticking ∧ system.Sorted) ⟨ticking, sorted⟩
    (fun _ _ wellFormed _ _ ⟨ticking, sorted⟩ stage =>
      ⟨ticking.stage wellFormed stage, stage_sorted sorted stage⟩) move
  obtain ⟨events, one_section, history⟩ := perform_oneSection punctual.wellFormed move
  refine ⟨punctual_after, ticking_after, ?_, sorted_after⟩
  rw [history]
  exact ends.append_section (punctual.upToDate ticking) (fun _ _ up_to_date => up_to_date)
    one_section

theorem Sorted.elapse (sorted : system.Sorted) (hardware : SimulatedTimer) (ticks : Nat) :
    (system.elapse hardware ticks).Sorted :=
  ⟨sorted.1, fun entry member => Nat.le_trans (sorted.2 entry member) (Nat.le_add_right _ _)⟩

/-- Ticks pass and the hardware does not expire. -/
theorem Exact.elapse (exact_before : system.Exact storage) {ticks : Ticks}
    {hardware : SimulatedTimer} (passed : system.manager.hardware.pass ticks = .done hardware) :
    (system.elapse hardware ticks.count).Exact storage := by
  obtain ⟨punctual, ticking, ends, sorted⟩ := exact_before
  have step : (system.manager.armed = true →
      hardware.phase = .armed ∧
      hardware.elapsed.count = system.manager.hardware.elapsed.count + ticks.count ∧
      hardware.elapsed.count < hardware.period.count) ∧
      hardware.period = system.manager.hardware.period := by
    rcases SimulatedTimer.of_pass_done passed with
      ⟨_, period, phase, counted, short⟩ | ⟨stopped, rfl⟩
    · exact ⟨fun _ => ⟨phase, counted, short⟩, period⟩
    · exact ⟨fun armed => absurd (ticking armed) stopped, rfl⟩
  obtain ⟨counted, period⟩ := step
  refine ⟨punctual.elapse period (Nat.le_add_right _ _) ?_ ?_, fun armed => (counted armed).1, ends,
    sorted.elapse hardware ticks.count⟩
  · intro armed
    have whole := (counted armed).2.1
    omega
  · exact fun armed => Or.inl ⟨(counted armed).1, (counted armed).2.2⟩

/-- Ticks pass until the hardware expires, and the expiry is worked off. -/
theorem Exact.expire (exact_before : system.Exact storage) (collects_all : storage.CollectsAll)
    {ticks left : Ticks} {hardware : SimulatedTimer}
    (passed : system.manager.hardware.pass ticks = .expiry hardware left) :
    ((system.elapse hardware (ticks.count - left.count)).perform .expire).Exact storage := by
  obtain ⟨punctual, ticking, ends, sorted⟩ := exact_before
  obtain ⟨period, past_end, reached, enough, rest⟩ := SimulatedTimer.of_pass_expiry passed
  -- The system at the moment of the expiry, which is not yet worked off.
  have expired : (system.elapse hardware (ticks.count - left.count)).Punctual storage := by
    apply punctual.elapse period (Nat.le_add_right _ _)
    · intro armed
      rcases punctual.timely.running armed with ⟨_, short⟩ | ⟨stopped, _⟩
      · rw [reached, period]
        omega
      · rw [ticking armed] at stopped
        cases stopped
    · exact fun _ => Or.inr ⟨past_end, reached⟩
  obtain ⟨punctual_after, sorted_after⟩ := expired.perform_keeps collects_all Sorted
    (sorted.elapse hardware _) (fun _ _ _ _ _ sorted stage => stage_sorted sorted stage) .expire
  refine ⟨punctual_after, ticking_expire expired.wellFormed, ?_, sorted_after⟩
  rw [TimerSystem.perform, history_commit]
  apply ends.append_of_quiet
  intro event member id
  rw [List.append_nil] at member
  rcases List.mem_append.mp member with charge | passing
  · obtain ⟨elapsed, rfl⟩ := mem_chargesOf charge
    rfl
  · rcases mem_passOf passing with ⟨expiry, _, rfl⟩ | rfl <;> rfl

/-! ## When schedules are collected -/

/-- A schedule in force has been collected at its due times up to now. -/
theorem Exact.collections_eq (exact_now : system.Exact storage) {before reign : List (Entry κ)}
    {start : Nat} {id : TimerId} {mode : TimerMode} {ticks : Ticks} {serial : UInt32} {callback : κ}
    (split_at : system.history =
      before ++ ⟨start, .scheduled id mode ticks serial callback⟩ :: reign)
    (quiet : ∀ entry ∈ reign, entry.retires id = false) :
    collections id reign = dueTimes mode start ticks.count system.time := by
  have planned : plan? id system.history = some
      { start, mode, ticks, serial, callback
        hits := collections id reign, spent := spentSince id reign } := by
    rw [split_at, plan?_of_reign quiet]
  exact exact_now.punctual.upToDate exact_now.ticking id _ planned

/-- A schedule that has ended had been collected at its due times up to its end. -/
theorem Exact.collections_eq_of_ended (exact_now : system.Exact storage)
    {before reign rest : List (Entry κ)} {last : Entry κ} {start : Nat} {id : TimerId}
    {mode : TimerMode} {ticks : Ticks} {serial : UInt32} {callback : κ}
    (split_at : system.history = before ++
      ⟨start, .scheduled id mode ticks serial callback⟩ :: (reign ++ last :: rest))
    (quiet : ∀ entry ∈ reign, entry.retires id = false) (retires : last.retires id = true) :
    collections id reign = dueTimes mode start ticks.count last.time :=
  exact_now.ends (before ++ ⟨start, .scheduled id mode ticks serial callback⟩ :: reign) last rest
    (by rw [split_at]; simp) id _ retires (plan?_of_reign quiet)

/-! ## What a move adds to the ledger -/

/-- A move carries out a section: the manager is left as the section leaves it, what the section
fires is collected at once, and nothing is handed over. -/
structure CarriesOut (system : TimerSystem SimulatedTimer κ) (move : TimerMove κ)
    (done : TimerSection SimulatedTimer κ α) : Prop where
  manager_eq : (system.perform move).manager = done.manager
  collected_eq : (system.perform move).collected = system.collected ++ done.fired
  collects : (system.perform move).history.filterMap Entry.collected? =
    system.history.filterMap Entry.collected? ++ done.fired.map (Prod.mk system.time)
  handsOver : (system.perform move).history.filterMap Entry.handedOver? =
    system.history.filterMap Entry.handedOver?

/-- A move that records some events about no callback, and then a section. -/
theorem carriesOut_of_commit {move : TimerMove κ} {done : TimerSection SimulatedTimer κ α}
    {next : TimerSystem SimulatedTimer κ} (first decided : List (TimerEvent κ))
    (performed : system.perform move = next) (manager_eq : next.manager = done.manager)
    (collected_eq : next.collected = system.collected ++ done.fired)
    (history_eq : next.history = ((system.record first).commit done decided).history)
    (first_idle : ∀ event ∈ first, event.delivers = false)
    (decided_idle : ∀ event ∈ decided, event.delivers = false) :
    system.CarriesOut move done := by
  obtain ⟨first_collects, first_hands⟩ := filterMap_of_not_delivers system.time first_idle
  obtain ⟨decided_collects, decided_hands⟩ := filterMap_of_not_delivers system.time decided_idle
  have charges_idle : ∀ event ∈ chargesOf (κ := κ) done.notes, event.delivers = false := by
    intro event charge
    obtain ⟨elapsed, rfl⟩ := mem_chargesOf charge
    rfl
  obtain ⟨charges_collect, charges_hand⟩ := filterMap_of_not_delivers system.time charges_idle
  obtain ⟨fired_collects, fired_hands⟩ := filterMap_collected system.time done.fired
  have ends_idle : ∀ event ∈ if done.notes.any TimerNote.endsPass then [TimerEvent.passed (κ := κ)]
      else [], event.delivers = false := by
    split <;> simp [TimerEvent.delivers]
  obtain ⟨ends_collects, ends_hands⟩ := filterMap_of_not_delivers system.time ends_idle
  rw [history_commit, history_record, passOf] at history_eq
  rw [← performed] at manager_eq collected_eq history_eq
  refine ⟨manager_eq, collected_eq, ?_, ?_⟩
  · rw [history_eq]
    simp only [List.map_append, List.filterMap_append, first_collects, charges_collect,
      decided_collects, fired_collects, ends_collects, List.nil_append, List.append_nil, record]
  · rw [history_eq]
    simp only [List.map_append, List.filterMap_append, first_hands, charges_hand, decided_hands,
      fired_hands, ends_hands, List.append_nil, record]

theorem carriesOut_expire (system : TimerSystem SimulatedTimer κ) :
    system.CarriesOut .expire system.manager.expire :=
  carriesOut_of_commit [] [] rfl rfl rfl (by rw [record_nil]; rfl) (List.forall_mem_nil _)
    (List.forall_mem_nil _)

theorem carriesOut_allocate (system : TimerSystem SimulatedTimer κ) :
    system.CarriesOut .allocate system.manager.allocate := by
  have none_fired : system.manager.allocate.fired = [] := by
    rw [allocate]
    repeat' split
    all_goals rfl
  cases answer : system.manager.allocate.answer with
  | ok id => constructor <;> simp [perform_allocate_of_ok answer, none_fired]
  | error error =>
      have same := congrArg TimerSection.manager (allocate_eq_of_error answer)
      constructor <;> simp [perform_allocate_of_error answer, none_fired, same]

theorem carriesOut_schedule {id : TimerId} {mode : TimerMode} {delay : Duration}
    {footprint : Footprint} {ticks : Ticks} (callback : κ) (owned : id ∈ system.handles)
    (accepted : system.manager.accept mode delay footprint = .ok ticks) :
    system.CarriesOut (.schedule id mode delay footprint callback)
      (system.manager.schedule id mode ticks callback) := by
  refine carriesOut_of_commit [] _ (perform_schedule owned accepted) rfl rfl (by rw [record_nil])
    (List.forall_mem_nil _) ?_
  intro event member
  rw [decision] at member
  split at member
  · cases member
  · split at member <;> rw [List.mem_singleton.mp member] <;> rfl

theorem carriesOut_cancel {id : TimerId} (owned : id ∈ system.handles) :
    system.CarriesOut (.cancel id) (system.manager.cancel id) :=
  carriesOut_of_commit [.cancelled id] [] (perform_cancel owned) rfl rfl rfl
    (List.forall_mem_singleton.mpr rfl) (List.forall_mem_nil _)

theorem carriesOut_release {id : TimerId} (owned : id ∈ system.handles) :
    system.CarriesOut (.release id) (system.manager.cancel id) :=
  carriesOut_of_commit [.cancelled id] [] (perform_release owned) rfl rfl rfl
    (List.forall_mem_singleton.mpr rfl) (List.forall_mem_nil _)

theorem carriesOut_free {id : TimerId} (given_up : id ∈ system.releasing) :
    system.CarriesOut (.free id) (system.manager.free id) :=
  carriesOut_of_commit [.freed id] [] (perform_free given_up) rfl rfl rfl
    (List.forall_mem_singleton.mpr rfl) (List.forall_mem_nil _)

end TimerSystem

end Reactor
