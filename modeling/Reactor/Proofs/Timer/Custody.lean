import Mathlib.Data.List.ReduceOption
import Reactor.Proofs.Timer.Behind
import Reactor.Proofs.Timer.Growth

/-!
# Timers and their handles

A timer that is allocated belongs to the handle that was given out for it.  A handle loses its timer
when it is released, which takes two sections with anything in between, or when it is given up
without being released.  Every such run is an open run of the manager, so each occupied slot belongs
to just one handle, or its handle was given up, or its release is under way.
-/

namespace Reactor

/-- A timer manager with all who hold its timers. -/
structure Custody (H κ : Type) where
  /-- The manager. -/
  manager : TimerManager H κ
  /-- Every handle that was given out, in order, with its timer for as long as it has one. -/
  handles : List (Option TimerId) := []
  /-- The timers of handles that were given up without being released. -/
  leaked : List TimerId := []
  /-- The timers of handles that are being released, the latest first. -/
  releasing : List TimerId := []

namespace Custody

variable {H κ : Type}

/-- The timers of the handles. -/
def owned (custody : Custody H κ) : List TimerId := custody.handles.reduceOption

/-- All timers that are spoken for. -/
def held (custody : Custody H κ) : List TimerId :=
  custody.owned ++ custody.leaked ++ custody.releasing

/-- The same handles in the midst of some releases. -/
def amid (custody : Custody H κ) (releasing : List TimerId) : Custody H κ :=
  { custody with releasing }

section

variable [HardwareTimer H]

/-- A manager that has given out no timer. -/
def fresh (hardware : H) (storage : TimerStorage) : Custody H κ :=
  { manager := .new hardware storage }

/-- One thing that happens to a manager and its handles. -/
inductive Step : Custody H κ → Custody H κ → Prop where
  /-- The hardware changes by itself. -/
  | stir (custody : Custody H κ) (hardware : H) :
      Step custody { custody with manager := { custody.manager with hardware } }
  /-- A timer is allocated for a new handle. -/
  | allocate {custody : Custody H κ} {id : TimerId}
      (allocated : custody.manager.allocate.answer = .ok id) :
      Step custody
        { custody with
          manager := custody.manager.allocate.manager
          handles := custody.handles ++ [some id] }
  /-- The timer of a handle is scheduled. -/
  | schedule {custody : Custody H κ} {id : TimerId} {mode : TimerMode} {delay : Duration}
      {footprint : Footprint} {ticks : Ticks} (callback : κ) (holds : some id ∈ custody.handles)
      (accepted : custody.manager.accept mode delay footprint = .ok ticks) :
      Step custody
        { custody with manager := (custody.manager.schedule id mode ticks callback).manager }
  /-- The timer of a handle is cancelled. -/
  | cancel {custody : Custody H κ} {id : TimerId} (holds : some id ∈ custody.handles) :
      Step custody { custody with manager := (custody.manager.cancel id).manager }
  /-- An expiry of the hardware is worked off, whether there was one or not. -/
  | expire (custody : Custody H κ) :
      Step custody { custody with manager := custody.manager.expire.manager }
  /-- A handle is given up without being released. -/
  | leak {custody : Custody H κ} {place : Nat} {id : TimerId}
      (holds : custody.handles[place]? = some (some id)) :
      Step custody
        { custody with
          handles := custody.handles.set place none
          leaked := id :: custody.leaked }
  /-- The release of a handle begins: the handle has no timer any more, and the timer is
  cancelled. -/
  | release {custody : Custody H κ} {place : Nat} {id : TimerId}
      (holds : custody.handles[place]? = some (some id)) :
      Step custody
        { custody with
          manager := (custody.manager.cancel id).manager
          handles := custody.handles.set place none
          releasing := id :: custody.releasing }
  /-- A release ends: the timer is freed. -/
  | free {custody : Custody H κ} {id : TimerId} (releases : id ∈ custody.releasing) :
      Step custody
        { custody with
          manager := (custody.manager.free id).manager
          releasing := custody.releasing.erase id }

/-- Any number of steps. -/
abbrev Runs : Custody H κ → Custody H κ → Prop := Relation.ReflTransGen Step

end

/-! ## Handles that lose their timers -/

section

variable {handles : List (Option TimerId)} {place : Nat} {id : TimerId}

theorem perm_reduceOption_set (holds : handles[place]? = some (some id)) :
    handles.reduceOption.Perm (id :: (handles.set place none).reduceOption) := by
  obtain ⟨inside, at_place⟩ := List.getElem?_eq_some_iff.mp holds
  have split_at : handles = handles.take place ++ some id :: handles.drop (place + 1) := by
    rw [← at_place, List.getElem_cons_drop, List.take_append_drop]
  have emptied : handles.set place none =
      handles.take place ++ none :: handles.drop (place + 1) :=
    List.set_eq_take_append_cons_drop.trans (if_pos inside)
  rw [emptied, List.reduceOption_append, List.reduceOption_cons_of_none]
  conv_lhs => rw [split_at, List.reduceOption_append, List.reduceOption_cons_of_some]
  exact List.perm_middle

variable [HardwareTimer H] {custody next : Custody H κ}

/-- A handle without a timer never gets another one. -/
theorem Step.stays_empty (step : Step custody next) (empty : custody.handles[place]? = some none) :
    next.handles[place]? = some none := by
  obtain ⟨inside, _⟩ := List.getElem?_eq_some_iff.mp empty
  cases step with
  | stir | schedule | cancel | expire | free => exact empty
  | allocate allocated => rw [List.getElem?_append_left inside, empty]
  | @leak other _ holds | @release other _ holds =>
      by_cases same : other = place
      · subst same
        exact List.getElem?_set_self inside
      · rw [List.getElem?_set_ne same, empty]

theorem Runs.stays_empty (runs : Runs custody next)
    (empty : custody.handles[place]? = some none) : next.handles[place]? = some none := by
  induction runs with
  | refl => exact empty
  | tail _ step induction => exact step.stays_empty induction

end

/-! ## Open runs of the manager -/

section

variable [HardwareTimer H] {custody next : Custody H κ} {system : TimerSystem H κ}

/-- A system whose users hold what the handles hold. -/
structure Mirrors (custody : Custody H κ) (system : TimerSystem H κ) : Prop where
  /-- The manager is in use. -/
  alive : system.alive = true
  /-- It is the same manager. -/
  manager : system.manager = custody.manager
  /-- The users hold the timers of all handles that were not released. -/
  handles : system.handles.Perm (custody.owned ++ custody.leaked)
  /-- The same timers are being released. -/
  releasing : system.releasing = custody.releasing

omit [HardwareTimer H] in
theorem Mirrors.mem_handles (mirrors : custody.Mirrors system) {id : TimerId}
    (holds : some id ∈ custody.handles) : id ∈ system.handles :=
  mirrors.handles.mem_iff.mpr (List.mem_append_left _ (List.reduceOption_mem_iff.mpr holds))

/-- The hardware is replaced. -/
abbrev replace (hardware _ : H) : H := hardware

/-- A step of the handles is at most one move of the manager's users. -/
theorem Step.exists_moves (step : Step custody next) (mirrors : custody.Mirrors system) :
    ∃ moves : List (OpenMove H κ),
      next.Mirrors (moves.foldl (TimerSystem.undergo replace) system) := by
  obtain ⟨alive, same, handles, releasing⟩ := mirrors
  have used : ∀ move, system.undergo replace (.use move : OpenMove H κ) = system.perform move := by
    intro move
    rw [TimerSystem.undergo, if_pos alive]
  cases step with
  | stir hardware =>
      refine ⟨[.stir hardware], alive, ?_, handles, releasing⟩
      rw [← same]
      rfl
  | @allocate id allocated =>
      refine ⟨[.use .allocate], ?_⟩
      rw [List.foldl_cons, List.foldl_nil, used, TimerSystem.perform]
      rw [← same] at allocated ⊢
      simp only [allocated]
      refine ⟨alive, rfl, ?_, releasing⟩
      have appended : (custody.handles ++ [some id]).reduceOption = custody.owned ++ [id] :=
        List.reduceOption_append _ _
      rw [owned, appended, List.append_assoc, List.singleton_append]
      exact (handles.cons id).trans List.perm_middle.symm
  | @schedule id mode delay footprint ticks callback holds accepted =>
      refine ⟨[.use (.schedule id mode delay footprint callback)], ?_⟩
      have owned := Mirrors.mem_handles ⟨alive, same, handles, releasing⟩ holds
      rw [List.foldl_cons, List.foldl_nil, used, TimerSystem.perform, if_pos owned]
      rw [← same] at accepted ⊢
      simp only [accepted]
      exact ⟨alive, rfl, handles, releasing⟩
  | @cancel id holds =>
      refine ⟨[.use (.cancel id)], ?_⟩
      have owned := Mirrors.mem_handles ⟨alive, same, handles, releasing⟩ holds
      rw [List.foldl_cons, List.foldl_nil, used, TimerSystem.perform, if_pos owned, ← same]
      exact ⟨alive, rfl, handles, releasing⟩
  | expire =>
      refine ⟨[.use .expire], ?_⟩
      rw [List.foldl_cons, List.foldl_nil, used, TimerSystem.perform, ← same]
      exact ⟨alive, rfl, handles, releasing⟩
  | @leak place id holds =>
      refine ⟨[], alive, same, handles.trans ?_, releasing⟩
      exact ((perm_reduceOption_set holds).append_right _).trans List.perm_middle.symm
  | @release place id holds =>
      refine ⟨[.use (.release id)], ?_⟩
      have owned := Mirrors.mem_handles ⟨alive, same, handles, releasing⟩
        (List.mem_of_getElem? holds)
      rw [List.foldl_cons, List.foldl_nil, used, TimerSystem.perform, if_pos owned, ← same,
        ← releasing]
      refine ⟨alive, rfl, ?_, rfl⟩
      have without := (handles.trans ((perm_reduceOption_set holds).append_right _)).erase id
      rwa [List.cons_append, List.erase_cons_head] at without
  | @free id releases =>
      refine ⟨[.use (.free id)], ?_⟩
      rw [← releasing] at releases
      rw [List.foldl_cons, List.foldl_nil, used, TimerSystem.perform, if_pos releases, ← same,
        ← releasing]
      exact ⟨alive, rfl, handles, rfl⟩

/-- What happens to a new manager and its handles is an open run of the manager. -/
theorem Runs.exists_openRun {hardware : H} {storage : TimerStorage}
    (runs : Runs (fresh hardware storage) custody) :
    ∃ moves : List (OpenMove H κ),
      custody.Mirrors (TimerSystem.openRun replace hardware storage moves) := by
  induction runs with
  | refl => exact ⟨[], rfl, rfl, .refl _, rfl⟩
  | tail _ step induction =>
      obtain ⟨moves, mirrors⟩ := induction
      obtain ⟨further, mirrors⟩ := step.exists_moves mirrors
      refine ⟨moves ++ further, ?_⟩
      rwa [TimerSystem.openRun, List.foldl_append]

end

end Custody

/-! ## Allocation -/

namespace TimerManager

variable {H κ : Type} {manager next : TimerManager H κ} {id : TimerId} {storage : TimerStorage}

/-- The allocated timers are counted by any list of their ids. -/
theorem allocatedCount_eq_length {ids : List TimerId} (distinct : ids.Nodup)
    (allocated_iff : ∀ id, (manager.timer? id).isSome = true ↔ id ∈ ids) :
    manager.allocatedCount = ids.length := by
  have listed : manager.slots.entries.toList = (List.range manager.slots.size).map
      fun index => (manager.slots.get? index).join := by
    apply List.ext_getElem
    · simp [Roster.size]
    · intro place inside _
      rw [Array.length_toList] at inside
      simp [Roster.get?, Array.getElem?_eq_getElem inside]
  have counted : manager.allocatedCount = ((List.range manager.slots.size).filter
      fun index => (manager.timer? ⟨index⟩).isSome).length := by
    rw [allocatedCount, ← Array.countP_toList, listed, List.countP_map,
      List.countP_eq_length_filter]
    rfl
  have indices : (ids.map TimerId.index).Nodup := by
    apply distinct.map
    rintro ⟨first⟩ ⟨second⟩ same
    exact congrArg TimerId.mk same
  rw [counted, ← ids.length_map TimerId.index]
  apply List.Perm.length_eq
  apply (List.perm_ext_iff_of_nodup (List.nodup_range.filter _) indices).mpr
  intro index
  rw [List.mem_filter, List.mem_range, List.mem_map]
  constructor
  · exact fun taken => ⟨⟨index⟩, (allocated_iff _).mp taken.2, rfl⟩
  · rintro ⟨id, listed, rfl⟩
    have allocated := (allocated_iff id).mpr listed
    obtain ⟨timer, held⟩ := Option.isSome_iff_exists.mp allocated
    exact ⟨lt_size_of_held? held, allocated⟩

/-- `next` is `manager` with an idle timer at the lowest index that was free. -/
structure Gains (manager : TimerManager H κ) (id : TimerId) (next : TimerManager H κ) : Prop where
  /-- Only the slots change. -/
  frame : next = { manager with slots := next.slots }
  /-- The index was free. -/
  absent : manager.timer? id = none
  /-- Every lower index was taken. -/
  lowest : ∀ index < id.index, (manager.timer? ⟨index⟩).isSome = true
  /-- The new timer is idle, and the others stay as they are. -/
  timers : ∀ other, next.timer? other = if other = id then some .idle else manager.timer? other

theorem isSome_timer?_of_lt_freeIndex {index : Nat}
    (taken : ∀ place (inside : place < manager.slots.entries.size), place ≤ index →
      manager.slots.entries[place].isNone = false)
    (inside : index < manager.slots.size) : (manager.timer? ⟨index⟩).isSome = true := by
  have occupied := taken index inside (Nat.le_refl _)
  rw [timer?, Roster.get?, Array.getElem?_eq_getElem inside, Option.join_some]
  rwa [Option.isNone_eq_false_iff] at occupied

theorem gains_allocate (allocated : manager.allocate.answer = .ok id) :
    manager.Gains id manager.allocate.manager := by
  obtain ⟨slots, result, absent, placed, _⟩ := allocate_of_ok allocated
  refine ⟨by rw [result], absent, ?_, by rw [result]; exact placed⟩
  intro index lower
  cases free : freeIndex? manager.slots with
  | some lowest =>
      obtain ⟨inside, _, taken⟩ := Array.findIdx?_eq_some_iff_getElem.mp free
      simp only [allocate, free, Except.ok.injEq] at allocated
      subst allocated
      refine isSome_timer?_of_lt_freeIndex (fun place inside le => ?_) (Nat.lt_trans lower inside)
      exact Bool.eq_false_iff.mpr (taken place (Nat.lt_of_le_of_lt le lower))
  | none =>
      have at_end : id.index = manager.slots.size := by
        cases pushed : manager.slots.push? (some .idle) with
        | none => simp [allocate, free, pushed] at allocated
        | some slots =>
            simp only [allocate, free, pushed, Except.ok.injEq] at allocated
            rw [← allocated]
      refine isSome_timer?_of_lt_freeIndex (fun place inside _ => ?_) (at_end ▸ lower)
      exact Array.findIdx?_eq_none_iff.mp free _ (Array.getElem_mem inside)

theorem allocate_eq_of_error {error : TimerError}
    (refused : manager.allocate.answer = .error error) :
    manager.allocate = { manager, answer := .error error } := by
  cases free : freeIndex? manager.slots with
  | some index => simp [allocate, free] at refused
  | none =>
      cases pushed : manager.slots.push? (some .idle) with
      | none =>
          simp only [allocate, free, pushed, Except.error.injEq] at refused ⊢
          rw [refused]
      | some slots => simp [allocate, free, pushed] at refused

/-- Only a table of limited size refuses a timer, and just when it is full. -/
theorem Housed.allocate_eq_error_iff (housed : manager.Housed storage) (error : TimerError) :
    manager.allocate.answer = .error error ↔
      ∃ limit, storage.timers = .bounded limit ∧ manager.allocatedCount = limit ∧
        error = .listFull limit := by
  have counted : manager.allocatedCount ≤ manager.slots.size := Array.countP_le_size
  constructor
  · intro refused
    cases free : freeIndex? manager.slots with
    | some index => simp [allocate, free] at refused
    | none =>
        cases pushed : manager.slots.push? (some .idle) with
        | some slots => simp [allocate, free, pushed] at refused
        | none =>
            have full := Roster.push?_eq_none_iff.mp pushed
            simp only [allocate, free, pushed, Except.error.injEq] at refused
            rw [housed.slots] at full refused
            cases bounded : storage.timers with
            | unbounded => simp [bounded] at full
            | bounded limit =>
                refine ⟨limit, rfl, ?_, by rw [← refused, bounded]; rfl⟩
                have within : manager.slots.size ≤ limit :=
                  Roster.Fits.size_le (fun size small => housed.slots ▸ housed.within size small)
                    (housed.slots.trans bounded)
                rw [bounded] at full
                simp only [Capacity.admits_bounded, decide_eq_false_iff_not] at full
                rw [allocatedCount_of_full free]
                omega
  · rintro ⟨limit, bounded, taken, rfl⟩
    have within : manager.slots.size ≤ limit :=
      Roster.Fits.size_le (fun size small => housed.slots ▸ housed.within size small)
        (housed.slots.trans bounded)
    have full : manager.slots.size = limit := by omega
    have all_taken : ∀ entry ∈ manager.slots.entries, entry.isSome = true :=
      Array.countP_eq_size.mp (taken.trans full.symm)
    have none_free : freeIndex? manager.slots = none :=
      Array.findIdx?_eq_none_iff.mpr fun entry member => by simp [all_taken entry member]
    have refused : manager.slots.push? (some .idle) = none := by
      rw [Roster.push?_eq_none_iff, housed.slots, bounded, full]
      simp
    simp only [allocate, none_free, refused, housed.slots, bounded]
    rfl

end TimerManager

/-! ## Who holds what -/

namespace Custody

open TimerManager

variable {H κ : Type} {custody : Custody H κ}

/-- The occupied slots are those of the timers that are spoken for, each by one. -/
structure OneToOne (custody : Custody H κ) : Prop where
  /-- No timer is spoken for twice. -/
  distinct : custody.held.Nodup
  /-- A slot is occupied just if its timer is spoken for. -/
  occupied_iff : ∀ id, (custody.manager.timer? id).isSome = true ↔ id ∈ custody.held
  /-- They are as many as the manager counts. -/
  count : custody.manager.allocatedCount = custody.held.length

theorem Mirrors.perm_held {system : TimerSystem H κ} (mirrors : custody.Mirrors system) :
    (system.handles ++ system.releasing).Perm custody.held := by
  rw [held, mirrors.releasing]
  exact mirrors.handles.append_right _

theorem Mirrors.oneToOne {system : TimerSystem H κ} (mirrors : custody.Mirrors system)
    (wellFormed : system.WellFormed) : custody.OneToOne := by
  have distinct := mirrors.perm_held.nodup_iff.mp wellFormed.distinct
  have occupied_iff : ∀ id, (custody.manager.timer? id).isSome = true ↔ id ∈ custody.held := by
    intro id
    rw [← mirrors.manager, wellFormed.allocated_iff, ← mirrors.perm_held.mem_iff, List.mem_append]
  exact ⟨distinct, occupied_iff, allocatedCount_eq_length distinct occupied_iff⟩

variable [HardwareTimer H] {hardware : H} {storage : TimerStorage} {id : TimerId}

theorem Runs.oneToOne (reached : (fresh hardware storage).Runs custody) : custody.OneToOne := by
  obtain ⟨moves, mirrors⟩ := reached.exists_openRun
  exact mirrors.oneToOne (TimerSystem.openRun_sound _ _ _ moves).1

theorem Runs.allocate_eq_error_iff (reached : (fresh hardware storage).Runs custody)
    (error : TimerError) : custody.manager.allocate.answer = .error error ↔
      ∃ limit, storage.timers = .bounded limit ∧ custody.manager.allocatedCount = limit ∧
        error = .listFull limit := by
  obtain ⟨moves, mirrors⟩ := reached.exists_openRun
  rw [← mirrors.manager]
  exact (TimerSystem.housed_openRun _ _ _ moves).allocate_eq_error_iff error

/-- Cancelling the timer of a handle takes it out of the queue, whatever the hardware answers, and
frees no timer. -/
theorem Runs.cancels (reached : (fresh hardware storage).Runs custody)
    (owned : id ∈ custody.owned) :
    id ∉ (custody.manager.cancel id).manager.queue.ids ∧
      ∀ other, ((custody.manager.cancel id).manager.timer? other).isSome =
        (custody.manager.timer? other).isSome := by
  obtain ⟨moves, mirrors⟩ := reached.exists_openRun
  have wellFormed := (TimerSystem.openRun_sound replace hardware storage moves).1
  have none_due := TimerSystem.noneDue_openRun replace hardware storage moves
  have holds := mirrors.handles.mem_iff.mpr (List.mem_append_left _ owned)
  obtain ⟨timer, held⟩ := wellFormed.exists_timer (Or.inl holds)
  obtain ⟨coherent, _, ⟨elapsed, _, timers⟩, _⟩ := cancel_spec wellFormed.coherent none_due held
  rw [mirrors.manager] at coherent timers held
  have retired := timers id
  rw [if_pos rfl] at retired
  refine ⟨fun queued => ?_, fun other => ?_⟩
  · cases Coherent.pending_of_queued coherent retired queued
  · rw [timers]
    split
    · next same => rw [same, held, Option.isSome_some, Option.isSome_some]
    · rw [Option.isSome_map]

/-- The timer of a handle that is being released keeps its slot and does not wait, so freeing it
goes unnoticed. -/
theorem Runs.frees (reached : (fresh hardware storage).Runs custody)
    (releases : id ∈ custody.releasing) :
    (custody.manager.timer? id).isSome = true ∧ id ∉ custody.manager.queue.ids ∧
      custody.manager.Unnoticed id (custody.manager.free id).manager ∧
      (custody.manager.free id).manager.timer? id = none ∧
      (custody.manager.free id).fired = [] := by
  obtain ⟨moves, mirrors⟩ := reached.exists_openRun
  have wellFormed := (TimerSystem.openRun_sound replace hardware storage moves).1
  rw [← mirrors.releasing] at releases
  obtain ⟨timer, held⟩ := wellFormed.exists_timer (Or.inr releases)
  have idle := wellFormed.not_pending held (wellFormed.unplanned id releases)
  have unqueued : id ∉ custody.manager.queue.ids := by
    rw [← mirrors.manager]
    intro queued
    rw [Coherent.pending_of_queued wellFormed.coherent held queued] at idle
    cases idle
  have unnoticed := wellFormed.unnoticed_free releases
  rw [mirrors.manager] at unnoticed held
  exact ⟨by rw [held, Option.isSome_some], unqueued, unnoticed⟩

end Custody

end Reactor
