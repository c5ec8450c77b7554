import Reactor.Proofs.Timer.Account

/-!
# Accounts that are true

An account is true of a world if its system has the manager of that world and its users the timers
of the handles, and if it says of every callback that was collected whether it has been handed over.
A section keeps it true together with all that the callbacks do which it hands over: what is
collected is handed over in the same call, once and in order, whatever happens in between.
-/

namespace Reactor

namespace TimerUse

open Host TimerManager TimerSystem

variable {κ ω α β : Type}

/-! ## Accounts that are true -/

/-- What is under way. -/
structure Dues (κ : Type) where
  /-- What has been collected, with the time, and is yet to be handed over. -/
  pending : List (Nat × Expiry κ) := []
  /-- The timers in use whose ids are not in the table of handles. -/
  loose : List TimerId := []
  /-- The timers that have been cancelled for release and are yet to be freed. -/
  releasing : List TimerId := []

/-- What is under way once an allocation has come to its answer. -/
def Dues.allocated (dues : Dues κ) : Except TimerError TimerId → Dues κ
  | .ok id => { dues with loose := id :: dues.loose }
  | .error _ => dues

/-- The account agrees with the world. -/
structure Tallies (dues : Dues κ) (world : Told κ ω) : Prop where
  /-- The system has the manager of the world. -/
  manager_eq : world.rest.system.manager = world.component.manager
  /-- Its users hold the timers of the handles. -/
  handles_perm : world.rest.system.handles.Perm
    (dues.loose ++ world.component.handles.reduceOption)
  releasing_eq : world.rest.system.releasing = dues.releasing
  collected_eq : world.rest.system.collected = dues.pending.map Prod.snd
  /-- What was noted has been handed over. -/
  handed_eq : world.rest.handed = world.rest.system.history.filterMap Entry.handedOver?
  /-- What was collected has been handed over at that time, or is yet to be. -/
  booked : (world.rest.system.history.filterMap Entry.collected?).Perm
    (world.rest.handed ++ dues.pending)

/-- The account agrees with the world, and every schedule has been collected whenever it was due. -/
structure Kept (storage : TimerStorage) (dues : Dues κ) (world : Told κ ω) : Prop where
  tallies : Tallies dues world
  exact_now : world.rest.system.Exact storage

variable {storage : TimerStorage} {dues : Dues κ} {world next : Told κ ω}

theorem Kept.congr (kept : Kept storage dues world) (component : next.component = world.component)
    (system : next.rest.system = world.rest.system)
    (handed : next.rest.handed = world.rest.handed) : Kept storage dues next := by
  obtain ⟨⟨manager_eq, handles_perm, releasing_eq, collected_eq, handed_eq, booked⟩, exact_now⟩ :=
    kept
  constructor
  · constructor <;> rw [system] <;> simpa only [component, handed]
  · rwa [system]

/-- A run with an account does what it does without one and keeps the account true.  No time passes,
and what is under way after it is told by its answer. -/
structure Follows (storage : TimerStorage) (after : α → Dues κ) (world : Told κ ω)
    (told : Exec (Told κ ω) α) (run : Exec (World κ ω) α) : Prop where
  same : run.runFrom (forget world) = ((told.runFrom world).1, forget (told.runFrom world).2)
  time_eq : (told.runFrom world).2.rest.system.time = world.rest.system.time
  kept : ∃ left, Kept storage left (told.runFrom world).2 ∧
    ∀ value, (told.runFrom world).1 = .ok value → left = after value

namespace Follows

variable {told : Exec (Told κ ω) α} {run : Exec (World κ ω) α}

/-- A run that comes to an answer. -/
theorem of_ok {after : α → Dues κ} {value : α} (told_run : told.runFrom world = (.ok value, next))
    (same : run.runFrom (forget world) = (.ok value, forget next))
    (time_eq : next.rest.system.time = world.rest.system.time)
    (kept : Kept storage (after value) next) : Follows storage after world told run where
  same := by rw [told_run, same]
  time_eq := by rw [told_run, time_eq]
  kept := by
    rw [told_run]
    refine ⟨_, kept, fun other came => ?_⟩
    cases came
    rfl

theorem pure {after : α → Dues κ} (value : α) (kept : Kept storage (after value) world) :
    Follows storage after world (Pure.pure value) (Pure.pure value) :=
  .of_ok rfl rfl rfl kept

theorem halt {after : α → Dues κ} (kept : Kept storage dues world) (halt : Halt) :
    Follows storage after world (throw halt) (throw halt) where
  same := rfl
  time_eq := rfl
  kept := ⟨dues, kept, nofun⟩

theorem bind {mid : α → Dues κ} {after : β → Dues κ} {told_rest : α → Exec (Told κ ω) β}
    {run_rest : α → Exec (World κ ω) β} (first : Follows storage mid world told run)
    (rest : ∀ value later, Kept storage (mid value) later →
      told.runFrom world = (.ok value, later) →
      Follows storage after later (told_rest value) (run_rest value)) :
    Follows storage after world (told >>= told_rest) (run >>= run_rest) := by
  obtain ⟨same, time_eq, left, kept, settled⟩ := first
  rcases result : told.runFrom world with ⟨halt | value, later⟩
  all_goals rw [result] at same time_eq kept settled
  · constructor
    · rw [Exec.runFrom_bind, Exec.runFrom_bind, same, result]
    · rw [Exec.runFrom_bind, result]
      exact time_eq
    · rw [Exec.runFrom_bind, result]
      exact ⟨left, kept, nofun⟩
  · obtain rfl := settled value rfl
    have follows := rest value later kept result
    constructor
    · rw [Exec.runFrom_bind, Exec.runFrom_bind, same, result]
      exact follows.same
    · rw [Exec.runFrom_bind, result]
      exact follows.time_eq.trans time_eq
    · rw [Exec.runFrom_bind, result]
      exact follows.kept

/-- Looking at the component. -/
theorem read (kept : Kept storage dues world) (part : Part (TimerUse κ) β) :
    Follows storage (fun _ => dues) world (componentPart.andThen part).read
      (componentPart.andThen part).read :=
  .of_ok rfl rfl rfl kept

theorem report (kept : Kept storage dues world) (note : TimerNote) :
    Follows storage (fun _ => dues) world (Host.report note) (Host.report note) :=
  .of_ok rfl rfl rfl (kept.congr rfl rfl rfl)

theorem play (kept : Kept storage dues world) (callback : κ) :
    Follows storage (fun _ => dues) world (Host.play (fun _ rest => rest) callback)
      (Host.play (fun _ rest => rest) callback) :=
  .of_ok rfl rfl rfl (kept.congr rfl rfl rfl)

/-- A run that goes on from another world after a step that takes no time. -/
theorem of_step {after : α → Dues κ} {told_start : Exec (Told κ ω) α}
    {run_start : Exec (World κ ω) α} (follows : Follows storage after next told run)
    (told_step : told_start.runFrom world = told.runFrom next)
    (run_step : run_start.runFrom (forget world) = run.runFrom (forget next))
    (time_eq : next.rest.system.time = world.rest.system.time) :
    Follows storage after world told_start run_start where
  same := by rw [told_step, run_step, follows.same]
  time_eq := by rw [told_step, follows.time_eq, time_eq]
  kept := by
    rw [told_step]
    exact follows.kept

end Follows

/-- Wherever the account is true, a run with an account does what it does without one, keeps the
account true and leaves as much under way as before. -/
def Balanced (storage : TimerStorage) (told : Exec (Told κ ω) α) (run : Exec (World κ ω) α) :
    Prop :=
  ∀ dues world, Kept storage dues world → Follows storage (fun _ => dues) world told run

namespace Balanced

variable {told : Exec (Told κ ω) α} {run : Exec (World κ ω) α}

theorem bind {told_rest : α → Exec (Told κ ω) β} {run_rest : α → Exec (World κ ω) β}
    (first : Balanced storage told run)
    (rest : ∀ value, Balanced storage (told_rest value) (run_rest value)) :
    Balanced storage (told >>= told_rest) (run >>= run_rest) := fun dues world kept =>
  (first dues world kept).bind fun value later kept _ => rest value dues later kept

theorem pure (value : α) :
    Balanced storage (Pure.pure value : Exec (Told κ ω) α) (Pure.pure value) :=
  fun _ _ kept => .pure value kept

theorem halt (halt : Halt) :
    Balanced storage (throw halt : Exec (Told κ ω) α) (throw halt) :=
  fun _ _ kept => .halt kept halt

end Balanced

/-! ## Handing over -/

section

variable {route : Route} {told_call : κ → Exec (Told κ ω) Unit}
  {run_call : κ → Exec (World κ ω) Unit}
  (calls : ∀ callback, Balanced storage (told_call callback) (run_call callback))

include calls

theorem balanced_deliver (expiry : Expiry κ) :
    Balanced storage ((serviceOf route told_call).deliver expiry)
      ((serviceOf route run_call).deliver expiry) := by
  intro dues world kept
  have told_run := TimerService.runFrom_deliver (serviceOf route told_call) expiry world
  have run := TimerService.runFrom_deliver (serviceOf route run_call) expiry (forget world)
  cases current : world.component.manager.isCurrent expiry.id expiry.serial with
  | true =>
      exact (calls expiry.callback dues world kept).of_step (told_run.trans (if_pos current))
        (run.trans (if_pos current)) rfl
  | false =>
      have skipped : ¬ (true && world.component.manager.isCurrent expiry.id expiry.serial) := by
        simp [current]
      exact (Follows.report kept _).of_step (told_run.trans (if_neg skipped))
        (run.trans (if_neg skipped)) rfl

theorem balanced_handOver (expiry : Expiry κ) :
    Balanced storage ((serviceOf route told_call).handOver expiry)
      ((serviceOf route run_call).handOver expiry) := by
  by_cases waits : route = .inline
  · subst waits
    exact balanced_deliver calls expiry
  · intro dues world kept
    exact .of_ok (runFrom_dispatch waits expiry) (runFrom_dispatch waits expiry) rfl
      (kept.congr rfl rfl rfl)

end

/-- Noting that the oldest callback of a section is handed over. -/
theorem Kept.book {expiry : Expiry κ} {later : List (Nat × Expiry κ)}
    (kept : Kept storage
      { dues with pending := dues.pending ++ (world.rest.system.time, expiry) :: later } world)
    (collects_all : storage.CollectsAll) :
    Kept storage { dues with pending := dues.pending ++ later }
      (TimerUse.book dues.pending.length expiry world) := by
  obtain ⟨⟨manager_eq, handles_perm, releasing_eq, collected_eq, handed_eq, booked⟩, exact_now⟩ :=
    kept
  rw [List.map_append, List.map_cons] at collected_eq
  have waits : world.rest.system.collected[dues.pending.length]? = some expiry := by
    rw [collected_eq, List.getElem?_append_right (by rw [List.length_map]), List.length_map,
      Nat.sub_self, List.getElem?_cons_zero]
  have rest : world.rest.system.collected.eraseIdx dues.pending.length =
      (dues.pending ++ later).map Prod.snd := by
    rw [collected_eq, List.eraseIdx_append_of_length_le (by rw [List.length_map]),
      List.length_map, Nat.sub_self, List.eraseIdx_cons_zero, List.map_append]
  have account : (TimerUse.book dues.pending.length expiry world).rest.system = _ :=
    perform_handOver waits
  refine ⟨?_, exact_now.perform collects_all (.handOver dues.pending.length)⟩
  constructor
  · rw [account]
    exact manager_eq
  · rw [account]
    exact handles_perm
  · rw [account]
    exact releasing_eq
  · rw [account]
    exact rest
  · rw [account, history_record, List.filterMap_append, ← handed_eq]
    rfl
  · have unchanged : (TimerUse.book dues.pending.length expiry world).rest.system.history.filterMap
        Entry.collected? = world.rest.system.history.filterMap Entry.collected? := by
      rw [account, history_record, List.filterMap_append]
      exact List.append_nil _
    have handed : (TimerUse.book dues.pending.length expiry world).rest.handed =
        world.rest.handed ++ [(world.rest.system.time, expiry)] := rfl
    rw [unchanged, handed, List.append_assoc, List.singleton_append]
    exact booked.trans (List.perm_middle.append_left _)

/-! ## Sections -/

/-- The world when a section is over and its reports have been made. -/
def sectioned (move : TimerMove κ) (done : TimerSection SimulatedTimer κ α) (world : Told κ ω) :
    Told κ ω :=
  { world with
    component := { world.component with manager := done.manager }
    rest := { world.rest with system := world.rest.system.perform move }
    notes := world.notes ++ done.notes }

theorem runFrom_commit_told (route : Route) (call : κ → Exec (Told κ ω) Unit) (move : TimerMove κ)
    (act : TimerManager SimulatedTimer κ → TimerSection SimulatedTimer κ α) :
    (Told.commit (serviceOf route call) move act).runFrom world =
      ((do
        (act world.component.manager).fired.forM
          (Told.handOver (serviceOf route call) world.rest.system.collected.length)
        return (act world.component.manager).answer) : Exec (Told κ ω) α).runFrom
          (sectioned move (act world.component.manager) world) := by
  have unfolded : (Told.commit (serviceOf route call) move act).runFrom world =
      ((do
        (act world.component.manager).notes.forM Host.report
        (act world.component.manager).fired.forM
          (Told.handOver (serviceOf route call) world.rest.system.collected.length)
        return (act world.component.manager).answer) : Exec (Told κ ω) α).runFrom
          { world with
            component := { world.component with manager := (act world.component.manager).manager }
            rest := { world.rest with system := world.rest.system.perform move } } := rfl
  rw [unfolded, Exec.runFrom_bind, runFrom_forM_report]
  rfl

theorem runFrom_commit_forget (route : Route) (call : κ → Exec (World κ ω) Unit)
    (move : TimerMove κ) (act : TimerManager SimulatedTimer κ → TimerSection SimulatedTimer κ α) :
    ((serviceOf route call).commit act).runFrom (forget world) =
      ((do
        (act world.component.manager).fired.forM (serviceOf route call).handOver
        return (act world.component.manager).answer) : Exec (World κ ω) α).runFrom
          (forget (sectioned move (act world.component.manager) world)) := by
  have unfolded : ((serviceOf route call).commit act).runFrom (forget world) =
      ((do
        (act world.component.manager).notes.forM Host.report
        (act world.component.manager).fired.forM (serviceOf route call).handOver
        return (act world.component.manager).answer) : Exec (World κ ω) α).runFrom
          { forget world with
            component :=
              { world.component with manager := (act world.component.manager).manager } } := rfl
  rw [unfolded, Exec.runFrom_bind, runFrom_forM_report]
  rfl

/-- A section that a move carries out leaves an account that says what the section has fired. -/
theorem Tallies.sectioned {move : TimerMove κ} {done : TimerSection SimulatedTimer κ α}
    {left : Dues κ} (tallies : Tallies dues world)
    (carries_out : world.rest.system.CarriesOut move done)
    (handles_perm : (world.rest.system.perform move).handles.Perm
      (left.loose ++ world.component.handles.reduceOption))
    (releasing_eq : (world.rest.system.perform move).releasing = left.releasing)
    (pending_eq : left.pending = dues.pending) :
    Tallies { left with
        pending := left.pending ++ done.fired.map (Prod.mk world.rest.system.time) }
      (TimerUse.sectioned move done world) := by
  obtain ⟨_, _, _, collected_eq, handed_eq, booked⟩ := tallies
  refine ⟨carries_out.manager_eq, handles_perm, releasing_eq, ?_, ?_, ?_⟩
  · rw [pending_eq, List.map_append, List.map_map, ← collected_eq]
    exact carries_out.collected_eq.trans (congrArg _ (List.map_id _).symm)
  · exact handed_eq.trans carries_out.handsOver.symm
  · rw [pending_eq, ← List.append_assoc]
    exact carries_out.collects ▸ booked.append_right _

section

variable {route : Route} {told_call : κ → Exec (Told κ ω) Unit}
  {run_call : κ → Exec (World κ ω) Unit}
  (calls : ∀ callback, Balanced storage (told_call callback) (run_call callback))
  (collects_all : storage.CollectsAll)

include calls collects_all

/-- What a section has fired is handed over in order, and nothing of it is left. -/
theorem follows_handOvers (fired : List (Expiry κ))
    (kept : Kept storage
      { dues with pending := dues.pending ++ fired.map (Prod.mk world.rest.system.time) } world) :
    Follows storage (fun _ => dues) world
      (fired.forM (Told.handOver (serviceOf route told_call) dues.pending.length))
      (fired.forM (serviceOf route run_call).handOver) := by
  induction fired generalizing world with
  | nil =>
      rw [List.map_nil, List.append_nil] at kept
      exact .of_ok rfl rfl rfl kept
  | cons expiry fired induction =>
      have booked := kept.book collects_all
      have same_time : (book dues.pending.length expiry world).rest.system.time =
          world.rest.system.time := time_perform _ _
      have first : Follows storage _ world
          (Told.handOver (serviceOf route told_call) dues.pending.length expiry)
          ((serviceOf route run_call).handOver expiry) :=
        (balanced_handOver calls expiry _ _ booked).of_step rfl rfl same_time
      refine first.bind fun _ later kept result => induction ?_
      have later_time : later.rest.system.time = world.rest.system.time := by
        rw [← first.time_eq, result]
      rwa [later_time]

/-- Where the account agrees with the world, a section that a move carries out keeps it true, with
all that the callbacks do which the section hands over. -/
theorem follows_commit {move : TimerMove κ}
    {act : TimerManager SimulatedTimer κ → TimerSection SimulatedTimer κ α} {after : α → Dues κ}
    {performed : TimerSystem SimulatedTimer κ} (tallies : Tallies dues world)
    (exact_after : (world.rest.system.perform move).Exact storage)
    (carries_out : world.rest.system.CarriesOut move (act world.rest.system.manager))
    (performs : world.rest.system.perform move = performed)
    (handles_perm : performed.handles.Perm
      ((after (act world.rest.system.manager).answer).loose ++
        world.component.handles.reduceOption))
    (releasing_eq : performed.releasing = (after (act world.rest.system.manager).answer).releasing)
    (pending_eq : (after (act world.rest.system.manager).answer).pending = dues.pending) :
    Follows storage after world (Told.commit (serviceOf route told_call) move act)
      ((serviceOf route run_call).commit act) := by
  subst performs
  rw [tallies.manager_eq] at carries_out handles_perm releasing_eq pending_eq
  have time_eq : (sectioned move (act world.component.manager) world).rest.system.time =
      world.rest.system.time := time_perform _ move
  have place_eq : (after (act world.component.manager).answer).pending.length =
      world.rest.system.collected.length := by
    rw [tallies.collected_eq, pending_eq, List.length_map]
  have kept := tallies.sectioned carries_out handles_perm releasing_eq pending_eq
  rw [← time_eq] at kept
  have handed : Follows storage (fun _ => after (act world.component.manager).answer) _ _
      ((act world.component.manager).fired.forM (serviceOf route run_call).handOver) :=
    follows_handOvers calls collects_all _ ⟨kept, exact_after⟩
  rw [place_eq] at handed
  exact (handed.bind fun _ _ kept _ => .pure _ kept).of_step
    (runFrom_commit_told route told_call move act) (runFrom_commit_forget route run_call move act)
    time_eq

end

/-! ## The table of handles -/

theorem Kept.owned (kept : Kept storage dues world) {place : Nat} {handle : Option TimerId}
    (found : world.component.handles[place]? = some handle) :
    ∀ id, handle = some id → id ∈ world.rest.system.handles := by
  rintro id rfl
  have listed := List.reduceOption_mem_iff.mpr (List.mem_of_getElem? found)
  exact kept.tallies.handles_perm.mem_iff.mpr (List.mem_append_right _ listed)

/-- The handle of a new timer is kept. -/
theorem follows_keep {id : TimerId}
    (kept : Kept storage { dues with loose := id :: dues.loose } world) :
    Follows storage (fun _ => dues) world (keep id) (keep id) := by
  obtain ⟨⟨manager_eq, handles_perm, releasing_eq, collected_eq, handed_eq, booked⟩, exact_now⟩ :=
    kept
  have listed : (id :: dues.loose ++ world.component.handles.reduceOption).Perm
      (dues.loose ++ (world.component.handles ++ [some id]).reduceOption) := by
    have appended : (world.component.handles ++ [some id]).reduceOption =
        world.component.handles.reduceOption ++ [id] := List.reduceOption_append _ _
    rw [appended, ← List.append_assoc]
    exact (List.perm_append_singleton _ _).symm
  exact .of_ok rfl rfl rfl
    ⟨⟨manager_eq, handles_perm.trans listed, releasing_eq, collected_eq, handed_eq, booked⟩,
      exact_now⟩

/-- A handle loses its timer. -/
theorem Kept.emptied (kept : Kept storage dues world) {place : Nat} {id : TimerId}
    (found : world.component.handles[place]? = some (some id)) :
    Kept storage { dues with loose := id :: dues.loose }
      (handlesPart.set (world.component.handles.set place none) world) := by
  obtain ⟨⟨manager_eq, handles_perm, releasing_eq, collected_eq, handed_eq, booked⟩, exact_now⟩ :=
    kept
  have without := (Custody.perm_reduceOption_set found).append_left dues.loose
  exact ⟨⟨manager_eq, handles_perm.trans (without.trans List.perm_middle), releasing_eq,
    collected_eq, handed_eq, booked⟩, exact_now⟩

theorem follows_onHandle (kept : Kept storage dues world) (place : Nat)
    {told : Option TimerId → Exec (Told κ ω) TimerAnswer}
    {run : Option TimerId → Exec (World κ ω) TimerAnswer}
    (follows : ∀ handle, world.component.handles[place]? = some handle →
      Follows storage (fun _ => dues) world (told handle) (run handle)) :
    Follows storage (fun _ => dues) world (onHandle place told) (onHandle place run) := by
  refine (Follows.read kept _).bind fun handles later kept read => ?_
  cases read
  rcases found : world.component.handles[place]? with _ | handle
  all_goals simp only [Part.andThen, componentPart, found]
  · exact .pure _ kept
  · exact follows handle found

section

variable {route : Route} {told_call : κ → Exec (Told κ ω) Unit}
  {run_call : κ → Exec (World κ ω) Unit}
  (calls : ∀ callback, Balanced storage (told_call callback) (run_call callback))
  (collects_all : storage.CollectsAll)

include calls collects_all

/-! ## Operations -/

theorem balanced_expire : Balanced storage (Told.expire (serviceOf route told_call))
    (serviceOf route run_call).expire := by
  intro dues world ⟨tallies, exact_now⟩
  exact follows_commit calls collects_all tallies (exact_now.perform collects_all .expire)
    (carriesOut_expire _) rfl tallies.handles_perm tallies.releasing_eq rfl

theorem follows_tryAllocate (kept : Kept storage dues world) :
    Follows storage dues.allocated world (Told.tryAllocate (serviceOf route told_call))
      (serviceOf route run_call).tryAllocate := by
  obtain ⟨tallies, exact_now⟩ := kept
  have exact_after := exact_now.perform collects_all .allocate
  have carries_out := carriesOut_allocate world.rest.system
  cases answer : world.rest.system.manager.allocate.answer with
  | ok id =>
      have performs := perform_allocate_of_ok answer
      refine follows_commit calls collects_all tallies exact_after carries_out performs ?_ ?_ ?_
      all_goals rw [answer]
      · exact tallies.handles_perm.cons id
      · exact tallies.releasing_eq
      · rfl
  | error error =>
      have performs := perform_allocate_of_error answer
      refine follows_commit calls collects_all tallies exact_after carries_out performs ?_ ?_ ?_
      all_goals rw [answer]
      · exact tallies.handles_perm
      · exact tallies.releasing_eq
      · rfl

theorem follows_allocate (kept : Kept storage dues world) :
    Follows storage (fun id => { dues with loose := id :: dues.loose }) world
      (Told.allocate (serviceOf route told_call)) (serviceOf route run_call).allocate := by
  refine (follows_tryAllocate calls collects_all kept).bind fun result later kept _ => ?_
  cases result with
  | ok id => exact .pure id kept
  | error error => exact .halt kept _

/-- The timer of a handle is in use. -/
theorem follows_schedule (kept : Kept storage dues world) {handle : Option TimerId}
    (owned : ∀ id, handle = some id → id ∈ world.rest.system.handles) (mode : TimerMode)
    (delay : Duration) (footprint : Footprint) (callback : κ) :
    Follows storage (fun _ => dues) world
      (Told.schedule (serviceOf route told_call) handle mode delay footprint callback)
      ((serviceOf route run_call).schedule handle mode delay footprint callback) := by
  cases handle with
  | none => exact .pure _ kept
  | some id =>
      refine (Follows.read kept _).bind fun manager later kept read => ?_
      cases read
      rcases accepted : world.component.manager.accept mode delay footprint with
        (message | error) | ticks
      all_goals simp only [Part.andThen, componentPart, accepted]
      · exact .halt kept _
      · exact .pure _ kept
      · obtain ⟨tallies, exact_now⟩ := kept
        rw [← tallies.manager_eq] at accepted
        exact follows_commit calls collects_all tallies (exact_now.perform collects_all _)
          (carriesOut_schedule callback (owned id rfl) accepted)
          (perform_schedule (owned id rfl) accepted) tallies.handles_perm tallies.releasing_eq rfl

theorem follows_tryCancel (kept : Kept storage dues world) {handle : Option TimerId}
    (owned : ∀ id, handle = some id → id ∈ world.rest.system.handles) :
    Follows storage (fun _ => dues) world
      (Told.tryCancel (serviceOf route told_call) handle)
      ((serviceOf route run_call).tryCancel handle) := by
  cases handle with
  | none => exact .pure _ kept
  | some id =>
      obtain ⟨tallies, exact_now⟩ := kept
      exact follows_commit calls collects_all tallies (exact_now.perform collects_all _)
        (carriesOut_cancel (owned id rfl)) (perform_cancel (owned id rfl)) tallies.handles_perm
        tallies.releasing_eq rfl

theorem follows_cancel (kept : Kept storage dues world) {handle : Option TimerId}
    (owned : ∀ id, handle = some id → id ∈ world.rest.system.handles) :
    Follows storage (fun _ => dues) world
      (Told.cancel (serviceOf route told_call) handle)
      ((serviceOf route run_call).cancel handle) := by
  refine (follows_tryCancel calls collects_all kept owned).bind fun result later kept _ => ?_
  rcases result with error | pending
  · cases error with
    | invalidHandle => exact .pure false kept
    | _ => exact (Follows.report kept _).bind fun _ _ kept _ => .pure false kept
  · exact .pure pending kept

/-- A release takes the timer of a handle that is in the table no more. -/
theorem follows_release {id : TimerId}
    (kept : Kept storage { dues with loose := id :: dues.loose } world) :
    Follows storage (fun _ => dues) world (Told.release (serviceOf route told_call) id)
      ((serviceOf route run_call).release id) := by
  have owned : id ∈ world.rest.system.handles :=
    kept.tallies.handles_perm.mem_iff.mpr (List.mem_append_left _ List.mem_cons_self)
  have cancels : Follows storage (fun _ => { dues with releasing := id :: dues.releasing }) world
      (Told.commit (serviceOf route told_call) (.release id) (·.cancel id))
      ((serviceOf route run_call).commit (·.cancel id)) := by
    obtain ⟨tallies, exact_now⟩ := kept
    have without := tallies.handles_perm.erase id
    rw [List.cons_append, List.erase_cons_head] at without
    exact follows_commit calls collects_all tallies (exact_now.perform collects_all _)
      (carriesOut_release owned) (perform_release owned) without
      (congrArg _ tallies.releasing_eq) rfl
  have frees : ∀ later : Told κ ω,
      Kept storage { dues with releasing := id :: dues.releasing } later →
      Follows storage (fun _ => dues) later
        (Told.commit (serviceOf route told_call) (.free id) (·.free id))
        ((serviceOf route run_call).commit (·.free id)) := by
    rintro later ⟨tallies, exact_now⟩
    have given_up : id ∈ later.rest.system.releasing := by
      rw [tallies.releasing_eq]
      exact List.mem_cons_self
    have without : later.rest.system.releasing.erase id = dues.releasing := by
      rw [tallies.releasing_eq]
      exact List.erase_cons_head ..
    exact follows_commit calls collects_all tallies (exact_now.perform collects_all _)
      (carriesOut_free given_up) (perform_free given_up) tallies.handles_perm without rfl
  refine cancels.bind fun result later kept _ => ?_
  rcases result with error | pending
  · cases error with
    | invalidHandle => exact frees later kept
    | _ => exact (Follows.report kept _).bind fun _ later kept _ => frees later kept
  · exact frees later kept

theorem follows_reset (kept : Kept storage dues world) {place : Nat} {handle : Option TimerId}
    (found : world.component.handles[place]? = some handle) :
    Follows storage (fun _ => dues) world (Told.reset (serviceOf route told_call) place handle)
      (reset (serviceOf route run_call) place handle) := by
  cases handle with
  | none => exact .pure _ kept
  | some id =>
      have releases : Follows storage (fun _ => dues) _
          (Told.release (serviceOf route told_call) id) ((serviceOf route run_call).release id) :=
        follows_release calls collects_all (kept.emptied found)
      exact (releases.bind fun _ _ kept _ => .pure (TimerAnswer.released true) kept).of_step
        rfl rfl rfl

/-! ## Uses of the manager -/

theorem balanced_perform (budget : Nat) {call : TimerCall κ} (still : call.Still) :
    Balanced storage (Told.perform (serviceOf route told_call) budget call)
      (perform (serviceOf route run_call) budget call) := by
  intro dues world kept
  cases call with
  | allocate =>
      exact (follows_allocate calls collects_all kept).bind fun _ _ kept _ => follows_keep kept
  | tryAllocate =>
      refine (follows_tryAllocate calls collects_all kept).bind fun result later kept _ => ?_
      rcases result with error | id
      · exact .pure _ kept
      · exact follows_keep kept
  | schedule place mode delay footprint callback =>
      exact follows_onHandle kept place fun handle found =>
        (follows_schedule calls collects_all kept (kept.owned found) mode delay footprint
          callback).bind fun _ _ kept _ => .pure _ kept
  | cancel place =>
      exact follows_onHandle kept place fun handle found =>
        (follows_cancel calls collects_all kept (kept.owned found)).bind
          fun _ _ kept _ => .pure _ kept
  | tryCancel place =>
      exact follows_onHandle kept place fun handle found =>
        (follows_tryCancel calls collects_all kept (kept.owned found)).bind
          fun _ _ kept _ => .pure _ kept
  | reset place =>
      exact follows_onHandle kept place fun handle found =>
        follows_reset calls collects_all kept found
  | expire =>
      exact (balanced_expire calls collects_all dues world kept).bind
        fun _ _ kept _ => .pure _ kept
  | advance ticks => cases still

end

end TimerUse

end Reactor
