import Reactor.Proofs.Timer.Tally

/-!
# Sessions of tasks

A session over a simulated timer goes on alike with an account and without one, and the account
stays true.  So every timer fires when it is due and at no other time, and what fires is handed to
the dispatcher at once.
-/

namespace Reactor

namespace TimerUse

open Host TimerManager TimerSystem

variable {κ ω : Type} {storage : TimerStorage} {dues : Dues κ} {world next : Told κ ω}

/-! ## Callbacks that waited -/

section

variable {told_deliver : Expiry κ → Exec (Told κ ω) Unit}
  {run_deliver : Expiry κ → Exec (World κ ω) Unit}
  (delivers : ∀ expiry, Balanced storage (told_deliver expiry) (run_deliver expiry))

include delivers

theorem balanced_pump (order : PumpOrder) (budget : Nat) (limit : Option Nat) :
    Balanced storage (Dispatcher.pump backlogPart told_deliver order budget limit)
      (Dispatcher.pump backlogPart run_deliver order budget limit) := by
  induction budget generalizing limit with
  | zero => exact .halt _
  | succ budget induction =>
      by_cases spent : limit = some 0
      · rw [spent]
        exact .pure 0
      · rw [Dispatcher.pump, Dispatcher.pump]
        · intro dues world kept
          have reads : Follows storage (fun _ => dues) world backlogPart.read backlogPart.read :=
            .of_ok rfl rfl rfl kept
          refine reads.bind fun list later kept _ => ?_
          rcases Dispatcher.next? order list with _ | ⟨expiry, rest⟩
          · exact .pure 0 kept
          · have writes : Follows storage (fun _ => dues) later (backlogPart.write rest)
                (backlogPart.write rest) := .of_ok rfl rfl rfl (kept.congr rfl rfl rfl)
            refine writes.bind fun _ later kept _ => ?_
            exact ((delivers expiry).bind fun _ =>
              (induction _).bind fun count => .pure (count + 1)) dues later kept
        all_goals exact spent

theorem balanced_drain (budget : Nat) :
    Balanced storage (InterruptQueue.drain interruptsPart told_deliver budget)
      (InterruptQueue.drain interruptsPart run_deliver budget) := by
  induction budget with
  | zero => exact .halt _
  | succ budget induction =>
      rw [InterruptQueue.drain, InterruptQueue.drain]
      intro dues world kept
      have reads : Follows storage (fun _ => dues) world interruptsPart.read interruptsPart.read :=
        .of_ok rfl rfl rfl kept
      refine reads.bind fun queue later kept _ => ?_
      rcases queue.pop? with _ | ⟨expiry, rest⟩
      · exact .pure 0 kept
      · have writes : Follows storage (fun _ => dues) later (interruptsPart.write rest)
            (interruptsPart.write rest) := .of_ok rfl rfl rfl (kept.congr rfl rfl rfl)
        refine writes.bind fun _ later kept _ => ?_
        exact ((delivers expiry).bind fun _ =>
          induction.bind fun count => .pure (count + 1)) dues later kept

theorem balanced_work (route : Route) (order : PumpOrder) (budget : Nat) (limit : Option Nat) :
    Balanced storage ((dispatcher route).work told_deliver order budget limit)
      ((dispatcher route).work run_deliver order budget limit) := by
  cases route with
  | inline | deferred => exact balanced_pump delivers order budget limit
  | interrupt => exact balanced_drain delivers budget

end

/-! ## Tasks -/

section

variable {route : Route} {told_call : κ → Exec (Told κ ω) Unit}
  {run_call : κ → Exec (World κ ω) Unit}
  (calls : ∀ callback, Balanced storage (told_call callback) (run_call callback))
  (collects_all : storage.CollectsAll)

include calls collects_all

theorem balanced_carryOut (route : Route) (budget : Nat) (task : TimerTask κ ω) :
    Balanced storage (task.carryOut (Told.means (serviceOf route told_call) route budget))
      (task.carryOut (means route budget (serviceOf route run_call))) := by
  induction task with
  | done => exact .pure ()
  | use call still next induction =>
      exact (balanced_perform calls collects_all budget still).bind induction
  | work order limit next induction =>
      exact (balanced_work (balanced_deliver calls) route order budget limit).bind induction
  | look next induction =>
      intro dues world kept
      exact (induction (forget world) dues world kept).of_step rfl rfl rfl
  | change rest next induction =>
      intro dues world kept
      have changed : Kept storage dues { world with rest := { world.rest with rest } } :=
        kept.congr rfl rfl rfl
      exact (induction dues _ changed).of_step rfl rfl rfl
  | panic message => exact .halt _

end

theorem nested_eq_serviceOf (route : Route)
    (body : TimerService (World κ ω) SimulatedTimer κ → κ → Exec (World κ ω) Unit) (depth : Nat) :
    nested route body depth = serviceOf route (nested route body depth).call := by
  cases depth <;> rfl

theorem balanced_tasked (collects_all : storage.CollectsAll) (route : Route) (budget : Nat)
    (body : κ → TimerTask κ ω) (depth : Nat) (callback : κ) :
    Balanced storage ((toldTasked route budget body depth).call callback)
      ((tasked route budget body depth).call callback) := by
  induction depth generalizing callback with
  | zero => exact .halt _
  | succ depth induction =>
      have carries := balanced_carryOut induction collects_all route budget (body callback)
      rw [toldTasked, tasked, ← nested_eq_serviceOf, ← nested_eq_serviceOf] at carries
      intro dues world kept
      exact (Follows.play kept callback).bind fun _ later kept _ => carries dues later kept

/-! ## The clock -/

/-- A turn that moves the clock by some ticks, unless it halts on the way, does what it does without
an account and keeps the account true. -/
structure Passes (storage : TimerStorage) (dues : Dues κ) (ticks : Nat) (world : Told κ ω)
    (told : Exec (Told κ ω) Unit) (run : Exec (World κ ω) Unit) : Prop where
  same : run.runFrom (forget world) = ((told.runFrom world).1, forget (told.runFrom world).2)
  kept : ∃ left, Kept storage left (told.runFrom world).2 ∧
    ((told.runFrom world).1 = .ok () → left = dues ∧
      (told.runFrom world).2.rest.system.time = world.rest.system.time + ticks)

theorem Follows.passes {told : Exec (Told κ ω) Unit} {run : Exec (World κ ω) Unit}
    (follows : Follows storage (fun _ => dues) world told run) :
    Passes storage dues 0 world told run where
  same := follows.same
  kept := by
    obtain ⟨left, kept, settled⟩ := follows.kept
    exact ⟨left, kept, fun came => ⟨settled () came, follows.time_eq⟩⟩

/-- A run that takes no time, and then a turn. -/
theorem Follows.then_passes {told told_rest : Exec (Told κ ω) Unit}
    {run run_rest : Exec (World κ ω) Unit} {ticks : Nat}
    (first : Follows storage (fun _ => dues) world told run)
    (rest : ∀ later, Kept storage dues later →
      Passes storage dues ticks later told_rest run_rest) :
    Passes storage dues ticks world
      (do
        told
        told_rest)
      (do
        run
        run_rest) := by
  obtain ⟨same, time_eq, left, kept, settled⟩ := first
  rcases result : told.runFrom world with ⟨halt | ⟨⟨⟩⟩, later⟩
  all_goals rw [result] at same time_eq kept settled
  · constructor
    · rw [Exec.runFrom_bind, Exec.runFrom_bind, same, result]
    · rw [Exec.runFrom_bind, result]
      exact ⟨left, kept, nofun⟩
  · obtain rfl := settled () rfl
    obtain ⟨rest_same, rest_kept⟩ := rest later kept
    rw [time_eq] at rest_kept
    constructor
    · rw [Exec.runFrom_bind, Exec.runFrom_bind, same, result]
      exact rest_same
    · rw [Exec.runFrom_bind, result]
      exact rest_kept

/-- A turn that goes on from another world after some of its ticks. -/
theorem Passes.of_step {told told_start : Exec (Told κ ω) Unit}
    {run run_start : Exec (World κ ω) Unit} {left ticks : Nat}
    (passes : Passes storage dues left next told run)
    (told_step : told_start.runFrom world = told.runFrom next)
    (run_step : run_start.runFrom (forget world) = run.runFrom (forget next))
    (time_eq : next.rest.system.time + left = world.rest.system.time + ticks) :
    Passes storage dues ticks world told_start run_start where
  same := by rw [told_step, run_step, passes.same]
  kept := by
    rw [told_step, ← time_eq]
    exact passes.kept

/-- The world after its clock has moved. -/
def elapsed (moved : SimulatedTimer) (ticks : Nat) (world : Told κ ω) : Told κ ω :=
  retell (·.elapse moved ticks) (clockPart.set moved world)

theorem Tallies.elapsed (tallies : Tallies dues world) (moved : SimulatedTimer) (ticks : Nat) :
    Tallies dues (elapsed moved ticks world) where
  manager_eq := congrArg (fun manager : TimerManager SimulatedTimer κ =>
    { manager with hardware := moved }) tallies.manager_eq
  handles_perm := tallies.handles_perm
  releasing_eq := tallies.releasing_eq
  collected_eq := tallies.collected_eq
  handed_eq := tallies.handed_eq
  booked := tallies.booked

theorem runFrom_advance_of_done (service : TimerService (Told κ ω) SimulatedTimer κ) (budget : Nat)
    {ticks : Ticks} {moved : SimulatedTimer}
    (passed : world.component.manager.hardware.pass ticks = .done moved) :
    (Told.advance service (budget + 1) ticks).runFrom world =
      (.ok (), elapsed moved ticks.count world) := by
  have hardware : clockPart.get world = world.component.manager.hardware := rfl
  rw [Told.advance, Exec.runFrom_bind, Part.runFrom_read]
  simp only [hardware, passed]
  rfl

theorem runFrom_advance_of_expiry (service : TimerService (Told κ ω) SimulatedTimer κ)
    (budget : Nat) {ticks left : Ticks} {moved : SimulatedTimer}
    (passed : world.component.manager.hardware.pass ticks = .expiry moved left) :
    (Told.advance service (budget + 1) ticks).runFrom world =
      ((do
        Told.expire service
        Told.advance service budget left) : Exec (Told κ ω) Unit).runFrom
          (elapsed moved (ticks.count - left.count) world) := by
  have hardware : clockPart.get world = world.component.manager.hardware := rfl
  rw [Told.advance, Exec.runFrom_bind, Part.runFrom_read]
  simp only [hardware, passed]
  rfl

section

variable {route : Route} {told_call : κ → Exec (Told κ ω) Unit}
  {run_call : κ → Exec (World κ ω) Unit}
  (calls : ∀ callback, Balanced storage (told_call callback) (run_call callback))
  (collects_all : storage.CollectsAll)

include calls collects_all

theorem passes_advance (kept : Kept storage dues world) (budget : Nat) (ticks : Ticks) :
    Passes storage dues ticks.count world (Told.advance (serviceOf route told_call) budget ticks)
      (SimulatedTimer.advance clockPart (serviceOf route run_call).expire budget ticks) := by
  induction budget generalizing world ticks with
  | zero => exact ⟨rfl, dues, kept, nofun⟩
  | succ budget induction =>
      obtain ⟨tallies, exact_now⟩ := kept
      have run := SimulatedTimer.runFrom_advance_succ clockPart (serviceOf route run_call).expire
        budget ticks (forget world)
      have hardware : clockPart.get (forget world) = world.component.manager.hardware := rfl
      cases passed : world.component.manager.hardware.pass ticks with
      | done moved =>
          simp only [hardware, passed] at run
          have told := runFrom_advance_of_done (serviceOf route told_call) budget passed
          rw [← tallies.manager_eq] at passed
          refine ⟨by rw [run, told]; rfl, ?_⟩
          rw [told]
          exact ⟨dues, ⟨tallies.elapsed moved ticks.count, exact_now.elapse passed⟩,
            fun _ => ⟨rfl, rfl⟩⟩
      | expiry moved left =>
          simp only [hardware, passed] at run
          have told := runFrom_advance_of_expiry (serviceOf route told_call) budget passed
          obtain ⟨_, _, _, _, rest⟩ := SimulatedTimer.of_pass_expiry passed
          rw [← tallies.manager_eq] at passed
          have moved_tallies := tallies.elapsed moved (ticks.count - left.count)
          have expires : Follows storage (fun _ => dues) _ (Told.expire (serviceOf route told_call))
              (serviceOf route run_call).expire :=
            follows_commit calls collects_all moved_tallies
              (exact_now.expire collects_all passed) (carriesOut_expire _) rfl
              moved_tallies.handles_perm moved_tallies.releasing_eq rfl
          refine (expires.then_passes fun later kept => induction kept left).of_step told ?_ ?_
          · have moved_on : forget (elapsed moved (ticks.count - left.count) world) =
                clockPart.set moved (forget world) := rfl
            rw [run, Exec.runFrom_bind, moved_on]
            rcases (serviceOf route run_call).expire.runFrom _ with ⟨halt | ⟨⟨⟩⟩, after⟩ <;> rfl
          · have enough : left.count ≤ ticks.count := rest ▸ Nat.sub_le _ _
            have time_eq : (elapsed moved (ticks.count - left.count) world).rest.system.time =
                world.rest.system.time + (ticks.count - left.count) := rfl
            omega

theorem passes_takeTurn (kept : Kept storage dues world) (budget : Nat) (turn : TimerTurn κ ω) :
    Passes storage dues turn.ticks world
      (Told.takeTurn (serviceOf route told_call) route budget turn)
      (takeTurn route budget (serviceOf route run_call) turn) := by
  cases turn with
  | task task =>
      exact (balanced_carryOut calls collects_all route budget task dues world kept).passes
  | advance ticks => exact passes_advance calls collects_all kept budget ticks

/-! ## Sessions -/

theorem passes_session (kept : Kept storage dues world) (budget : Nat)
    (turns : List (TimerTurn κ ω)) {outcomes : List (Except Halt Unit)} {last : Told κ ω}
    (told : session (Told.takeTurn (serviceOf route told_call) route budget) turns world =
      (outcomes, last)) :
    session (takeTurn route budget (serviceOf route run_call)) turns (forget world) =
        (outcomes, forget last) ∧
      ∃ left, Kept storage left last ∧ ((∀ outcome ∈ outcomes, outcome = .ok ()) →
        left = dues ∧ last.rest.system.time =
          world.rest.system.time + (turns.map TimerTurn.ticks).sum) := by
  induction turns generalizing dues world outcomes with
  | nil =>
      cases told
      exact ⟨rfl, dues, kept, fun _ => ⟨rfl, rfl⟩⟩
  | cons turn turns induction =>
      obtain ⟨same, left, kept, settled⟩ := passes_takeTurn calls collects_all kept budget turn
      rw [session] at told
      rcases first : (Told.takeTurn (serviceOf route told_call) route budget turn).runFrom world
        with ⟨outcome, later⟩
      rw [first] at same told kept settled
      rcases rest : session (Told.takeTurn (serviceOf route told_call) route budget) turns later
        with ⟨further, final⟩
      simp only [rest, Prod.mk.injEq] at told
      obtain ⟨rfl, rfl⟩ := told
      obtain ⟨same_rest, last_left, last_kept, last_settled⟩ := induction kept rest
      refine ⟨by rw [session, same]; simp only [same_rest], last_left, last_kept, fun came => ?_⟩
      rw [List.forall_mem_cons] at came
      obtain ⟨rfl, now⟩ := settled came.1
      obtain ⟨rfl, later_time⟩ := last_settled came.2
      rw [later_time, now, List.map_cons, List.sum_cons, Nat.add_assoc]
      exact ⟨rfl, rfl⟩

end

theorem kept_opening (resolution : Duration) (storage : TimerStorage) (rest : ω) :
    Kept storage {} (opening resolution storage rest : Told κ ω) where
  tallies := ⟨rfl, .nil, rfl, rfl, rfl, .nil⟩
  exact_now := exact_fresh resolution storage

/-- Users and callbacks do what they like with a manager over a simulated timer that nobody else
arms, the callbacks all but move its clock.  A session goes on as it does with an account of it,
which says what happened and when, in ticks that the clock has moved.  By this account every schedule
is collected exactly when it is due, for as long as it is in force: up to now if it still is, and up
to its end if it is not.  Nothing is collected for a schedule that is not in force.  Each collected
callback is handed to the dispatcher once, at the same time; only a turn that halts leaves some of
them behind.  A turn halts if something panics, or if callbacks set each other off deeper than
`depth` or a loop goes on for longer than `budget`. -/
theorem collections_eq_dueTimes (route : Route) (budget depth : Nat) (body : κ → TimerTask κ ω)
    (resolution : Duration) (storage : TimerStorage) (collects_all : storage.CollectsAll) (rest : ω)
    (turns : List (TimerTurn κ ω)) (outcomes : List (Except Halt Unit)) (last : Told κ ω)
    (system : TimerSystem SimulatedTimer κ) (handed : List (Nat × Expiry κ))
    (told : session (Told.takeTurn (toldTasked route budget body depth) route budget) turns
      (opening resolution storage rest) = (outcomes, last))
    (account : last.rest.system = system ∧ last.rest.handed = handed) :
    session (takeTurn route budget (tasked route budget body depth)) turns
        { component := { manager := .new { resolution } storage }, rest } =
      (outcomes, forget last) ∧
    system.manager = last.component.manager ∧
    (∀ before start id mode ticks serial callback reign,
      system.history = before ++ ⟨start, .scheduled id mode ticks serial callback⟩ :: reign →
      (∀ entry ∈ reign, entry.retires id = false) →
      collections id reign = dueTimes mode start ticks.count system.time) ∧
    (∀ before start id mode ticks serial callback reign ending after,
      system.history = before ++
        ⟨start, .scheduled id mode ticks serial callback⟩ :: (reign ++ ending :: after) →
      (∀ entry ∈ reign, entry.retires id = false) → ending.retires id = true →
      collections id reign = dueTimes mode start ticks.count ending.time) ∧
    (∀ before entry expiry after, system.history = before ++ entry :: after →
      entry.event = .collected expiry → InForce before expiry) ∧
    handed = system.history.filterMap Entry.handedOver? ∧
    (∃ lost, (system.history.filterMap Entry.collected?).Perm (handed ++ lost)) ∧
    (system.history.map Entry.time).Pairwise (· ≤ ·) ∧
    ((∀ outcome ∈ outcomes, outcome = .ok ()) →
      (system.history.filterMap Entry.collected?).Perm handed ∧
      system.time = (turns.map TimerTurn.ticks).sum) := by
  obtain ⟨rfl, rfl⟩ := account
  have calls := balanced_tasked collects_all route budget body depth
  rw [toldTasked, nested_eq_serviceOf] at told
  obtain ⟨same, left, ⟨tallies, exact_now⟩, settled⟩ :=
    passes_session calls collects_all (kept_opening resolution storage rest) budget turns told
  rw [tasked, ← nested_eq_serviceOf, ← tasked] at same
  refine ⟨same, tallies.manager_eq, ?_, ?_, ?_, tallies.handed_eq, ⟨left.pending, tallies.booked⟩,
    exact_now.sorted.1, fun came => ?_⟩
  · intro before start id mode ticks serial callback reign split_at quiet
    exact exact_now.collections_eq split_at quiet
  · intro before start id mode ticks serial callback reign ending after split_at quiet retires
    exact exact_now.collections_eq_of_ended split_at quiet retires
  · intro before entry expiry after split_at collected
    exact exact_now.punctual.collects before entry after split_at expiry collected
  · obtain ⟨rfl, time_eq⟩ := settled came
    have booked := tallies.booked
    rw [List.append_nil] at booked
    exact ⟨booked, time_eq.trans (Nat.zero_add _)⟩

/-- The second callback schedules the timer of the first anew. -/
def renewing : Nat → TimerTask Nat Unit
  | 2 => .use (.schedule 0 .oneshot (.ofMicros 15) { bytes := 8 } 1) trivial fun _ => .done
  | _ => .done

/-- A one-shot and a periodic timer share the hardware, and the clock moves far in one turn. -/
def renewedTurns : List (TimerTurn Nat Unit) :=
  [.task <| .use .allocate trivial fun _ => .use .allocate trivial fun _ =>
      .use (.schedule 0 .oneshot (.ofMicros 30) { bytes := 8 } 1) trivial fun _ =>
      .use (.schedule 1 .periodic (.ofMicros 20) { bytes := 8 } 2) trivial fun _ => .done,
    .advance (.clamp 50)]

/-- The session with an account of it. -/
def renewedSession : List (Except Halt Unit) × Told Nat Unit :=
  session (Told.takeTurn (toldTasked .inline 9 renewing 2) .inline 9) renewedTurns
    (opening .microsecond .growing ())

/-- The periodic timer fires at both of its due times, though its callback puts off the one-shot,
which fires in between. -/
theorem shared_timers_fire_when_due :
    TimerStorage.growing.CollectsAll ∧
    session (takeTurn .inline 9 (tasked .inline 9 renewing 2)) renewedTurns
        { component := { manager := .new { resolution := .microsecond } .growing }, rest := () } =
      (renewedSession.1, forget renewedSession.2) ∧
    renewedSession.1 = [.ok (), .ok ()] ∧
    renewedSession.2.rest.handed = [(20, ⟨⟨1⟩, 1, 2⟩), (35, ⟨⟨0⟩, 2, 1⟩), (40, ⟨⟨1⟩, 1, 2⟩)] ∧
    ∃ before reign, renewedSession.2.rest.system.history =
        before ++ ⟨0, .scheduled ⟨1⟩ .periodic (.clamp 20) 1 2⟩ :: reign ∧
      collections ⟨1⟩ reign = [20, 40] := by
  have ends : renewedSession.1 = [.ok (), .ok ()] := by decide +kernel
  have handed : renewedSession.2.rest.handed =
      [(20, ⟨⟨1⟩, 1, 2⟩), (35, ⟨⟨0⟩, 2, 1⟩), (40, ⟨⟨1⟩, 1, 2⟩)] := by decide +kernel
  have time : renewedSession.2.rest.system.time = 50 := by decide +kernel
  have split_at : renewedSession.2.rest.system.history =
      renewedSession.2.rest.system.history.take 3 ++
        ⟨0, .scheduled ⟨1⟩ .periodic (.clamp 20) 1 2⟩ ::
          renewedSession.2.rest.system.history.drop 4 := by decide +kernel
  have quiet : ∀ entry ∈ renewedSession.2.rest.system.history.drop 4,
      entry.retires ⟨1⟩ = false := by decide +kernel
  obtain ⟨same, _, in_force, _⟩ := collections_eq_dueTimes .inline 9 2 renewing .microsecond
    .growing TimerStorage.collectsAll_growing () renewedTurns renewedSession.1 renewedSession.2 _ _
    rfl ⟨rfl, rfl⟩
  refine ⟨TimerStorage.collectsAll_growing, same, ends, handed, _, _, split_at, ?_⟩
  have collected : collections ⟨1⟩ _ = _ := in_force _ _ _ _ _ _ _ _ split_at quiet
  rw [collected, time]
  decide

end TimerUse

end Reactor
