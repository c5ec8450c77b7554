import Mathlib.Algebra.Ring.Nat
import Reactor.Hardware.Simulated
import Reactor.Proofs.Exec

/-!
# Moving the clock of a simulated timer

The ticks that pass carry a timer up to its next expiry, where a callback decides what the rest of
them counts towards.  An advance is described here by the moments at which the timer expires, with
no bound on their number.  Ticks that pass one after the other do what they do together, wherever
the expiries fall.
-/

namespace Reactor

theorem Ticks.count_add_of_lt {first second : Ticks}
    (fits : first.count + second.count < 1 <<< 64) :
    (first + second).count = first.count + second.count := by
  rw [count_add]
  omega

namespace SimulatedTimer

/-! ## Up to the next expiry -/

section

variable {timer moved : SimulatedTimer} {ticks left : Ticks}

/-- A timer that does not expire counts all ticks, if it counts at all. -/
theorem of_pass_done (passed : timer.pass ticks = .done moved) :
    (timer.phase = .armed ∧ moved.period = timer.period ∧ moved.phase = .armed ∧
      moved.elapsed.count = timer.elapsed.count + ticks.count ∧
      moved.elapsed.count < moved.period.count) ∨
    (timer.phase ≠ .armed ∧ moved = timer) := by
  simp only [pass] at passed
  split at passed
  · next armed =>
      split at passed
      · next short =>
          cases passed
          left
          rw [Ticks.lt_iff, Ticks.count_sub] at short
          have whole : (timer.elapsed + ticks).count = timer.elapsed.count + ticks.count := by
            have bound := timer.period.count_lt
            rw [Ticks.count_add]
            omega
          have under : (timer.elapsed + ticks).count < timer.period.count := by omega
          exact ⟨armed, rfl, armed, whole, under⟩
      · cases passed
  · next stopped =>
      cases passed
      exact Or.inr ⟨stopped, rfl⟩

/-- A timer that expires has counted up to its period. -/
theorem of_pass_expiry (passed : timer.pass ticks = .expiry moved left) :
    moved.period = timer.period ∧ moved.phase = .expired ∧ moved.elapsed = moved.period ∧
      timer.period.count - timer.elapsed.count ≤ ticks.count ∧
      left.count = ticks.count - (timer.period.count - timer.elapsed.count) := by
  simp only [pass] at passed
  split at passed
  · split at passed
    · cases passed
    · next enough =>
        cases passed
        rw [Ticks.lt_iff, Ticks.count_sub, Nat.not_lt] at enough
        refine ⟨rfl, rfl, rfl, enough, ?_⟩
        rw [Ticks.count_sub, Ticks.count_sub]
  · cases passed

theorem pass_of_not_armed (idle : timer.phase ≠ .armed) : timer.pass ticks = .done timer := by
  rw [pass, if_neg idle]

theorem pass_of_lt (armed : timer.phase = .armed)
    (short : timer.elapsed.count + ticks.count < timer.period.count) :
    timer.pass ticks = .done { timer with elapsed := timer.elapsed + ticks } := by
  have less : ticks < timer.period - timer.elapsed := by
    rw [Ticks.lt_iff, Ticks.count_sub]
    omega
  rw [pass, if_pos armed, if_pos less]

theorem pass_of_le (armed : timer.phase = .armed)
    (enough : timer.period.count ≤ timer.elapsed.count + ticks.count) :
    timer.pass ticks = .expiry { timer with elapsed := timer.period, phase := .expired }
      (ticks - (timer.period - timer.elapsed)) := by
  have reached : ¬ticks < timer.period - timer.elapsed := by
    rw [Ticks.lt_iff, Ticks.count_sub]
    omega
  rw [pass, if_pos armed, if_neg reached]

/-- Ticks pass one after the other as they pass together: further ticks go on from where the first
ones lead, or are left over with them. -/
theorem pass_add {first second : Ticks} (fits : first.count + second.count < 1 <<< 64) :
    timer.pass (first + second) =
      match timer.pass first with
      | .done moved => moved.pass second
      | .expiry moved left => .expiry moved (left + second) := by
  have total := Ticks.count_add_of_lt fits
  have bound := timer.period.count_lt
  by_cases armed : timer.phase = .armed
  · by_cases short : timer.elapsed.count + first.count < timer.period.count
    · have counted : (timer.elapsed + first).count = timer.elapsed.count + first.count :=
        Ticks.count_add_of_lt (Nat.lt_trans short bound)
      rw [pass_of_lt armed short]
      change _ = pass { timer with elapsed := timer.elapsed + first } second
      by_cases still_short : timer.elapsed.count + (first + second).count < timer.period.count
      · have further : timer.elapsed + first + second = timer.elapsed + (first + second) := by
          have one_by_one : (timer.elapsed + first + second).count = _ :=
            Ticks.count_add_of_lt (by omega)
          have together : (timer.elapsed + (first + second)).count = _ :=
            Ticks.count_add_of_lt (by omega)
          apply Ticks.ext
          omega
        have less : (timer.elapsed + first).count + second.count < timer.period.count := by omega
        have goes_on : pass { timer with elapsed := timer.elapsed + first } second = _ :=
          pass_of_lt armed less
        rw [pass_of_lt armed still_short, goes_on, ← further]
      · have enough := Nat.le_of_not_lt still_short
        have left_over : first + second - (timer.period - timer.elapsed) =
            second - (timer.period - (timer.elapsed + first)) := by
          apply Ticks.ext
          simp only [Ticks.count_sub, counted, total]
          omega
        have reached : timer.period.count ≤ (timer.elapsed + first).count + second.count := by
          omega
        have goes_on : pass { timer with elapsed := timer.elapsed + first } second = _ :=
          pass_of_le armed reached
        rw [pass_of_le armed enough, goes_on, left_over]
    · have enough := Nat.le_of_not_lt short
      have left_over : first + second - (timer.period - timer.elapsed) =
          first - (timer.period - timer.elapsed) + second := by
        apply Ticks.ext
        rw [Ticks.count_add_of_lt (by simp only [Ticks.count_sub]; omega)]
        simp only [Ticks.count_sub, total]
        omega
      rw [pass_of_le armed enough, pass_of_le armed (by omega), left_over]
  · simp only [pass_of_not_armed armed]

end

/-! ## From expiry to expiry -/

section

variable {σ : Type} {timer : Part σ SimulatedTimer} {expired : Exec σ Unit} {world : σ}

/-- One round of the loop that moves a clock. -/
theorem runFrom_advance_succ (timer : Part σ SimulatedTimer)
    (expired : Exec σ Unit) (budget : Nat) (ticks : Ticks) (world : σ) :
    (advance timer expired (budget + 1) ticks).runFrom world =
      match (timer.get world).pass ticks with
      | .done moved => (.ok (), timer.set moved world)
      | .expiry moved left =>
          match expired.runFrom (timer.set moved world) with
          | (.ok (), later) => (advance timer expired budget left).runFrom later
          | (.error halt, later) => (.error halt, later) := by
  have unfolded : (advance timer expired (budget + 1) ticks).runFrom world =
      (match (timer.get world).pass ticks with
      | .done moved => timer.write moved
      | .expiry moved left => do
          timer.write moved
          expired
          advance timer expired budget left).runFrom world := rfl
  rw [unfolded]
  cases (timer.get world).pass ticks with
  | done moved => rfl
  | expiry moved left =>
      have written : (do
            timer.write moved
            expired
            advance timer expired budget left).runFrom world =
          (do
            expired
            advance timer expired budget left).runFrom (timer.set moved world) := rfl
      simp only [written]
      rcases ended : expired.runFrom (timer.set moved world) with ⟨_ | _, later⟩
      all_goals
        simp only [Exec.runFrom, ExceptT.run_bind, StateT.run_bind] at ended ⊢
        rw [ended]
        rfl

/-- `Advances timer expired world ticks moments ended` says that an advance by some ticks expires the
timer at some moments, one after the other, and then comes to its end. -/
inductive Advances (timer : Part σ SimulatedTimer) (expired : Exec σ Unit) :
    σ → Ticks → List σ → Except Halt Unit × σ → Prop where
  /-- The timer does not expire any more. -/
  | done {world : σ} {ticks : Ticks} {moved : SimulatedTimer}
      (passed : (timer.get world).pass ticks = .done moved) :
      Advances timer expired world ticks [] (.ok (), timer.set moved world)
  /-- The timer expires and the callback halts. -/
  | halted {world last : σ} {ticks left : Ticks} {moved : SimulatedTimer} {halt : Halt}
      (passed : (timer.get world).pass ticks = .expiry moved left)
      (ran : expired.runFrom (timer.set moved world) = (.error halt, last)) :
      Advances timer expired world ticks [timer.set moved world] (.error halt, last)
  /-- The timer expires, the callback runs, and the rest of the ticks pass. -/
  | expired {world middle : σ} {ticks left : Ticks} {moved : SimulatedTimer} {moments : List σ}
      {ended : Except Halt Unit × σ}
      (passed : (timer.get world).pass ticks = .expiry moved left)
      (ran : expired.runFrom (timer.set moved world) = (.ok (), middle))
      (rest : Advances timer expired middle left moments ended) :
      Advances timer expired world ticks (timer.set moved world :: moments) ended

variable {ticks first second left : Ticks} {moved : SimulatedTimer} {moments : List σ}
  {ended : Except Halt Unit × σ}

/-- The loop comes to the end of an advance if its budget exceeds the number of expiries. -/
theorem Advances.runFrom_advance (advances : Advances timer expired world ticks moments ended)
    {budget : Nat} (enough : moments.length < budget) :
    (advance timer expired budget ticks).runFrom world = ended := by
  induction advances generalizing budget with
  | done passed =>
      cases budget with
      | zero => omega
      | succ budget => rw [runFrom_advance_succ, passed]
  | halted passed ran =>
      cases budget with
      | zero => omega
      | succ budget => rw [runFrom_advance_succ, passed]; simp only [ran]
  | expired passed ran rest induction =>
      cases budget with
      | zero => omega
      | succ budget =>
          rw [runFrom_advance_succ, passed]
          simp only [ran]
          exact induction (by simpa using enough)

/-- What the loop comes to is the end of an advance, unless something was exhausted. -/
theorem advances_of_runFrom {budget : Nat}
    (ran : (advance timer expired budget ticks).runFrom world = ended)
    (unexhausted : ended.1 ≠ .error .exhausted) :
    ∃ moments, Advances timer expired world ticks moments ended := by
  induction budget generalizing world ticks with
  | zero =>
      subst ran
      exact absurd rfl unexhausted
  | succ budget induction =>
      rw [runFrom_advance_succ] at ran
      split at ran
      · next moved passed =>
          subst ran
          exact ⟨[], .done passed⟩
      · next moved left passed =>
          split at ran
          · next middle called =>
              obtain ⟨moments, rest⟩ := induction ran
              exact ⟨_, .expired passed called rest⟩
          · next halt last called =>
              subst ran
              exact ⟨_, .halted passed called⟩

/-- The loop comes to an answer within some budget just if the advance does. -/
theorem exists_runFrom_advance_iff {last : σ} :
    (∃ budget, (advance timer expired budget ticks).runFrom world = (.ok (), last)) ↔
      ∃ moments, Advances timer expired world ticks moments (.ok (), last) := by
  constructor
  · rintro ⟨budget, ran⟩
    exact advances_of_runFrom ran nofun
  · rintro ⟨moments, advances⟩
    exact ⟨_, advances.runFrom_advance (Nat.lt_succ_self _)⟩

theorem advances_of_done (passed : (timer.get world).pass ticks = .done moved) :
    Advances timer expired world ticks moments ended ↔
      moments = [] ∧ ended = (.ok (), timer.set moved world) := by
  constructor
  · intro advances
    cases advances with
    | done same =>
        rw [passed] at same
        cases same
        exact ⟨rfl, rfl⟩
    | halted expires | expired expires =>
        rw [passed] at expires
        cases expires
  · rintro ⟨rfl, rfl⟩
    exact .done passed

/-- An advance on which the timer expires goes on from what the callback leaves. -/
theorem advances_of_expiry (passed : (timer.get world).pass ticks = .expiry moved left) :
    Advances timer expired world ticks moments ended ↔
      ∃ later, moments = timer.set moved world :: later ∧
        ((∃ halt last, expired.runFrom (timer.set moved world) = (.error halt, last) ∧
            later = [] ∧ ended = (.error halt, last)) ∨
          ∃ middle, expired.runFrom (timer.set moved world) = (.ok (), middle) ∧
            Advances timer expired middle left later ended) := by
  constructor
  · intro advances
    cases advances with
    | done ends =>
        rw [passed] at ends
        cases ends
    | halted same ran =>
        rw [passed] at same
        cases same
        exact ⟨[], rfl, Or.inl ⟨_, _, ran, rfl, rfl⟩⟩
    | expired same ran rest =>
        rw [passed] at same
        cases same
        exact ⟨_, rfl, Or.inr ⟨_, ran, rest⟩⟩
  · rintro ⟨later, rfl, ⟨halt, last, ran, rfl, rfl⟩ | ⟨middle, ran, rest⟩⟩
    · exact .halted passed ran
    · exact .expired passed ran rest

/-! ## One advance after the other -/

/-- Several advances, one after the other, up to the first that halts. -/
inductive AdvancesInTurn (timer : Part σ SimulatedTimer) (expired : Exec σ Unit) :
    σ → List Ticks → List σ → Except Halt Unit × σ → Prop where
  /-- Nothing is left to do. -/
  | nil (world : σ) : AdvancesInTurn timer expired world [] [] (.ok (), world)
  /-- The first advance halts. -/
  | halted {world last : σ} {first : Ticks} {later : List Ticks} {moments : List σ} {halt : Halt}
      (advances : Advances timer expired world first moments (.error halt, last)) :
      AdvancesInTurn timer expired world (first :: later) moments (.error halt, last)
  /-- The first advance comes to its end, and the others follow. -/
  | cons {world middle : σ} {first : Ticks} {later : List Ticks} {moments after : List σ}
      {ended : Except Halt Unit × σ}
      (advances : Advances timer expired world first moments (.ok (), middle))
      (rest : AdvancesInTurn timer expired middle later after ended) :
      AdvancesInTurn timer expired world (first :: later) (moments ++ after) ended

variable {spans later : List Ticks}

theorem advancesInTurn_singleton : AdvancesInTurn timer expired world [ticks] moments ended ↔
    Advances timer expired world ticks moments ended := by
  constructor
  · intro in_turn
    cases in_turn with
    | halted advances => exact advances
    | cons advances rest =>
        cases rest
        rwa [List.append_nil]
  · intro advances
    rcases ended with ⟨_ | _, last⟩
    · exact .halted advances
    · rw [← List.append_nil moments]
      exact .cons advances (.nil last)

/-- What an advance by the first of several spans leaves decides how they pass. -/
theorem advancesInTurn_cons_of_done
    (passed : (timer.get world).pass first = .done moved) :
    AdvancesInTurn timer expired world (first :: later) moments ended ↔
      AdvancesInTurn timer expired (timer.set moved world) later moments ended := by
  constructor
  · intro in_turn
    cases in_turn with
    | halted advances =>
        obtain ⟨_, same⟩ := (advances_of_done passed).mp advances
        cases same
    | cons advances rest =>
        obtain ⟨rfl, same⟩ := (advances_of_done passed).mp advances
        cases same
        exact rest
  · exact fun rest => .cons (.done passed) rest

theorem advancesInTurn_cons_of_expiry
    (passed : (timer.get world).pass first = .expiry moved left) :
    AdvancesInTurn timer expired world (first :: later) moments ended ↔
      ∃ after, moments = timer.set moved world :: after ∧
        ((∃ halt last, expired.runFrom (timer.set moved world) = (.error halt, last) ∧
            after = [] ∧ ended = (.error halt, last)) ∨
          ∃ middle, expired.runFrom (timer.set moved world) = (.ok (), middle) ∧
            AdvancesInTurn timer expired middle (left :: later) after ended) := by
  constructor
  · intro in_turn
    cases in_turn with
    | halted advances =>
        obtain ⟨after, rfl, ⟨halt, last, ran, rfl, same⟩ | ⟨middle, ran, rest⟩⟩ :=
          (advances_of_expiry passed).mp advances
        · exact ⟨[], rfl, Or.inl ⟨halt, last, ran, rfl, same⟩⟩
        · exact ⟨after, rfl, Or.inr ⟨middle, ran, .halted rest⟩⟩
    | cons advances rest =>
        obtain ⟨after, rfl, ⟨halt, last, _, _, same⟩ | ⟨middle, ran, goes_on⟩⟩ :=
          (advances_of_expiry passed).mp advances
        · cases same
        · exact ⟨_, rfl, Or.inr ⟨middle, ran, .cons goes_on rest⟩⟩
  · rintro ⟨after, rfl, ⟨halt, last, ran, rfl, rfl⟩ | ⟨middle, ran, rest⟩⟩
    · exact .halted (.halted passed ran)
    · cases rest with
      | halted advances => exact .halted (.expired passed ran advances)
      | cons advances rest => exact .cons (.expired passed ran advances) rest

/-- An advance by a sum is an advance by its first part and then by the second. -/
theorem advances_add_iff (lawful : timer.Lawful) {world : σ} {first second : Ticks}
    {moments : List σ} {ended : Except Halt Unit × σ}
    (fits : first.count + second.count < 1 <<< 64) :
    Advances timer expired world (first + second) moments ended ↔
      AdvancesInTurn timer expired world [first, second] moments ended := by
  have together := @pass_add (timer.get world) first second fits
  cases passed : (timer.get world).pass first with
  | done moved =>
      simp only [passed] at together
      rw [advancesInTurn_cons_of_done passed, advancesInTurn_singleton]
      cases goes_on : moved.pass second with
      | done last =>
          rw [goes_on] at together
          rw [advances_of_done together, advances_of_done (by rwa [lawful.get_set]),
            lawful.set_set]
      | expiry last left =>
          rw [goes_on] at together
          rw [advances_of_expiry together, advances_of_expiry (by rwa [lawful.get_set]),
            lawful.set_set]
  | expiry moved left =>
      simp only [passed] at together
      obtain ⟨_, _, _, _, rest⟩ := of_pass_expiry passed
      -- After the first expiry there are fewer to come, on either side.
      have rest_iff : ∀ later, moments = timer.set moved world :: later → ∀ middle,
          (Advances timer expired middle (left + second) later ended ↔
            AdvancesInTurn timer expired middle [left, second] later ended) :=
        fun later shorter middle => advances_add_iff lawful (by omega)
      rw [advances_of_expiry together, advancesInTurn_cons_of_expiry passed]
      constructor
      · rintro ⟨later, split_at, halts | ⟨middle, ran, goes_on⟩⟩
        · exact ⟨later, split_at, Or.inl halts⟩
        · exact ⟨later, split_at,
            Or.inr ⟨middle, ran, (rest_iff later split_at middle).mp goes_on⟩⟩
      · rintro ⟨later, split_at, halts | ⟨middle, ran, goes_on⟩⟩
        · exact ⟨later, split_at, Or.inl halts⟩
        · exact ⟨later, split_at,
            Or.inr ⟨middle, ran, (rest_iff later split_at middle).mpr goes_on⟩⟩
termination_by moments.length
decreasing_by
  rw [shorter, List.length_cons]
  omega

theorem advancesInTurn_cons_congr {others : List Ticks}
    (same : ∀ middle after, AdvancesInTurn timer expired middle later after ended ↔
      AdvancesInTurn timer expired middle others after ended) :
    AdvancesInTurn timer expired world (first :: later) moments ended ↔
      AdvancesInTurn timer expired world (first :: others) moments ended := by
  constructor
  · intro in_turn
    cases in_turn with
    | halted advances => exact .halted advances
    | cons advances rest => exact .cons advances ((same _ _).mp rest)
  · intro in_turn
    cases in_turn with
    | halted advances => exact .halted advances
    | cons advances rest => exact .cons advances ((same _ _).mpr rest)

/-- An advance by a sum is an advance by each of its parts in turn. -/
theorem advances_iff_inTurn (lawful : timer.Lawful) (some_span : spans ≠ [])
    (total : ticks.count = (spans.map Ticks.count).sum) :
    Advances timer expired world ticks moments ended ↔
      AdvancesInTurn timer expired world spans moments ended := by
  induction spans generalizing world ticks moments with
  | nil => exact absurd rfl some_span
  | cons first later induction =>
      rw [List.map_cons, List.sum_cons] at total
      cases later with
      | nil =>
          have same : ticks = first := Ticks.ext (by simpa using total)
          rw [same, advancesInTurn_singleton]
      | cons second rest =>
          have bound := ticks.count_lt
          have within : ((second :: rest).map Ticks.count).sum < 1 <<< 64 := by omega
          have sum : ticks = first + ⟨((second :: rest).map Ticks.count).sum, within⟩ := by
            apply Ticks.ext
            rw [Ticks.count_add_of_lt (by simp only; omega)]
            exact total
          rw [sum, advances_add_iff lawful (by simp only; omega)]
          apply advancesInTurn_cons_congr
          intro middle after
          rw [advancesInTurn_singleton]
          exact induction (by simp) rfl

/-- The loops come to the end of all advances if their budget exceeds the number of expiries. -/
theorem AdvancesInTurn.runFrom_forM
    (in_turn : AdvancesInTurn timer expired world spans moments ended) {budget : Nat}
    (enough : moments.length < budget) :
    (spans.forM (advance timer expired budget)).runFrom world = ended := by
  induction in_turn with
  | nil => rfl
  | halted advances => rw [Exec.runFrom_forM_cons, advances.runFrom_advance enough]
  | cons advances rest induction =>
      rw [List.length_append] at enough
      rw [Exec.runFrom_forM_cons, advances.runFrom_advance (by omega)]
      exact induction (by omega)

theorem exists_runFrom_forM_iff {last : σ} :
    (∃ budget, (spans.forM (advance timer expired budget)).runFrom world = (.ok (), last)) ↔
      ∃ moments, AdvancesInTurn timer expired world spans moments (.ok (), last) := by
  constructor
  · rintro ⟨budget, ran⟩
    induction spans generalizing world with
    | nil =>
        cases ran
        exact ⟨[], .nil _⟩
    | cons first later induction =>
        rw [Exec.runFrom_forM_cons] at ran
        split at ran
        · next middle came =>
            obtain ⟨moments, advances⟩ := advances_of_runFrom came nofun
            obtain ⟨after, rest⟩ := induction ran
            exact ⟨_, .cons advances rest⟩
        · cases ran
  · rintro ⟨moments, in_turn⟩
    exact ⟨_, in_turn.runFrom_forM (Nat.lt_succ_self _)⟩

/-- An advance by no ticks does nothing, unless an armed timer has reached its period. -/
theorem advances_zero_iff (lawful : timer.Lawful) (none_pass : ticks.count = 0)
    (short : (timer.get world).phase = .armed →
      (timer.get world).elapsed < (timer.get world).period) :
    Advances timer expired world ticks moments ended ↔ moments = [] ∧ ended = (.ok (), world) := by
  have passed : (timer.get world).pass ticks = .done (timer.get world) := by
    by_cases armed : (timer.get world).phase = .armed
    · have less := short armed
      rw [Ticks.lt_iff] at less
      have still : (timer.get world).elapsed + ticks = (timer.get world).elapsed := by
        have bound := (timer.get world).elapsed.count_lt
        apply Ticks.ext
        rw [Ticks.count_add_of_lt (by omega)]
        omega
      rw [pass_of_lt armed (by omega), still]
    · exact pass_of_not_armed armed
  rw [advances_of_done passed, lawful.set_get]

/-- An advance by some ticks is as many advances by one tick.  Advancing by none comes to the same as
doing nothing as long as an armed timer has not reached its period. -/
theorem advances_iff_single (lawful : timer.Lawful)
    (moves : 0 < ticks.count ∨ ((timer.get world).phase = .armed →
      (timer.get world).elapsed < (timer.get world).period)) :
    Advances timer expired world ticks moments ended ↔ AdvancesInTurn timer expired world
      (List.replicate ticks.count (.clamp 1)) moments ended := by
  by_cases none_pass : ticks.count = 0
  · have short := moves.resolve_left (by omega)
    rw [advances_zero_iff lawful none_pass short, none_pass, List.replicate_zero]
    constructor
    · rintro ⟨rfl, rfl⟩
      exact .nil world
    · intro in_turn
      cases in_turn
      exact ⟨rfl, rfl⟩
  · apply advances_iff_inTurn lawful
    · simpa using none_pass
    · simp [Ticks.clamp]

/-- Whatever the callback does at an expiry, moving the clock by some ticks and then by some more
comes to an end just if moving it by their sum does, with the same state and the same expiries.  So
does moving it as often by a single tick, unless it moves by none and has reached the period already:
a timer like that expires as soon as its clock is touched. -/
theorem advance_add_iff_advance_advance (lawful : timer.Lawful) (expired : Exec σ Unit)
    (world : σ) (first second : Ticks) (fits : first.count + second.count < 1 <<< 64) :
    (∀ last,
      (∃ budget, (advance timer expired budget (first + second)).runFrom world =
        (.ok (), last)) ↔
      ∃ budget, (do
        advance timer expired budget first
        advance timer expired budget second).runFrom world = (.ok (), last)) ∧
    (∀ moments last,
      Advances timer expired world (first + second) moments (.ok (), last) ↔
      ∃ before middle after, Advances timer expired world first before (.ok (), middle) ∧
        Advances timer expired middle second after (.ok (), last) ∧
        moments = before ++ after) ∧
    ∀ ticks : Ticks, (0 < ticks.count ∨ ((timer.get world).phase = .armed →
        (timer.get world).elapsed < (timer.get world).period)) →
      (∀ last,
        (∃ budget, (advance timer expired budget ticks).runFrom world = (.ok (), last)) ↔
        ∃ budget, ((List.replicate ticks.count (.clamp 1)).forM
          (advance timer expired budget)).runFrom world = (.ok (), last)) ∧
      ∀ moments last, Advances timer expired world ticks moments (.ok (), last) ↔
        AdvancesInTurn timer expired world (List.replicate ticks.count (.clamp 1)) moments
          (.ok (), last) := by
  have pair : ∀ budget, (do
      advance timer expired budget first
      advance timer expired budget second).runFrom world =
        ([first, second].forM (advance timer expired budget)).runFrom world := by
    intro budget
    rw [Exec.runFrom_bind, Exec.runFrom_forM_cons]
    rcases (advance timer expired budget first).runFrom world with ⟨_ | _, middle⟩
    · rfl
    · simp only
      rw [Exec.runFrom_forM_cons]
      rcases (advance timer expired budget second).runFrom middle with ⟨_ | _, last⟩ <;> rfl
  refine ⟨fun last => ?_, fun moments last => ?_, fun ticks moves => ⟨fun last => ?_, ?_⟩⟩
  · simp only [pair, exists_runFrom_advance_iff, exists_runFrom_forM_iff,
      advances_add_iff lawful fits]
  · rw [advances_add_iff lawful fits]
    constructor
    · intro in_turn
      cases in_turn with
      | cons advances rest =>
          exact ⟨_, _, _, advances, advancesInTurn_singleton.mp rest, rfl⟩
    · rintro ⟨before, middle, after, advances, rest, rfl⟩
      exact .cons advances (advancesInTurn_singleton.mpr rest)
  · simp only [exists_runFrom_advance_iff, exists_runFrom_forM_iff,
      advances_iff_single lawful moves]
  · exact fun moments last => advances_iff_single lawful moves

end

/-- A timer and the periods with which its callback arms it again. -/
structure Rearming where
  /-- The timer. -/
  timer : SimulatedTimer
  /-- The periods that are left. -/
  periods : List Ticks

namespace Rearming

/-- The timer as a part of the whole. -/
def timerPart : Part Rearming SimulatedTimer where
  get := timer
  set timer rearming := { rearming with timer }

/-- Arms the timer with the next period, if one is left. -/
def rearm : Exec Rearming Unit :=
  modify fun rearming =>
    match rearming.periods with
    | [] => rearming
    | period :: periods => { timer := (rearming.timer.restart period).1, periods }

/-- Armed for ten ticks, then for three and then for five. -/
def start : Rearming :=
  { timer := (restart { resolution := .microsecond } (.clamp 10)).1
    periods := [.clamp 3, .clamp 5] }

end Rearming

/-- The split falls into the second period, the last expiry leaves a tick that counts for nothing, and
the timer ends up as it does after nineteen ticks at once or one by one. -/
theorem advance_across_rearming_iff :
    Rearming.timerPart.Lawful ∧ (Ticks.clamp 12).count + (Ticks.clamp 7).count < 1 <<< 64 ∧
    ∃ last : Rearming, last.timer.restarts = 3 ∧ last.timer.phase = .expired ∧
      last.timer.elapsed = .clamp 5 ∧
      (∃ budget, (advance Rearming.timerPart Rearming.rearm budget
        (.clamp 12 + .clamp 7)).runFrom Rearming.start = (.ok (), last)) ∧
      (∃ budget, (do
        advance Rearming.timerPart Rearming.rearm budget (.clamp 12)
        advance Rearming.timerPart Rearming.rearm budget (.clamp 7)).runFrom Rearming.start =
          (.ok (), last)) ∧
      ∃ budget, ((List.replicate (Ticks.clamp 12 + Ticks.clamp 7).count (Ticks.clamp 1)).forM
        (advance Rearming.timerPart Rearming.rearm budget)).runFrom Rearming.start =
          (.ok (), last) := by
  have lawful : Rearming.timerPart.Lawful := ⟨fun _ _ => rfl, fun _ _ _ => rfl, fun _ => rfl⟩
  have fits : (Ticks.clamp 12).count + (Ticks.clamp 7).count < 1 <<< 64 := by decide
  have together : (advance Rearming.timerPart Rearming.rearm 4 (.clamp 12 + .clamp 7)).runFrom
      Rearming.start = (.ok (), { timer := ⟨.microsecond, .clamp 5, .clamp 5, .expired, 3⟩
                                  periods := [] }) := by rfl
  obtain ⟨split_iff, _, single_iff⟩ :=
    advance_add_iff_advance_advance lawful Rearming.rearm Rearming.start _ _ fits
  exact ⟨lawful, fits, _, rfl, rfl, rfl, ⟨4, together⟩, (split_iff _).mp ⟨4, together⟩,
    ((single_iff _ (Or.inl (by decide))).1 _).mp ⟨4, together⟩⟩

end SimulatedTimer

end Reactor
