import Reactor.Hardware.WallClock
import Mathlib.Algebra.Order.Floor.Div
import Mathlib.Order.Bounds.Defs

/-!
# Ticks and durations

A duration becomes ticks by rounding up, and ticks become a duration whose seconds stop at 64 bits.
Where the seconds do not stop the two are adjoint, so a timer is never early and less than a tick
late.  Where they stop, the nanoseconds of the last second go on by themselves: two spans of that
length may change places, but by less than a second.
-/

namespace Reactor

/-- The longest duration. -/
def Duration.max : Duration := ⟨(1 <<< 64) * 1_000_000_000 - 1, by omega⟩

/-- A tick count short of the largest, whose span a duration can hold. -/
def Ticks.Measurable (ticks : Ticks) (resolution : Duration) : Prop :=
  ticks < .max ∧ ticks.count * resolution.nanos ≤ Duration.max.nanos

namespace Ticks

variable {ticks : Ticks} {n : Nat}

theorem count_max : max.count = (1 <<< 64) - 1 := rfl

theorem count_le_max (ticks : Ticks) : ticks.count ≤ max.count := by
  have less := ticks.count_lt
  rw [count_max]
  omega

/-- Below the largest count, a clamped number stands for itself. -/
theorem clamp_le_iff (short : ticks < max) : clamp n ≤ ticks ↔ n ≤ ticks.count := by
  rw [lt_iff, count_max] at short
  rw [le_iff, count_clamp]
  omega

theorem clamp_count (ticks : Ticks) : clamp ticks.count = ticks := by
  rw [Ticks.ext_iff, count_clamp]
  exact Nat.min_eq_left (count_le_max ticks)

end Ticks

namespace Duration

variable {duration resolution : Duration} {ticks : Ticks}

/-! ## Whole nanoseconds as durations -/

theorem nanos_ofNanos_of_le {n : Nat} (le : n ≤ max.nanos) : (ofNanos n).nanos = n := by
  have parts := Nat.div_add_mod n second
  rw [nanos_ofNanos]
  simp only [max, second] at le parts ⊢
  omega

/-- Past the largest number of seconds, only the nanoseconds of the last second are left. -/
theorem nanos_ofNanos_of_lt {n : Nat} (lt : max.nanos < n) :
    (ofNanos n).nanos = ((1 <<< 64) - 1) * second + n % second := by
  rw [nanos_ofNanos]
  simp only [max, second] at lt ⊢
  omega

/-! ## From durations to ticks -/

theorem toTicks?_eq (positive : 0 < resolution.nanos) :
    duration.toTicks? resolution = some (.clamp (duration.nanos ⌈/⌉ resolution.nanos)) := by
  rw [toTicks?, if_neg positive.ne', Nat.ceilDiv_eq_add_pred_div]

/-- A product that fits 128 bits is the span itself. -/
theorem toDuration_eq_ofNanos (fits : ticks.count * resolution.nanos < 1 <<< 128) :
    ticks.toDuration resolution = ofNanos (ticks.count * resolution.nanos) := by
  rw [Ticks.toDuration, Nat.mod_eq_of_lt fits]

theorem nanos_toDuration (fits : ticks.count * resolution.nanos ≤ max.nanos) :
    (ticks.toDuration resolution).nanos = ticks.count * resolution.nanos := by
  rw [toDuration_eq_ofNanos (fits.trans_lt (by decide)), nanos_ofNanos_of_le fits]

/-- Short of the largest count, rounding up finds the counts that take no less time. -/
theorem clamp_ceilDiv_le_iff (positive : 0 < resolution.nanos) (short : ticks < .max) :
    Ticks.clamp (duration.nanos ⌈/⌉ resolution.nanos) ≤ ticks ↔
      duration.nanos ≤ ticks.count * resolution.nanos := by
  rw [Ticks.clamp_le_iff short, ceilDiv_le_iff_le_mul positive, Nat.mul_comm]

theorem clamp_ceilDiv_eq_max_iff (positive : 0 < resolution.nanos) :
    Ticks.clamp (duration.nanos ⌈/⌉ resolution.nanos) = .max ↔
      ∀ ticks : Ticks, ticks < .max → ticks.count * resolution.nanos < duration.nanos := by
  constructor
  · intro longest ticks short
    by_contra enough
    have le := (clamp_ceilDiv_le_iff positive short).mpr (Nat.not_lt.mp enough)
    rw [longest] at le
    exact absurd short (Nat.not_lt.mpr le)
  · intro too_short
    by_contra short
    have less : Ticks.clamp (duration.nanos ⌈/⌉ resolution.nanos) < .max :=
      lt_of_le_of_ne (Ticks.count_le_max _) fun same => short (Ticks.ext same)
    have enough := (clamp_ceilDiv_le_iff positive less).mp (Nat.le_refl _)
    exact absurd (too_short _ less) (Nat.not_lt.mpr enough)

/-- A count that is not the largest takes no less time than the duration, as no smaller one does,
and is less than a tick late. -/
theorem isLeast_clamp_ceilDiv (positive : 0 < resolution.nanos)
    (short : Ticks.clamp (duration.nanos ⌈/⌉ resolution.nanos) ≠ .max) :
    IsLeast {ticks : Ticks | duration.nanos ≤ ticks.count * resolution.nanos}
        (.clamp (duration.nanos ⌈/⌉ resolution.nanos)) ∧
      (Ticks.clamp (duration.nanos ⌈/⌉ resolution.nanos)).count * resolution.nanos <
        duration.nanos + resolution.nanos := by
  generalize clamped : Ticks.clamp (duration.nanos ⌈/⌉ resolution.nanos) = least at short
  have less : least < .max :=
    lt_of_le_of_ne (Ticks.count_le_max _) fun same => short (Ticks.ext same)
  have adjoint : ∀ {ticks : Ticks}, ticks < .max →
      (least ≤ ticks ↔ duration.nanos ≤ ticks.count * resolution.nanos) := by
    intro ticks short
    rw [← clamped]
    exact clamp_ceilDiv_le_iff positive short
  refine ⟨⟨(adjoint less).mp (Nat.le_refl _), ?_⟩, ?_⟩
  · intro ticks enough
    rcases lt_or_ge ticks.count Ticks.max.count with below | above
    · exact (adjoint below).mpr enough
    · exact (Ticks.count_le_max least).trans above
  · rcases Nat.eq_zero_or_pos least.count with none | some
    · rw [none]
      omega
    · -- One tick less is too short, as the count is the least.
      let fewer : Ticks := ⟨least.count - 1, by have := least.count_lt; omega⟩
      have below : fewer < least := by
        rw [Ticks.lt_iff]
        exact Nat.sub_lt some Nat.one_pos
      have too_short : fewer.count * resolution.nanos < duration.nanos := by
        by_contra enough
        have le := (adjoint (Nat.lt_trans below less)).mpr (Nat.not_lt.mp enough)
        exact absurd below (Nat.not_lt.mpr le)
      have one_more : least.count * resolution.nanos =
          fewer.count * resolution.nanos + resolution.nanos := by
        rw [← Nat.succ_mul, Nat.succ_eq_add_one, Nat.sub_add_cancel some]
      omega

/-- Rounding a duration up and measuring ticks are adjoint wherever the ticks can be measured.  So a
duration becomes the least count that takes no less time, which is less than a tick late, unless it
becomes the largest count, which happens just if every other count is too short.  A longer duration
never becomes fewer ticks, and ticks that can be measured come back from their duration. -/
theorem toTicks?_adjoint_toDuration (resolution : Duration) (positive : 0 < resolution.nanos) :
    (∀ duration : Duration, ∃ least, duration.toTicks? resolution = some least ∧
      (∀ ticks : Ticks, ticks.Measurable resolution →
        (least ≤ ticks ↔ duration ≤ ticks.toDuration resolution)) ∧
      (least ≠ .max →
        IsLeast {ticks : Ticks | duration.nanos ≤ ticks.count * resolution.nanos} least ∧
        least.count * resolution.nanos < duration.nanos + resolution.nanos) ∧
      (least = .max ↔
        ∀ ticks : Ticks, ticks < .max → ticks.count * resolution.nanos < duration.nanos)) ∧
    (∀ shorter longer : Duration, shorter ≤ longer → ∃ fewer more,
      shorter.toTicks? resolution = some fewer ∧ longer.toTicks? resolution = some more ∧
      fewer ≤ more) ∧
    ∀ ticks : Ticks, ticks.Measurable resolution →
      (ticks.toDuration resolution).toTicks? resolution = some ticks := by
  refine ⟨fun duration => ⟨_, toTicks?_eq positive, ?_, isLeast_clamp_ceilDiv positive,
    clamp_ceilDiv_eq_max_iff positive⟩, ?_, ?_⟩
  · rintro ticks ⟨short, fits⟩
    rw [clamp_ceilDiv_le_iff positive short, le_iff, nanos_toDuration fits]
  · intro shorter longer le
    refine ⟨_, _, toTicks?_eq positive, toTicks?_eq positive, ?_⟩
    have rounded : shorter.nanos ⌈/⌉ resolution.nanos ≤ longer.nanos ⌈/⌉ resolution.nanos :=
      (gc_mul_ceilDiv positive).monotone_l le
    rw [Ticks.le_iff, Ticks.count_clamp, Ticks.count_clamp]
    exact min_le_min_right _ rounded
  · rintro ticks ⟨short, fits⟩
    have whole : ticks.count * resolution.nanos ⌈/⌉ resolution.nanos = ticks.count := by
      rw [Nat.mul_comm]
      exact smul_ceilDiv positive ticks.count
    rw [toTicks?_eq positive, nanos_toDuration fits, whole]
    exact congrArg some (Ticks.clamp_count ticks)

/-- Two microseconds and a half are more than two ticks and become three, and the longest duration
has more microseconds than can be counted. -/
theorem microseconds_round_up :
    0 < microsecond.nanos ∧ (Ticks.clamp 2).Measurable microsecond ∧
    (∃ least, (ofNanos 2500).toTicks? microsecond = some least ∧ least = .clamp 3 ∧
      ¬least ≤ .clamp 2 ∧ least.count * microsecond.nanos < 2500 + 1000 ∧
      IsLeast {ticks : Ticks | 2500 ≤ ticks.count * microsecond.nanos} least) ∧
    max.toTicks? microsecond = some .max ∧
    (∀ ticks : Ticks, ticks < .max → ticks.count * microsecond.nanos < max.nanos) ∧
    ((Ticks.clamp 2).toDuration microsecond).toTicks? microsecond = some (.clamp 2) := by
  have positive : 0 < microsecond.nanos := by decide
  have measurable : (Ticks.clamp 2).Measurable microsecond := by
    unfold Ticks.Measurable
    decide
  obtain ⟨rounds, _, returns⟩ := toTicks?_adjoint_toDuration microsecond positive
  obtain ⟨least, rounded, adjoint, unless_most, _⟩ := rounds (ofNanos 2500)
  obtain ⟨most, saturated, _, _, longest⟩ := rounds max
  have three : least = .clamp 3 := (Option.some.inj rounded).symm
  have all : most = .max := (Option.some.inj saturated).symm
  obtain ⟨is_least, less_late⟩ := unless_most (by rw [three]; decide)
  refine ⟨positive, measurable, ⟨least, rounded, three, ?_, less_late, is_least⟩, ?_,
    longest.mp all, returns _ measurable⟩
  · rw [adjoint _ measurable]
    decide
  · rw [saturated, all]

/-! ## From ticks to durations -/

/-- Whether the durations of a number of nanoseconds and of a larger one are in order: the larger
one is not too long for a duration, or the seconds of the smaller one have not stopped, or what is
left of the nanoseconds is in order. -/
def StayInOrder (smaller larger : Nat) : Prop :=
  larger ≤ max.nanos ∨ smaller < ((1 <<< 64) - 1) * second ∨ smaller % second ≤ larger % second

theorem ofNanos_le_ofNanos_iff {smaller larger : Nat} (le : smaller ≤ larger) :
    ofNanos smaller ≤ ofNanos larger ↔ StayInOrder smaller larger := by
  have parts := Nat.div_add_mod smaller second
  have part : smaller % second < second := Nat.mod_lt _ (by decide)
  rw [le_iff, StayInOrder]
  rcases Nat.lt_or_ge max.nanos larger with long | short
  · rw [nanos_ofNanos_of_lt long]
    rcases Nat.lt_or_ge max.nanos smaller with both | one
    · rw [nanos_ofNanos_of_lt both]
      simp only [max, second] at both long ⊢
      omega
    · rw [nanos_ofNanos_of_le one]
      simp only [max, second] at one long parts part ⊢
      omega
  · rw [nanos_ofNanos_of_le short, nanos_ofNanos_of_le (le.trans short)]
    exact iff_of_true le (Or.inl short)

/-- A duration falls back by less than a second. -/
theorem nanos_ofNanos_lt_add {smaller larger : Nat} (le : smaller ≤ larger) :
    (ofNanos smaller).nanos < (ofNanos larger).nanos + second := by
  have bounded := (ofNanos smaller).nanos_lt
  rcases Nat.lt_or_ge max.nanos larger with long | short
  · rw [nanos_ofNanos_of_lt long]
    simp only [second] at bounded ⊢
    omega
  · rw [nanos_ofNanos_of_le short, nanos_ofNanos_of_le (le.trans short)]
    simp only [second]
    omega

/-- Durations are in order if one of them is short of where the seconds stop. -/
theorem ofNanos_le_ofNanos_of_lt {smaller larger : Nat} (le : smaller ≤ larger)
    (short : (ofNanos smaller).nanos < ((1 <<< 64) - 1) * second ∨
      (ofNanos larger).nanos < ((1 <<< 64) - 1) * second) :
    ofNanos smaller ≤ ofNanos larger := by
  rcases Nat.lt_or_ge max.nanos larger with long | fits
  · rw [nanos_ofNanos_of_lt long] at short
    rw [le_iff, nanos_ofNanos_of_lt long]
    omega
  · exact (ofNanos_le_ofNanos_iff le).mpr (Or.inl fits)

end Duration

namespace WallClockTimer

/-- An accepted period sets the deadline. -/
theorem deadline?_of_restart {timer armed : WallClockTimer} {period : Ticks}
    (accepted : timer.restart period = (armed, .ok ())) :
    armed.deadline? = some (timer.now + (period.toDuration timer.resolution).nanos) := by
  unfold restart at accepted
  split at accepted
  · cases accepted
  · split at accepted
    · cases accepted
    · rw [← (Prod.mk.inj accepted).1]
      rfl

end WallClockTimer

namespace Duration

/-- As long as the nanoseconds fit 128 bits, more ticks that are not shorter make a longer duration,
except where the seconds of both have stopped and the nanoseconds that are left decide otherwise;
even there the duration falls back by less than a second.  Of two periods of a timer on a wall clock
the longer one never has the earlier deadline, as long as the clock can show one of the
deadlines. -/
theorem toDuration_le_toDuration_iff {fewer more : Ticks} {shorter longer : Duration}
    (fewer_le : fewer ≤ more) (shorter_le : shorter ≤ longer)
    (fits : more.count * longer.nanos < 1 <<< 128) :
    (fewer.toDuration shorter ≤ more.toDuration longer ↔
      StayInOrder (fewer.count * shorter.nanos) (more.count * longer.nanos)) ∧
    (fewer.toDuration shorter).nanos < (more.toDuration longer).nanos + second ∧
    ∀ timer sooner later : WallClockTimer, more.count * timer.resolution.nanos < 1 <<< 128 →
      timer.restart fewer = (sooner, .ok ()) → timer.restart more = (later, .ok ()) →
      ∃ first last, sooner.deadline? = some first ∧ later.deadline? = some last ∧
        (first < WallClockTimer.clockLimit ∨ last < WallClockTimer.clockLimit → first ≤ last) := by
  have products : fewer.count * shorter.nanos ≤ more.count * longer.nanos :=
    Nat.mul_le_mul fewer_le shorter_le
  rw [toDuration_eq_ofNanos fits, toDuration_eq_ofNanos (products.trans_lt fits)]
  refine ⟨ofNanos_le_ofNanos_iff products, nanos_ofNanos_lt_add products, ?_⟩
  intro timer sooner later counted restarts restarts_longer
  have same_length := Nat.mul_le_mul_right timer.resolution.nanos fewer_le
  refine ⟨_, _, WallClockTimer.deadline?_of_restart restarts,
    WallClockTimer.deadline?_of_restart restarts_longer, fun shown => ?_⟩
  rw [toDuration_eq_ofNanos counted, toDuration_eq_ofNanos (same_length.trans_lt counted)]
    at shown ⊢
  have limit : WallClockTimer.clockLimit ≤ ((1 <<< 64) - 1) * second := by decide
  apply Nat.add_le_add_left
  apply ofNanos_le_ofNanos_of_lt same_length
  refine shown.imp (fun shown => ?_) fun shown => ?_
  all_goals exact (Nat.le_add_left _ _).trans_lt (shown.trans_le limit)

/-- A timer on a wall clock that has shown a quarter of a microsecond. -/
def earlyClock : WallClockTimer :=
  { resolution := microsecond, now := 250, resolution_pos := by decide }

/-- Five and seven microseconds are in order, and so are their deadlines; but of two neighbouring
counts of a second and a half each the larger one makes the shorter duration. -/
theorem longer_periods_in_order :
    (Ticks.clamp 5).toDuration microsecond ≤ (Ticks.clamp 7).toDuration microsecond ∧
    (∃ sooner later first last, earlyClock.restart (.clamp 5) = (sooner, .ok ()) ∧
      earlyClock.restart (.clamp 7) = (later, .ok ()) ∧ sooner.deadline? = some first ∧
      later.deadline? = some last ∧ first = 5250 ∧ last = 7250 ∧ first ≤ last) ∧
    ∃ fewer more : Ticks, more.count = fewer.count + 1 ∧
      ¬fewer.toDuration (ofNanos 1_500_000_000) ≤ more.toDuration (ofNanos 1_500_000_000) := by
  have in_order : Ticks.clamp 5 ≤ Ticks.clamp 7 := by decide
  obtain ⟨compare, _, deadlines⟩ := toDuration_le_toDuration_iff in_order
    (le_iff.mpr (le_refl microsecond.nanos)) (by decide)
  refine ⟨compare.mpr (Or.inl (by decide)), ?_, ⟨(1 <<< 64) - 3, by omega⟩,
    ⟨(1 <<< 64) - 2, by omega⟩, by decide, ?_⟩
  · have restarts : earlyClock.restart (.clamp 5) = (_, .ok ()) := rfl
    have restarts_longer : earlyClock.restart (.clamp 7) = (_, .ok ()) := rfl
    obtain ⟨first, last, shows_first, shows_last, not_earlier⟩ :=
      deadlines _ _ _ (by decide) restarts restarts_longer
    have first_eq : first = 5250 := (Option.some.inj shows_first).symm
    have last_eq : last = 7250 := (Option.some.inj shows_last).symm
    refine ⟨_, _, first, last, restarts, restarts_longer, shows_first, shows_last, first_eq,
      last_eq, not_earlier (Or.inl ?_)⟩
    rw [first_eq]
    decide
  · rw [(toDuration_le_toDuration_iff (by decide) (le_iff.mpr (le_refl _)) (by decide)).1,
      StayInOrder]
    decide

/-- A tick of the longest duration, twice: the seconds stop and the nanoseconds fall back.  The same
happens to two ticks if their length grows past half of what a duration can hold. -/
theorem second_tick_falls_back :
    Ticks.clamp 1 ≤ Ticks.clamp 2 ∧ (Ticks.clamp 2).count * max.nanos < 1 <<< 128 ∧
    (Ticks.clamp 1).toDuration max = max ∧
    ((Ticks.clamp 2).toDuration max).nanos = max.nanos - 1 ∧
    ¬(Ticks.clamp 1).toDuration max ≤ (Ticks.clamp 2).toDuration max ∧
    ∃ shorter longer : Duration, longer.nanos = shorter.nanos + 1 ∧
      (Ticks.clamp 2).count * longer.nanos < 1 <<< 128 ∧
      ¬(Ticks.clamp 2).toDuration shorter ≤ (Ticks.clamp 2).toDuration longer := by
  refine ⟨by decide, by decide, by decide, by decide, by decide,
    ⟨(1 <<< 64) * 500_000_000 - 1, by omega⟩, ⟨(1 <<< 64) * 500_000_000, by omega⟩, ?_⟩
  decide

end Duration

end Reactor
