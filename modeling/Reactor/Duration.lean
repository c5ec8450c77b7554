import Reactor.Ticks

/-!
# Durations

A duration is a number of nanoseconds below 2⁶⁴ seconds.  Against a resolution, the length of one
tick, a duration becomes a tick count by rounding up, so that a timer is never early, and a tick
count becomes a duration again.
-/

namespace Reactor

/-- A span of time in nanoseconds, whose whole seconds have 64 bits. -/
@[ext]
structure Duration where
  /-- The span in nanoseconds. -/
  nanos : Nat
  /-- Whole seconds have 64 bits. -/
  nanos_lt : nanos < (1 <<< 64) * 1_000_000_000 := by omega
deriving DecidableEq

namespace Duration

/-- Nanoseconds in a second. -/
def second : Nat := 1_000_000_000

/-- The empty span. -/
def zero : Duration := ⟨0, by omega⟩

/-- One microsecond, the usual length of a tick. -/
def microsecond : Duration := ⟨1000, by omega⟩

instance : Inhabited Duration := ⟨zero⟩

instance : LE Duration := ⟨fun left right => left.nanos ≤ right.nanos⟩

instance (left right : Duration) : Decidable (left ≤ right) :=
  inferInstanceAs (Decidable (left.nanos ≤ right.nanos))

/-- The duration of a number of nanoseconds: past 64 bits of seconds, the seconds stay at their
largest value and the nanoseconds of the last second remain. -/
def ofNanos (n : Nat) : Duration where
  nanos := min (n / second) ((1 <<< 64) - 1) * second + n % second
  nanos_lt := by
    have part : n % second < second := Nat.mod_lt _ (by decide)
    have whole : min (n / second) ((1 <<< 64) - 1) ≤ (1 <<< 64) - 1 := Nat.min_le_right _ _
    have scaled := Nat.mul_le_mul_right second whole
    simp only [second] at part scaled ⊢
    omega

/-- A duration of whole microseconds, as `ofNanos` takes it. -/
def ofMicros (n : Nat) : Duration := ofNanos (n * 1000)

/-- The least number of ticks of length `resolution` that is not shorter than `duration`, or
`Ticks.max` if that has more than 64 bits; nothing if the resolution is zero. -/
def toTicks? (duration resolution : Duration) : Option Ticks :=
  if resolution.nanos = 0 then none
  else some (.clamp ((duration.nanos + resolution.nanos - 1) / resolution.nanos))

/-- The text of the failure that a zero resolution causes. -/
def zeroResolution : String := "timer resolution must be non-zero"

/-- The first nine, six or three decimals of a fraction, without the zeros at their end. -/
def decimals (width fraction : Nat) : String :=
  let digits := (toString fraction).toList
  let padded := List.replicate (width - digits.length) '0' ++ digits
  let kept := (padded.reverse.dropWhile (· == '0')).reverse
  if kept.isEmpty then "" else "." ++ String.ofList kept

/-- A number of nanoseconds written in units of ten to the power of `width` nanoseconds. -/
def inUnit (width : Nat) (unit : String) (n : Nat) : String :=
  toString (n / Nat.pow 10 width) ++ decimals width (n % Nat.pow 10 width) ++ unit

/-- The written form, in the largest of seconds, milliseconds, microseconds and nanoseconds that
does not exceed the value. -/
def text (duration : Duration) : String :=
  let n := duration.nanos
  if second ≤ n then inUnit 9 "s" n
  else if 1_000_000 ≤ n then inUnit 6 "ms" n
  else if 1_000 ≤ n then inUnit 3 "µs" n
  else inUnit 0 "ns" n

theorem le_iff {left right : Duration} : left ≤ right ↔ left.nanos ≤ right.nanos := Iff.rfl

theorem nanos_ofNanos (n : Nat) :
    (ofNanos n).nanos = min (n / second) ((1 <<< 64) - 1) * second + n % second := rfl

end Duration

/-- The span of `ticks` ticks of length `resolution`.  The nanoseconds are meant to fit 128 bits:
past them only the lowest 128 bits are left, where overflow is not checked. -/
def Ticks.toDuration (ticks : Ticks) (resolution : Duration) : Duration :=
  .ofNanos (ticks.count * resolution.nanos % (1 <<< 128))

end Reactor
