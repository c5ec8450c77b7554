/-!
# Log records

Components report what they do as records of a level of severity and a text.  An observer keeps
the records at its threshold and above.
-/

namespace Reactor

/-- How severe a record is, from routine to failure. -/
inductive Level where
  | trace
  | debug
  | warn
  | error
deriving DecidableEq, Inhabited

namespace Level

/-- The position of a level in the order of severity. -/
def rank : Level → Nat
  | trace => 0
  | debug => 1
  | warn => 2
  | error => 3

instance : LE Level := ⟨fun lower upper => lower.rank ≤ upper.rank⟩

instance (lower upper : Level) : Decidable (lower ≤ upper) :=
  inferInstanceAs (Decidable (lower.rank ≤ upper.rank))

end Level

/-- One log record. -/
structure LogRecord where
  /-- How severe it is. -/
  level : Level
  /-- What it says. -/
  text : String
deriving DecidableEq

/-- The records at `threshold` and above. -/
def LogRecord.atLeast (threshold : Level) (records : List LogRecord) : List LogRecord :=
  records.filter fun record => threshold ≤ record.level

end Reactor
