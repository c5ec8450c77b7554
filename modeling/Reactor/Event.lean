import Reactor.Signal
import Reactor.Ticks

/-!
# Events

An event carries a signal and may carry a payload.  Payloads are values of one of a few types, and
a reader asks for the payload as a type: it sees the value only if the event carries one of that
type.
-/

namespace Reactor

/-- What every event says about itself. -/
structure Header where
  /-- The kind of event. -/
  signal : Signal
  /-- Whether the event owns a payload of its own. -/
  dynamic : Bool := false
deriving DecidableEq

/-- A payload, tagged with its type. -/
inductive Payload where
  /-- An unsigned number of 32 bits. -/
  | word (value : UInt32)
  /-- A signed number of 64 bits. -/
  | integer (value : Int64)
  /-- A text. -/
  | string (value : String)
  /-- A span of time. -/
  | ticks (value : Ticks)
  /-- Raw bytes. -/
  | bytes (value : List UInt8)
deriving DecidableEq

namespace Payload

/-- The value of a payload that is a word. -/
def word? : Payload → Option UInt32
  | word value => some value
  | _ => none

/-- The value of a payload that is a signed integer. -/
def integer? : Payload → Option Int64
  | integer value => some value
  | _ => none

/-- The value of a payload that is a text. -/
def string? : Payload → Option String
  | string value => some value
  | _ => none

/-- The value of a payload that is a span of time. -/
def ticks? : Payload → Option Ticks
  | ticks value => some value
  | _ => none

/-- The value of a payload that consists of bytes. -/
def bytes? : Payload → Option (List UInt8)
  | bytes value => some value
  | _ => none

end Payload

/-- An event whose payload has the type `π`. -/
structure Event (π : Type) where
  /-- What the event says about itself. -/
  header : Header
  /-- What the event carries. -/
  payload : π
deriving DecidableEq

namespace Event

variable {π : Type}

/-- An event with a payload of a known type, which it does not own. -/
def new (signal : Signal) (payload : π) : Event π := { header := { signal }, payload }

/-- The kind of the event. -/
def signal (event : Event π) : Signal := event.header.signal

/-- Whether the event owns its payload. -/
def isDynamic (event : Event π) : Bool := event.header.dynamic

end Event

/-- The events that subscribers receive: with or without a payload. -/
abbrev Notice := Event (Option Payload)

namespace Notice

/-- An event that is nothing but its signal. -/
def empty (signal : Signal) : Notice := .new signal none

/-- An event that owns a payload. -/
def withPayload (signal : Signal) (payload : Payload) : Notice :=
  { header := { signal, dynamic := true }, payload := some payload }

/-- The event for a signal and perhaps a payload. -/
def of (signal : Signal) : Option Payload → Notice
  | none => empty signal
  | some payload => withPayload signal payload

end Notice

end Reactor
