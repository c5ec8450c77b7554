import Reactor.CallbackSlots
import Reactor.Capacity
import Reactor.Dispatch.ActiveObject
import Reactor.Dispatch.Config
import Reactor.Dispatch.Error
import Reactor.Dispatch.Note
import Reactor.Dispatch.Pool
import Reactor.Dispatch.WorkQueue
import Reactor.Dispatcher
import Reactor.Duration
import Reactor.Event
import Reactor.Event.Center
import Reactor.Event.HeaderText
import Reactor.Event.Registry
import Reactor.Exec
import Reactor.Fifo
import Reactor.FunctionQueue
import Reactor.Guarded
import Reactor.Hardware
import Reactor.Hardware.Simulated
import Reactor.Hardware.Unreliable
import Reactor.Hardware.WallClock
import Reactor.InterruptQueue
import Reactor.Log
import Reactor.Operation
import Reactor.Proofs.CallbackSlots.Lifetimes
import Reactor.Proofs.CallbackSlots.Placement
import Reactor.Proofs.Deferral.Events
import Reactor.Proofs.Deferral.Host
import Reactor.Proofs.Deferral.Timers
import Reactor.Proofs.Dispatch.ActiveObject
import Reactor.Proofs.Dispatch.Ledger
import Reactor.Proofs.Dispatch.Lifecycle
import Reactor.Proofs.Dispatch.Pool
import Reactor.Proofs.Duration
import Reactor.Proofs.Event.Growth
import Reactor.Proofs.Event.Publishing
import Reactor.Proofs.Event.Registrations
import Reactor.Proofs.Event.Room
import Reactor.Proofs.Event.System
import Reactor.Proofs.Event.Table
import Reactor.Proofs.Exec
import Reactor.Proofs.FunctionQueue.Calls
import Reactor.Proofs.FunctionQueue.Conservation
import Reactor.Proofs.Hardware.Advance
import Reactor.Proofs.Hardware.Outages
import Reactor.Proofs.Hardware.Refusals
import Reactor.Proofs.InterruptQueue.Drain
import Reactor.Proofs.Roster
import Reactor.Proofs.ScheduledQueue.Contents
import Reactor.Proofs.ScheduledQueue.Front
import Reactor.Proofs.ScheduledQueue.HeapOrder
import Reactor.Proofs.ScheduledQueue.Priority
import Reactor.Proofs.ScheduledQueue.Repair
import Reactor.Proofs.Session.Timers
import Reactor.Proofs.Timer.Account
import Reactor.Proofs.Timer.Arming
import Reactor.Proofs.Timer.Behind
import Reactor.Proofs.Timer.Cancellation
import Reactor.Proofs.Timer.Coherence
import Reactor.Proofs.Timer.Custody
import Reactor.Proofs.Timer.Decisions
import Reactor.Proofs.Timer.Deliveries
import Reactor.Proofs.Timer.Exact
import Reactor.Proofs.Timer.GrownRun
import Reactor.Proofs.Timer.Growth
import Reactor.Proofs.Timer.Handles
import Reactor.Proofs.Timer.History
import Reactor.Proofs.Timer.Invariant
import Reactor.Proofs.Timer.Ledger
import Reactor.Proofs.Timer.Numbers
import Reactor.Proofs.Timer.OpenRun
import Reactor.Proofs.Timer.Outages
import Reactor.Proofs.Timer.Ownership
import Reactor.Proofs.Timer.Pass
import Reactor.Proofs.Timer.Punctual
import Reactor.Proofs.Timer.Race
import Reactor.Proofs.Timer.Refusals
import Reactor.Proofs.Timer.Room
import Reactor.Proofs.Timer.Sections
import Reactor.Proofs.Timer.Slots
import Reactor.Proofs.Timer.Stages
import Reactor.Proofs.Timer.Sweep
import Reactor.Proofs.Timer.System
import Reactor.Proofs.Timer.Tally
import Reactor.Proofs.Timer.TaskRun
import Reactor.Proofs.Timer.Tasks
import Reactor.Proofs.Timer.Termination
import Reactor.Proofs.Timer.Timely
import Reactor.Proofs.Timer.Watch
import Reactor.Roster
import Reactor.Session.ActiveObject
import Reactor.Session.Callbacks
import Reactor.Session.Clock
import Reactor.Session.Containers
import Reactor.Session.Dispatching
import Reactor.Session.Events
import Reactor.Session.Executor
import Reactor.Session.Functions
import Reactor.Session.Interrupts
import Reactor.Session.Pool
import Reactor.Session.Scan
import Reactor.Session.Stage
import Reactor.Session.Timers
import Reactor.Session.WallClock
import Reactor.Signal
import Reactor.Slot
import Reactor.Ticks
import Reactor.Timer.Basic
import Reactor.Timer.Manager
import Reactor.Timer.Note
import Reactor.Timer.ScheduledQueue
import Reactor.Timer.Service
import Reactor.Version
