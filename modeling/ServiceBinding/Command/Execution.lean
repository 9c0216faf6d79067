import ServiceBinding.Breaker.Circuit
import ServiceBinding.Bulkhead
import ServiceBinding.Command.Error
import ServiceBinding.Command.Settings

/-!
# Executing an operation under a command

A command is the bulkhead, the deadline and the circuit breaker of the calls of one key. An
execution waits at two places: in the line of the bulkhead for a slot, and for the end of its
operation, which runs by itself and holds the slot until it ends. What happens between two waits
happens at once; each function below is one such piece. Both waits end at the deadline; the
operation then runs on, and its result is dropped.
-/

namespace ServiceBinding

/-- What guards the calls of one key. -/
structure Command where
  key : String
  settings : CommandSettings
  bulkhead : Bulkhead
  breaker : Breaker
  deriving Inhabited

/-- Where an execution waits. -/
inductive Execution
  /-- In line for a slot. -/
  | queued (permission : Permission) (deadline : Instant)
  /-- For the end of its operation. -/
  | running (permission : Permission) (deadline : Instant)
  deriving DecidableEq, Inhabited

/-- How an operation ended. -/
inductive Ending (ε α : Type)
  | result (r : Except ε α)
  /-- It broke off without a result. -/
  | broken (reason : String)

namespace Execution

def permission : Execution → Permission
  | .queued p _ => p
  | .running p _ => p

def deadline : Execution → Instant
  | .queued _ d => d
  | .running _ d => d

end Execution

namespace Command

def new (key : String) (s : CommandSettings) : Command :=
  { key
    settings := s
    bulkhead := Bulkhead.new key s.coreSize s.queueSize
    breaker := Breaker.new (BreakerSettings.ofCommand key s) }

def record (c : Command) (now : Instant) (p : Permission) (o : Outcome) : Command :=
  { c with breaker := c.breaker.record now p o }

/-- Begins an execution: refuses it, or lines it up under the ticket. -/
def enter (c : Command) (now : Instant) (t : Ticket) :
    Command × Except (CommandError ε) Execution :=
  match c.breaker.tryAcquire now with
  | (breaker, none) => ({ c with breaker }, .error (.circuitOpen c.key))
  | (breaker, some p) =>
    match c.bulkhead.tryEnter with
    | (bulkhead, false) =>
      -- the breaker let the call pass, so it is owed an outcome
      (({ c with breaker, bulkhead } : Command).record now p .infrastructureFailure,
        .error (.rejected c.key))
    | (bulkhead, true) =>
      ({ c with breaker, bulkhead := bulkhead.lineUp t },
        .ok (.queued p (now + c.settings.timeout)))

/-- Whether the execution in line under the ticket may start its operation. -/
def canStart (c : Command) (t : Ticket) : Bool := c.bulkhead.canStart t

/-- Takes the slot; the operation starts. This cannot fail: only a bulkhead that is shut down would refuse a
slot to a call that it let in, and none ever is. -/
def start (c : Command) (x : Execution) : Command × Execution :=
  ({ c with bulkhead := c.bulkhead.start }, .running x.permission x.deadline)

/-- Takes the end of the operation as the end of the execution. -/
def conclude [FailureKind ε] (c : Command) (now : Instant) (x : Execution) (e : Ending ε α) :
    Command × Except (CommandError ε) α :=
  match e with
  | .result r =>
    (c.record now x.permission (Outcome.ofResult r), r.mapError CommandError.execution)
  | .broken reason =>
    (c.record now x.permission .infrastructureFailure, .error (.aborted c.key reason))

/-- Ends the execution at its deadline. In line it gives its place up. -/
def expire (c : Command) (now : Instant) (t : Ticket) (x : Execution) :
    Command × CommandError ε :=
  let c :=
    match x with
    | .queued _ _ => { c with bulkhead := c.bulkhead.giveUp t }
    | .running _ _ => c
  (c.record now x.permission .infrastructureFailure, .timeout c.key c.settings.timeout)

/-- Drops the execution: its caller no longer waits for it. -/
def abandon (c : Command) (t : Ticket) (x : Execution) : Command :=
  match x with
  | .queued _ _ => { c with bulkhead := c.bulkhead.giveUp t }
  | .running _ _ => c

/-- The operation of the ticket has ended and gives its slot back. -/
def release (c : Command) (t : Ticket) : Command :=
  { c with bulkhead := c.bulkhead.finish t }

end Command

end ServiceBinding
