import Mathlib.Data.List.GetD
import Mathlib.Logic.Function.Basic
import ServiceBinding.Breaker.Operation
import ServiceBinding.Command.Execution
import ServiceBinding.Proofs.Trace

/-!
# Runs of a command that many calls share

Any number of calls go through one command. Each is under a ticket of its own and goes on in pieces; a
piece is one of those of `Command.Execution`, and between two pieces of one call there may be any
pieces of the others. The operation of a call is a task of its own: the call starts it when its turn
for a slot has come, and it runs until it ends, whether its call still waits for it or not.

Nothing is assumed of the operations. When one ends and how, and whether it ever does, is part of the
events. A call may be dropped wherever it waits; one that breaks off while it makes its operation is
dropped as soon as it is let in. A call that is woken at its deadline first takes what it can have, its
slot or the end of its operation, and gives up only then. Meanwhile the breaker may be looked at, and
switched by hand.
-/

namespace ServiceBinding

namespace SharedCommand

/-- How far a call has come; `ε` are the errors of operations and `α` their results. -/
inductive Stage (ε α : Type)
  | unstarted
  | waiting (x : Execution)
  /-- Over, with what the caller got. -/
  | returned (answer : Except (CommandError ε) α)
  | dropped

/-- How far the operation of a call has come. -/
inductive Work (ε α : Type)
  | unstarted
  | running
  | ended (e : Ending ε α)

/-- What happens at once. -/
inductive Event (ε α : Type)
  /-- Time passes. -/
  | pass (d : Span)
  /-- A call comes to the command. -/
  | call (t : Ticket)
  /-- A call in line takes its slot and starts its operation. -/
  | turn (t : Ticket)
  /-- The operation of a call ends. -/
  | finish (t : Ticket) (e : Ending ε α)
  /-- A call takes the end of its operation. -/
  | collect (t : Ticket)
  | deadline (t : Ticket)
  | drop (t : Ticket)
  /-- Someone else has the breaker do something. -/
  | tend (o : Breaker.Operation)

end SharedCommand

/-- Whether an operation of a breaker belongs to a call. -/
def Breaker.Operation.isOfCall : Breaker.Operation → Bool
  | .acquire | .record .. => true
  | .phase | .allowed | .health | .stats | .reset | .forceOpen => false

/-- A command and the calls that use it. -/
structure SharedCommand (ε α : Type) where
  command : Command
  now : Instant := 0
  stage : Ticket → SharedCommand.Stage ε α := fun _ => .unstarted
  work : Ticket → SharedCommand.Work ε α := fun _ => .unstarted

namespace SharedCommand

variable {ε α : Type} [FailureKind ε]

/-- Whether a waiting call can have what it waits for. -/
def isReady (s : SharedCommand ε α) (t : Ticket) : Execution → Bool
  | .queued _ _ => s.command.canStart t
  | .running _ _ =>
    match s.work t with
    | .ended _ => true
    | _ => false

/-- The stage of a call that has asked to begin. -/
def entered : Except (CommandError ε) Execution → Stage ε α
  | .ok x => .waiting x
  | .error e => .returned (.error e)

def step (s : SharedCommand ε α) : Event ε α → Option (SharedCommand ε α)
  | .pass d => some { s with now := s.now + d }
  | .call t =>
    match s.stage t with
    | .unstarted =>
      let (command, r) := s.command.enter s.now t
      some { s with command, stage := Function.update s.stage t (entered r) }
    | _ => none
  | .turn t =>
    match s.stage t with
    | .waiting (.queued p d) =>
      if s.command.canStart t then
        let (command, x) := s.command.start (.queued p d)
        some
          { s with
            command
            stage := Function.update s.stage t (.waiting x)
            work := Function.update s.work t .running }
      else none
    | _ => none
  | .finish t e =>
    match s.work t with
    | .running =>
      some { s with command := s.command.release t, work := Function.update s.work t (.ended e) }
    | _ => none
  | .collect t =>
    match s.stage t, s.work t with
    | .waiting (.running p d), .ended e =>
      let (command, answer) := s.command.conclude s.now (.running p d) e
      some { s with command, stage := Function.update s.stage t (.returned answer) }
    | _, _ => none
  | .deadline t =>
    match s.stage t with
    | .waiting x =>
      if x.deadline ≤ s.now ∧ s.isReady t x = false then
        let (command, e) := s.command.expire s.now t x
        some { s with command, stage := Function.update s.stage t (.returned (.error e)) }
      else none
    | _ => none
  | .drop t =>
    match s.stage t with
    | .waiting x =>
      some { s with command := s.command.abandon t x, stage := Function.update s.stage t .dropped }
    | _ => none
  | .tend o =>
    if o.isOfCall then none
    else
      let breaker := (s.command.breaker.perform s.now o).1
      some { s with command := { s.command with breaker } }

/-- A new command, which no call has used. -/
def new (key : String) (settings : CommandSettings) (now : Instant) : SharedCommand ε α :=
  { command := Command.new key settings, now }

/-- A run: the states a new command goes through and what happens in each. A run that is to end goes
on with events in which no time passes. -/
structure Run (ε α : Type) [FailureKind ε] where
  key : String
  settings : CommandSettings
  begins : Instant
  state : Nat → SharedCommand ε α
  event : Nat → Event ε α
  starts : state 0 = new key settings begins
  steps : ∀ n, (state n).step (event n) = some (state (n + 1))

/-- The run of a new command in which the events happen. -/
def Run.ofEvents (key : String) (settings : CommandSettings) (es : List (Event ε α))
    (h : Trace.admits step (new key settings 0 : SharedCommand ε α) es = true) : Run ε α where
  key := key
  settings := settings
  begins := 0
  state n := Trace.after step (new key settings 0) (es.take n)
  event n := es.getD n (.pass 0)
  starts := rfl
  steps := Trace.step_after_take (fun _ => rfl) h

theorem Run.event_ofEvents (key : String) (settings : CommandSettings) (es : List (Event ε α))
    (h : Trace.admits step (new key settings 0 : SharedCommand ε α) es = true) (n : Nat) :
    (Run.ofEvents key settings es h).event n ∈ es ∨
      (Run.ofEvents key settings es h).event n = .pass 0 := by
  simp only [ofEvents]
  by_cases hn : n < es.length
  · left
    rw [List.getD_eq_getElem es _ hn]
    exact List.getElem_mem hn
  · exact .inr (List.getD_eq_default es _ (Nat.le_of_not_lt hn))

namespace Sample

/-- One slot, and one place to wait for it. -/
def narrow : CommandSettings := { coreSize := 1, queueSize := 1, timeout := 10 }

end Sample

end SharedCommand

end ServiceBinding
