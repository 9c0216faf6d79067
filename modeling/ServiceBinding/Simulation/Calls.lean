import ServiceBinding.Simulation.Restaurants
import ServiceBinding.Simulation.World

/-!
# Calls of providers and executions of commands in the world

What a call of a provider comes to is known when it begins; only its end lies in the future. An
operation runs by itself, holding a slot of its command until it ends, and leaves its ending for the
execution that waits for it.
-/

namespace ServiceBinding.Simulation

open Json

namespace World

/-! ## Providers -/

private def noteCall (w : World) (counter : Nat) (method : String) : World :=
  { w with calls := w.calls.set counter (((w.calls.get? counter).getD []) ++ [method]) }

/-- What a call does: it may change the world, it ends at some instant, and it may break off. -/
abbrev Calling := ExceptT String (StateM (World × Instant))

/-- The service of a provider answers an invocation. -/
private def serveService (h : Hosted) (i : Invocation) :
    Calling (Except InvocationError Value) := do
  let (w, _) ← get
  let earlier := (((w.calls.get? h.counter).getD []).filter (· = i.method)).length
  let w := w.noteCall h.counter i.method
  set (w, w.now)
  match h.service with
  | .finder api => return (Finder.router api).invoke i
  | .script s =>
    match s.behaviour? i.method earlier with
    | none => return .error (.serialization (.unknownMethod i.method))
    | some behaviour =>
      set (w, w.now + behaviour.delay)
      match behaviour.answer.toFate i with
      | .result r => return r
      | .broken text => throw text

/-- Begins a call on a binding: when it ends, and how. -/
def beginCall (w : World) (b : Binding) (i : Invocation) :
    World × Instant × Fate InvocationError Value :=
  match (Direct.call w.providers serveService b i : Calling _).run.run (w, w.now) with
  | (.ok r, w, due) => (w, due, .result r)
  | (.error text, w, due) => (w, due, .broken text)

/-! ## Operations -/

/-- The ending of an operation that runs under a ticket. -/
def endingOf {ε α : Type} (t : Ticket) : Fate ε α → Ending ε α
  | .result r => .result r
  | .broken text =>
    .broken ("task " ++ toString t ++ " panicked with message " ++ Text.quoted text)

private def replaceOperation (w : World) (t : Ticket) (o : Operation) : World :=
  { w with operations := w.operations.map fun r => if r.ticket = t then { r with operation := o } else r }

/-- Ends the operation of a ticket; it gives its slot back. -/
private def endOperation (w : World) (r : RunningOperation) : World :=
  let w := { w with operations := w.operations.filter fun other => other.ticket ≠ r.ticket }
  w.setCommand ((w.command r.command).release r.ticket)

/-- Goes on with an operation, if it can. -/
def resumeOperation? (w : World) (r : RunningOperation) : Option World :=
  match r.operation with
  | .callBegins b i =>
    let (w, due, fate) := w.beginCall b i
    some (w.replaceOperation r.ticket (.call due fate))
  | .workBegins work =>
    some (w.replaceOperation r.ticket (.work (w.now + work.delay) work.fate))
  | .call due fate =>
    if w.now < due then none
    else
      let w := w.endOperation r
      some { w with callEndings := w.callEndings.set r.ticket (endingOf r.ticket fate) }
  | .work due fate =>
    if w.now < due then none
    else
      let w := w.endOperation r
      some { w with workEndings := w.workEndings.set r.ticket (endingOf r.ticket fate) }

/-- When an operation ends by itself. -/
def operationDue? (r : RunningOperation) : Option Instant :=
  match r.operation with
  | .call due _ => some due
  | .work due _ => some due
  | _ => none

/-- Takes the ending of a call. -/
def takeCallEnding? (w : World) (t : Ticket) : Option (World × Ending InvocationError Value) :=
  (w.callEndings.get? t).map fun e => ({ w with callEndings := w.callEndings.erase t }, e)

/-- Takes the ending of a scripted operation. -/
def takeWorkEnding? (w : World) (t : Ticket) : Option (World × Ending WorkError Value) :=
  (w.workEndings.get? t).map fun e => ({ w with workEndings := w.workEndings.erase t }, e)

/-! ## Executions -/

/-- An execution of a command that waits. -/
structure CommandRun where
  key : String
  ticket : Ticket
  execution : Execution
  operation : Operation

/-- Begins to execute an operation under a command. -/
def beginCommand {ε : Type} (w : World) (key : String) (operation : Operation) :
    World × Progress CommandRun (Except (CommandError ε) Value) :=
  let (w, ticket) := w.takeNumber
  match (w.command key).enter w.now ticket with
  | (c, .ok execution) => (w.setCommand c, .wait { key, ticket, execution, operation })
  | (c, .error e) => (w.setCommand c, .done (.error e))

/-- Goes on with an execution, if it can. -/
def resumeCommand? {ε : Type} [FailureKind ε]
    (takeEnding? : World → Ticket → Option (World × Ending ε Value)) (w : World) (r : CommandRun) :
    Option (World × Progress CommandRun (Except (CommandError ε) Value)) :=
  match r.execution with
  | .queued .. =>
    let c := w.command r.key
    if c.canStart r.ticket then
      let (c, execution) := c.start r.execution
      let w := w.setCommand c
      some ({ w with operations := w.operations ++ [⟨r.ticket, r.key, r.operation⟩] },
        .wait { r with execution })
    else none
  | .running .. =>
    (takeEnding? w r.ticket).map fun (w, ending) =>
      let (c, result) := (w.command r.key).conclude w.now r.execution ending
      (w.setCommand c, .done result)

/-- Ends an execution whose deadline has come. -/
def expireCommand? {ε : Type} (w : World) (r : CommandRun) :
    Option (World × Except (CommandError ε) Value) :=
  if w.now < r.execution.deadline then none
  else
    let (c, e) := (w.command r.key).expire w.now r.ticket r.execution
    some (w.setCommand c, .error e)

/-- Drops an execution. -/
def dropCommand (w : World) (r : CommandRun) : World :=
  w.setCommand ((w.command r.key).abandon r.ticket r.execution)

end World

end ServiceBinding.Simulation
