import Mathlib.Logic.Function.Basic
import ServiceBinding.Component.Direct
import ServiceBinding.Proxy.Call
import ServiceBinding.Proxy.Recheck

/-!
# Runs of a proxy that many tasks share

Any number of callers and rechecks use one proxy. Each is a task under a ticket of its own and goes
on in pieces; a piece is what `Proxy.Rebind`, `Proxy.Recheck` and `Proxy.Call` let happen at once.
Between two pieces of one task there may be any pieces of the others, and a task may be dropped
wherever it waits.

Nothing is assumed of the registry, the components and the providers: what they answer, and when, is
part of the events. So a statement about every `Run` is one about every order of the pieces and every
behaviour of what surrounds the proxy. Two waits are freer here than in an executor: a task whose
turn has come may wait on, and its deadline may end that wait.
-/

namespace ServiceBinding

namespace Proxy

/-! ## Tasks -/

/-- What a caller comes for. -/
inductive Request
  /-- A binding, for later calls. -/
  | connect
  /-- A call from `site`, whose result is read by `read`. -/
  | call (site : CallSite) (read : Json.Value → Option Json.Value)

/-- The place that the caller's errors name. -/
def Request.site? : Request → Option CallSite
  | .connect => none
  | .call site _ => some site

/-- How far a task has come. -/
inductive Stage
  | unstarted
  /-- A caller waits for a binding. -/
  | rebinding (q : Request) (position : Rebind)
  /-- A call runs on the binding it was dispatched on. -/
  | calling (site : CallSite) (read : Json.Value → Option Json.Value) (b : Bound)
  | rechecking (position : Recheck)
  /-- Over, with what the caller got. Rechecks and dropped tasks bring nothing. -/
  | ended (result : Option (Except InvocationError Json.Value))

/-- What lets a task go on. -/
inductive Signal
  | request (q : Request)
  | recheck
  /-- Its turn to bind has come; the components are those of the moment. -/
  | turn (cs : Components)
  | registry (cs : Components) (answer : Except RegistryError (Option Entry))
  | component (answer : Except BindError Binding)
  /-- The command of its call has ended. -/
  | command (result : Except (CommandError InvocationError) Json.Value)
  | deadline
  | drop

/-- The stage of a caller that got a binding, or got none. -/
def Request.resume : Request → Except InvocationError Bound → Stage
  | .connect, r => .ended (some (r.map fun _ => .null))
  | .call site read, .ok b => .calling site read b
  | .call site read, .error e => .ended (some (handOver site read (.error e)))

/-- The proxy and the caller after a piece of its way to a binding. -/
def Request.follow (q : Request) : Proxy × RebindProgress → Proxy × Stage
  | (p, .wait position) => (p, .rebinding q position)
  | (p, .done r) => (p, q.resume r)

/-- The proxy and a recheck after a piece of it. -/
def followRecheck : Proxy × RecheckProgress → Proxy × Stage
  | (p, .wait position) => (p, .rechecking position)
  | (p, .done ()) => (p, .ended none)

/-- A caller that waits for a binding goes on, if the signal is one it waits for. -/
def advanceRebind (p : Proxy) (now : Instant) (t : Ticket) (q : Request) :
    Rebind → Signal → Option (Proxy × Stage)
  | .queued observed _, .turn _ =>
    if p.hasTurn t then some (q.follow (p.takeTurn now t observed)) else none
  | .lookingUp _, .registry cs answer => some (q.follow (p.lookedUp now t cs answer))
  | .binding _ _ versioning _, .component answer =>
    some (q.follow (p.bindEnded now t versioning answer))
  | position, .deadline =>
    if position.deadline ≤ now then some (q.follow (p.timedOut now t position)) else none
  | _, .drop => some (p.leaveLine t, .ended none)
  | _, _ => none

/-- A recheck goes on, if the signal is one it waits for. -/
def advanceRecheck (p : Proxy) (now : Instant) (t : Ticket) :
    Recheck → Signal → Option (Proxy × Stage)
  | .lookingUp observed seen _, .registry _ answer =>
    some (followRecheck (p.recheckLookedUp t observed seen answer))
  | .queued observed properties, .turn cs =>
    if p.hasTurn t then some (followRecheck (p.recheckTurn now t cs observed properties)) else none
  | .binding _ _ versioning _, .component answer =>
    some (followRecheck (p.recheckBindEnded now t versioning answer))
  | position, .deadline =>
    match position.deadline? with
    | some d => if d ≤ now then some (followRecheck (p.recheckTimedOut now t position)) else none
    | none => none
  | _, .drop => some (p.leaveLine t, .ended none)
  | _, _ => none

/-- A task goes on, if the signal is one it waits for. -/
def advance (p : Proxy) (now : Instant) (t : Ticket) : Stage → Signal → Option (Proxy × Stage)
  | .unstarted, .request q => some (q.follow (p.enter now t))
  | .unstarted, .recheck => some (followRecheck (p.beginRecheck now))
  | .rebinding q position, signal => p.advanceRebind now t q position signal
  | .calling site read b, .command result =>
    let (p, r) := p.concludeCall b result
    some (p, .ended (some (handOver site read r)))
  | .calling .., .drop => some (p, .ended none)
  | .rechecking position, signal => p.advanceRecheck now t position signal
  | _, _ => none

end Proxy

/-! ## The shared proxy -/

/-- A proxy and the tasks that use it. -/
structure SharedProxy where
  proxy : Proxy
  now : Instant := 0
  stage : Ticket → Proxy.Stage := fun _ => .unstarted

namespace SharedProxy

/-- What happens at once: time passes, or one task goes on. -/
inductive Event
  | pass (d : Span)
  | wake (t : Ticket) (signal : Proxy.Signal)

def step (s : SharedProxy) : Event → Option SharedProxy
  | .pass d => some { s with now := s.now + d }
  | .wake t signal =>
    (s.proxy.advance s.now t (s.stage t) signal).map fun (proxy, stage) =>
      { s with proxy, stage := Function.update s.stage t stage }

/-- A new proxy, which no task has used. -/
def new (descriptor : ApiDescriptor) (settings : ProxySettings) (now : Instant) : SharedProxy :=
  { proxy := { descriptor, settings }, now }

/-- A run: the states a new proxy goes through and what happens in each. A run that is to end goes on
with events in which no time passes. -/
structure Run where
  state : Nat → SharedProxy
  event : Nat → Event
  starts : ∃ descriptor settings now, state 0 = new descriptor settings now
  steps : ∀ n, (state n).step (event n) = some (state (n + 1))

/-! ## Runs from lists of events -/

/-- The state after the events, of which those that cannot happen are passed over. -/
def after (s : SharedProxy) (es : List Event) : SharedProxy :=
  es.foldl (fun s e => (s.step e).getD s) s

/-- Whether the events can happen one after the other. -/
def admits (s : SharedProxy) : List Event → Bool
  | [] => true
  | e :: es =>
    match s.step e with
    | some s => s.admits es
    | none => false

theorem step_after_take {s : SharedProxy} {es : List Event} (h : s.admits es = true) (n : Nat) :
    (s.after (es.take n)).step (es.getD n (.pass 0)) = some (s.after (es.take (n + 1))) := by
  induction es generalizing s n with
  | nil => simp [after, step]
  | cons e es ih =>
    cases hs : s.step e with
    | none => simp [admits, hs] at h
    | some s' =>
      have htail : s'.admits es = true := by simpa [admits, hs] using h
      cases n with
      | zero => simp [after, hs]
      | succ n => simpa [after, hs] using ih htail n

/-- The run of a new proxy in which the events happen. -/
def Run.ofEvents (descriptor : ApiDescriptor) (settings : ProxySettings) (es : List Event)
    (h : (new descriptor settings 0).admits es = true) : Run where
  state n := (new descriptor settings 0).after (es.take n)
  event n := es.getD n (.pass 0)
  starts := ⟨descriptor, settings, 0, rfl⟩
  steps := step_after_take h

/-! ## A small world for examples -/

namespace Sample

def finder : ApiDescriptor := { api := "finder" }

def components : Components := Components.ofList [Direct.component]

/-- What the registry holds of a provider. -/
def entry (id : String) : Entry := ⟨Direct.properties finder id, 60, none⟩

def binding (id : String) : Binding := ⟨Direct.name, (entry id).properties, finder.api, id⟩

/-- A caller binds the proxy to a provider, undisturbed. -/
def binds (t : Ticket) (q : Proxy.Request) (id : String) : List Event :=
  [.wake t (.request q), .wake t (.turn components),
    .wake t (.registry components (.ok (some (entry id)))), .wake t (.component (.ok (binding id)))]

/-- A recheck binds the proxy to a provider, undisturbed. -/
def rechecks (t : Ticket) (id : String) : List Event :=
  [.wake t .recheck, .wake t (.registry components (.ok (some (entry id)))),
    .wake t (.turn components), .wake t (.component (.ok (binding id)))]

end Sample

end SharedProxy

end ServiceBinding
