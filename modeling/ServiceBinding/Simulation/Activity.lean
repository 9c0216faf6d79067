import ServiceBinding.Simulation.Bindings
import ServiceBinding.Simulation.Calls
import ServiceBinding.Simulation.Reply

/-!
# Activities

An action of a scenario may have to wait. What it then waits in is an activity, which goes on from
one wait to the next: `resume?` goes on with an activity whose wait has ended, `expire?` with one
whose deadline has come, and `drop` gives one up. The workers of the background are activities that
wait for the next tick of their interval.
-/

namespace ServiceBinding.Simulation

open Json

/-- What an application does and may have to wait for. -/
inductive Action
  | register (via : Via) (e : Entry)
  | renew (via : Via) (e : Entry)
  | deregister (via : Via) (key : ServiceKey) (instanceId : String)
  | lookup (via : Via) (key : ServiceKey) (save : Option String)
  | list (via : Via) (key : ServiceKey)
  | count
  | evict
  | clear
  | publish (p : Properties)
  | withdraw (key : ServiceKey)
  | renewAll
  | bind (d : ApiDescriptor) (p : Properties) (name : Option String)
  | callBinding (name : String) (i : Invocation)
  | exportProvider (component : String) (d : ApiDescriptor) (p : Provider Service) (label : String)
      (lease : Option Span) (via : Via)
  | connect (proxy : String)
  /-- A call whose result is read by `read`. -/
  | call (proxy : String) (i : Invocation) (read : Value → Option Value)
  | recheck (proxy : String)
  | execute (key : String) (w : Work)

/-- Why a call needs a binding. -/
inductive Purpose
  | connect
  | call (i : Invocation) (read : Value → Option Value)

/-- Where an action or a worker waits. -/
inductive Activity
  | begins (a : Action)
  | lookup (l : World.PendingLookup) (save : Option String)
  | bind (c : Component) (d : ApiDescriptor) (p : Properties) (ready : Instant)
      (name : Option String)
  | callBinding (due : Instant) (fate : Fate InvocationError Value)
  | execute (r : World.CommandRun)
  | rebind (number : Nat) (r : RebindRun) (purpose : Purpose)
  | call (number : Nat) (b : Bound) (r : World.CommandRun) (read : Value → Option Value)
  | recheck (number : Nat) (r : RecheckRun)
  /-- Renews what is exported at every tick; before the first tick there is no next one. -/
  | renewals (next : Option Instant)
  /-- Rechecks a proxy at every tick but the first. -/
  | rechecks (number : Nat) (next : Option Instant) (running : Option RecheckRun)

/-- What comes of an activity that goes on. -/
inductive Next
  | waits (a : Activity)
  | ends (r : Reply)
  /-- It breaks off with a text. -/
  | breaks (text : String)

namespace World

/-! ## Calls on proxies -/

/-- The place in the simulated consumer from which calls are made. -/
def callSite : CallSite := "scenario"

/-- The end of a call's command on a binding. -/
def finishCall (w : World) (number : Nat) (b : Bound) (read : Value → Option Value)
    (r : Except (CommandError InvocationError) Value) : World × Next :=
  match w.proxies.get? number with
  | none => (w, .ends .nothing)
  | some u =>
    let (p, result) := u.proxy.concludeCall b r
    (w.setProxy number p, .ends (.answer (Proxy.handOver callSite read result)))

private def followCommand (w : World) (number : Nat) (b : Bound) (read : Value → Option Value)
    (p : Progress CommandRun (Except (CommandError InvocationError) Value)) : World × Next :=
  match p with
  | .wait r => (w, .waits (.call number b r read))
  | .done r => w.finishCall number b read r

private def followBinding (w : World) (number : Nat) (purpose : Purpose)
    (p : Progress RebindRun (Fate InvocationError Bound)) : World × Next :=
  match p, purpose with
  | .wait r, _ => (w, .waits (.rebind number r purpose))
  | .done (.broken text), _ => (w, .breaks text)
  | .done (.result (.ok _)), .connect => (w, .ends (.answer (.ok .null)))
  | .done (.result (.error e)), .connect => (w, .ends (.answer (.error e)))
  | .done (.result (.error e)), .call _ read =>
    (w, .ends (.answer (Proxy.handOver callSite read (.error e))))
  | .done (.result (.ok b)), .call i read =>
    match w.proxies.get? number with
    | none => (w, .ends .nothing)
    | some u =>
      let (w, p) := w.beginCommand (u.proxy.descriptor.commandKey i.method)
        (.callBegins b.binding (Proxy.request b i))
      w.followCommand number b read p

/-- The status of a proxy. -/
def statusOf (w : World) (number : Nat) : Reply :=
  match w.proxies.get? number with
  | some u => .status u.proxy.connection
  | none => .nothing

/-- Goes on with a recheck that was asked for. -/
private def followRecheckCall (number : Nat)
    (p : World × Progress RecheckRun (Except String Unit)) : World × Next :=
  match p with
  | (w, .wait r) => (w, .waits (.recheck number r))
  | (w, .done (.ok ())) => (w, .ends (w.statusOf number))
  | (w, .done (.error text)) => (w, .breaks text)

/-- Goes on with a recheck of a worker, which waits for the next tick when it is over. -/
private def followRecheckRun (next : Option Instant) (number : Nat)
    (p : World × Progress RecheckRun (Except String Unit)) : World × Next :=
  match p with
  | (w, .wait r) => (w, .waits (.rechecks number next (some r)))
  | (w, .done (.ok ())) => (w, .waits (.rechecks number next none))
  | (w, .done (.error text)) => (w, .breaks text)

/-! ## Beginning -/

private def beginOnProxy (w : World) (name : String)
    (f : Nat → ProxyInUse → World × Next) : World × Next :=
  match w.namedProxy? name with
  | some (number, u) => f number u
  | none => (w, .ends .nothing)

/-- Begins an action. -/
def startAction (w : World) (a : Action) : World × Next :=
  let ofRegistry (r : World × Except RegistryError Unit) : World × Next :=
    (r.1, .ends (Reply.ofRegistry r.2))
  match a with
  | .register via e => ofRegistry (w.register via e)
  | .renew via e => ofRegistry (w.renew via e)
  | .deregister via key instanceId => ofRegistry (w.deregister via key instanceId)
  | .lookup via key save =>
    let (w, l) := w.beginLookup via key
    (w, .waits (.lookup l save))
  | .list via key =>
    match w.list via key with
    | .ok es => (w, .ends (.entries (es.map (EntryView.at w.now))))
    | .error e => (w, .ends (.registryError e))
  | .count => (w, .ends (.count (w.registry.count w.now)))
  | .evict =>
    let (registry, n) := w.registry.evict w.now
    ({ w with registry }, .ends (.count n))
  | .clear => ({ w with registry := w.registry.clear }, .ends .nothing)
  | .publish p =>
    match w.publish p with
    | (w, some (.ok e)) => (w, .ends (.entry (some (EntryView.at w.now e))))
    | (w, some (.error e)) => (w, .ends (.registryError e))
    | (w, none) => (w, .ends .nothing)
  | .withdraw key =>
    match w.withdraw key with
    | (w, some r) => (w, .ends (Reply.ofRegistry r))
    | (w, none) => (w, .ends .nothing)
  | .renewAll =>
    match w.exporter with
    | some x =>
      let (w, n) := w.renewAll x
      (w, .ends (.count n))
    | none => (w, .ends .nothing)
  | .bind d p name =>
    match w.components.select d p with
    | .error e => (w, .ends (.bindError e))
    | .ok c => (w, .waits (.bind c d p (w.now + c.latency) name))
  | .callBinding name i =>
    match w.bindings.get? name with
    | none => (w, .ends .nothing)
    | some b =>
      let (w, due, fate) := w.beginCall b i
      (w, .waits (.callBinding due fate))
  | .exportProvider component d p label lease via =>
    match w.exportProvider component d p label with
    | (w, .error e) => (w, .ends (.bindError e))
    | (w, .ok properties) =>
      match lease with
      | none => (w, .ends (.exported properties none))
      | some lease =>
        let (w, r) := w.register via ⟨properties, lease, none⟩
        (w, .ends (.exported properties (some r)))
  | .connect name =>
    w.beginOnProxy name fun number u =>
      let (w, p) := w.beginRebind number u
      w.followBinding number .connect p
  | .call name i read =>
    w.beginOnProxy name fun number u =>
      let (w, p) := w.beginRebind number u
      w.followBinding number (.call i read) p
  | .recheck name =>
    w.beginOnProxy name fun number u => followRecheckCall number (w.beginRecheck number u)
  | .execute key work =>
    match w.beginCommand key (.workBegins work) with
    | (w, .wait r) => (w, .waits (.execute r))
    | (w, .done r) => (w, .ends (.executed r))

/-! ## Workers -/

/-- The text with which an interval of no length breaks off. -/
def zeroInterval : String := "`period` must be non-zero."

/-- Whether a proxy is still in use: it has a name, or another activity is about it. -/
private def isInUse (w : World) (number : Nat) (others : List Nat) : Bool :=
  w.proxyNames.values.contains number || others.contains number

private def tickRenewals (w : World) (next : Instant) : World × Next :=
  match w.exporter with
  | none => (w, .ends .nothing)
  | some x =>
    let (w, _) := w.renewAll x
    (w, .waits (.renewals (some (next + x.settings.renewalInterval))))

private def tickRechecks (w : World) (number : Nat) (next : Instant) (others : List Nat) :
    World × Next :=
  match w.proxies.get? number with
  | none => (w, .ends .nothing)
  | some u =>
    if w.isInUse number others then
      let next := some (next + u.proxy.settings.recheckInterval)
      followRecheckRun next number (w.beginRecheck number u)
    else (w, .ends .nothing)

/-- The first tick of an interval comes at once. -/
private def firstTick (w : World) (interval : Span) (next : Instant → Activity) :
    World × Next :=
  if interval = 0 then (w, .breaks zeroInterval) else (w, .waits (next (w.now + interval)))

/-! ## Going on -/

/-- Goes on with an activity whose wait has ended. `others` are the proxies that the other
activities are about. -/
def resume? (w : World) (others : List Nat) : Activity → Option (World × Next)
  | .begins a => some (w.startAction a)
  | .lookup l save =>
    (w.endLookup? l).map fun (w, fate) =>
      match fate with
      | .broken text => (w, .breaks text)
      | .result (.error e) => (w, .ends (.registryError e))
      | .result (.ok none) => (w, .ends (.entry none))
      | .result (.ok (some e)) =>
        let w :=
          match save with
          | some name => { w with saved := w.saved.set name e }
          | none => w
        (w, .ends (.entry (some (EntryView.at w.now e))))
  | .bind c d p ready name =>
    if w.now < ready then none
    else
      match c.bind w.hasProvider d p with
      | .error e => some (w, .ends (.bindError e))
      | .ok b =>
        let w :=
          match name with
          | some name => { w with bindings := w.bindings.set name b }
          | none => w
        some (w, .ends (.bound b))
  | .callBinding due fate =>
    if w.now < due then none
    else
      match fate with
      | .result r => some (w, .ends (.answer r))
      | .broken text => some (w, .breaks text)
  | .execute r =>
    (w.resumeCommand? takeWorkEnding? r).map fun
      | (w, .wait r) => (w, .waits (.execute r))
      | (w, .done r) => (w, .ends (.executed r))
  | .rebind number r purpose => do
    let u ← w.proxies.get? number
    let (w, p) ← w.resumeRebind? number u r
    return w.followBinding number purpose p
  | .call number b r read =>
    (w.resumeCommand? takeCallEnding? r).map fun (w, p) => w.followCommand number b read p
  | .recheck number r => do
    let u ← w.proxies.get? number
    let p ← w.resumeRecheck? number u r
    return followRecheckCall number p
  | .renewals none =>
    match w.exporter with
    | some x => some (w.firstTick x.settings.renewalInterval fun next => .renewals (some next))
    | none => some (w, .ends .nothing)
  | .renewals (some next) => if w.now < next then none else some (w.tickRenewals next)
  | .rechecks number none _ =>
    match w.proxies.get? number with
    | some u =>
      some (w.firstTick u.proxy.settings.recheckInterval fun next =>
        .rechecks number (some next) none)
    | none => some (w, .ends .nothing)
  | .rechecks number (some next) none =>
    if w.now < next then none else some (w.tickRechecks number next others)
  | .rechecks number next (some r) => do
    let u ← w.proxies.get? number
    let p ← w.resumeRecheck? number u r
    return followRecheckRun next number p

/-- Ends the wait of an activity whose deadline has come. -/
def expire? (w : World) : Activity → Option (World × Next)
  | .execute r =>
    (w.expireCommand? r).map fun (w, result) => (w, .ends (.executed result))
  | .rebind number r purpose => do
    let u ← w.proxies.get? number
    let (w, p) ← w.expireRebind? number u r
    return w.followBinding number purpose p
  | .call number b r read =>
    (w.expireCommand? r).map fun (w, result) => w.finishCall number b read result
  | .recheck number r => do
    let u ← w.proxies.get? number
    let p ← w.expireRecheck? number u r
    return followRecheckCall number p
  | .rechecks number next (some r) => do
    let u ← w.proxies.get? number
    let p ← w.expireRecheck? number u r
    return followRecheckRun next number p
  | _ => none

/-- Gives an activity up. -/
def drop (w : World) : Activity → World
  | .execute r => w.dropCommand r
  | .rebind number r _ => w.dropTurn number r.ticket
  | .call _ _ r _ => w.dropCommand r
  | .recheck number r => w.dropTurn number r.ticket
  | .rechecks number _ (some r) => w.dropTurn number r.ticket
  | _ => w

end World

namespace Activity

/-- The instants at which time alone ends a wait of the activity. -/
def dues : Activity → List Instant
  | .begins _ => []
  | .lookup l _ => (Pending.lookup l).due?.toList
  | .bind _ _ _ ready _ => [ready]
  | .callBinding due _ => [due]
  | .execute r => [r.execution.deadline]
  | .rebind _ r _ => r.position.deadline :: r.pending.due?.toList
  | .call _ _ r _ => [r.execution.deadline]
  | .recheck _ r => r.position.deadline?.toList ++ r.pending.due?.toList
  | .renewals next => next.toList
  | .rechecks _ next none => next.toList
  | .rechecks _ _ (some r) => r.position.deadline?.toList ++ r.pending.due?.toList

/-- The proxy that a caller's activity holds. -/
def proxy? : Activity → Option Nat
  | .rebind number _ _ => some number
  | .call number _ _ _ => some number
  | .recheck number _ => some number
  | .rechecks number _ (some _) => some number
  | _ => none

end Activity

end ServiceBinding.Simulation
