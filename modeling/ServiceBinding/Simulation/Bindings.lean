import ServiceBinding.Simulation.World

/-!
# Attempts of proxies to bind in the world

A proxy's call or recheck that waits, together with what it waits for: its turn, an answer from the
registry, or the time a component takes. One whose look-up breaks off breaks off with it, and leaves the
proxy as if it had been dropped.
-/

namespace ServiceBinding.Simulation

/-- What a proxy waits for. -/
inductive Pending
  | turn
  | lookup (l : World.PendingLookup)
  | component (ready : Instant)

/-- When the wait ends by itself. -/
def Pending.due? : Pending → Option Instant
  | .lookup (.onLink _ arrival _) => some arrival
  | .component ready => some ready
  | _ => none

/-- A call that waits for a binding. -/
structure RebindRun where
  ticket : Ticket
  position : Rebind
  pending : Pending

/-- A recheck that waits. -/
structure RecheckRun where
  ticket : Ticket
  position : Recheck
  pending : Pending

namespace World

/-- Drops a call or a recheck: it no longer waits for a turn or holds one. -/
def dropTurn (w : World) (number : Nat) (t : Ticket) : World :=
  match w.proxies.get? number with
  | some u => w.setProxy number (u.proxy.leaveLine t)
  | none => w

/-! ## Calls -/

/-- Keeps the proxy as a piece of a call leaves it; a look-up that follows is begun. -/
def followRebind (w : World) (number : Nat) (via : Via) (t : Ticket)
    (next : Proxy × Proxy.RebindProgress) :
    World × Progress RebindRun (Fate InvocationError Bound) :=
  let (p, progress) := next
  let w := w.setProxy number p
  match progress with
  | .done r => (w, .done (.result r))
  | .wait position =>
    match position with
    | .queued .. => (w, .wait ⟨t, position, .turn⟩)
    | .lookingUp _ =>
      let (w, l) := w.beginLookup via p.key
      (w, .wait ⟨t, position, .lookup l⟩)
    | .binding c .. => (w, .wait ⟨t, position, .component (w.now + c.latency)⟩)

/-- A call comes to a proxy. -/
def beginRebind (w : World) (number : Nat) (u : ProxyInUse) :
    World × Progress RebindRun (Fate InvocationError Bound) :=
  let (w, t) := w.takeNumber
  w.followRebind number u.via t (u.proxy.enter w.now t)

/-- Goes on with a call that waits for a binding, if it can. -/
def resumeRebind? (w : World) (number : Nat) (u : ProxyInUse) (r : RebindRun) :
    Option (World × Progress RebindRun (Fate InvocationError Bound)) :=
  let p := u.proxy
  let t := r.ticket
  match r.position, r.pending with
  | .queued observed _, .turn =>
    if p.hasTurn t then some (w.followRebind number u.via t (p.takeTurn w.now t observed)) else none
  | .lookingUp _, .lookup l =>
    (w.endLookup? l).map fun
      | (w, .result found) =>
        w.followRebind number u.via t (p.lookedUp w.now t w.components found)
      | (w, .broken text) => (w.setProxy number (p.leaveLine t), .done (.broken text))
  | .binding c properties versioning _, .component ready =>
    if w.now < ready then none
    else
      let answer := c.bind w.hasProvider p.descriptor properties
      some (w.followRebind number u.via t (p.bindEnded w.now t versioning answer))
  | _, _ => none

/-- Ends a wait for a binding that has lasted too long. -/
def expireRebind? (w : World) (number : Nat) (u : ProxyInUse) (r : RebindRun) :
    Option (World × Progress RebindRun (Fate InvocationError Bound)) :=
  if w.now < r.position.deadline then none
  else some (w.followRebind number u.via r.ticket (u.proxy.timedOut w.now r.ticket r.position))

/-! ## Rechecks -/

/-- Keeps the proxy as a piece of a recheck leaves it; a look-up that follows is begun. A recheck ends with
nothing, or breaks off with a text. -/
def followRecheck (w : World) (number : Nat) (via : Via) (t : Ticket)
    (next : Proxy × Proxy.RecheckProgress) : World × Progress RecheckRun (Except String Unit) :=
  let (p, progress) := next
  let w := w.setProxy number p
  match progress with
  | .done () => (w, .done (.ok ()))
  | .wait position =>
    match position with
    | .queued .. => (w, .wait ⟨t, position, .turn⟩)
    | .lookingUp .. =>
      let (w, l) := w.beginLookup via p.key
      (w, .wait ⟨t, position, .lookup l⟩)
    | .binding c .. => (w, .wait ⟨t, position, .component (w.now + c.latency)⟩)

/-- A recheck of a proxy begins. -/
def beginRecheck (w : World) (number : Nat) (u : ProxyInUse) :
    World × Progress RecheckRun (Except String Unit) :=
  let (w, t) := w.takeNumber
  w.followRecheck number u.via t (u.proxy.beginRecheck w.now)

/-- Goes on with a recheck, if it can. -/
def resumeRecheck? (w : World) (number : Nat) (u : ProxyInUse) (r : RecheckRun) :
    Option (World × Progress RecheckRun (Except String Unit)) :=
  let p := u.proxy
  let t := r.ticket
  match r.position, r.pending with
  | .lookingUp observed seen _, .lookup l =>
    (w.endLookup? l).map fun
      | (w, .result found) =>
        w.followRecheck number u.via t (p.recheckLookedUp t observed seen found)
      | (w, .broken text) => (w.setProxy number (p.leaveLine t), .done (.error text))
  | .queued observed properties, .turn =>
    if p.hasTurn t then
      some (w.followRecheck number u.via t
        (p.recheckTurn w.now t w.components observed properties))
    else none
  | .binding c properties versioning _, .component ready =>
    if w.now < ready then none
    else
      let answer := c.bind w.hasProvider p.descriptor properties
      some (w.followRecheck number u.via t (p.recheckBindEnded w.now t versioning answer))
  | _, _ => none

/-- Ends a wait of a recheck that has lasted too long. -/
def expireRecheck? (w : World) (number : Nat) (u : ProxyInUse) (r : RecheckRun) :
    Option (World × Progress RecheckRun (Except String Unit)) :=
  match r.position.deadline? with
  | none => none
  | some deadline =>
    if w.now < deadline then none
    else
      some (w.followRecheck number u.via r.ticket
        (u.proxy.recheckTimedOut w.now r.ticket r.position))

end World

end ServiceBinding.Simulation
