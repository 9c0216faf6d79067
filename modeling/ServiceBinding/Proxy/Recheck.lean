import ServiceBinding.Proxy.Rebind

/-!
# Rechecking a binding

A recheck compares a proxy with the registry. If the provider has left the registry the binding is
taken down; if the registry names another provider, or there is no binding, it binds by what it
found, in its turn. A binding in use gives way only to a new binding, not to a failed attempt, and a
recheck makes no attempt if another one was applied since it began. It waits for its turn without
limit; what the registry or the component do not answer in time leaves the proxy as it is.

Main definitions: `beginRecheck`, `recheckLookedUp`, `recheckTurn`, `recheckBindEnded` and
`recheckTimedOut`.
-/

namespace ServiceBinding

/-- Where a recheck waits. -/
inductive Recheck
  /-- For the registry. The recheck began in the generation `observed` with the connection `seen`. -/
  | lookingUp (observed : Nat) (seen : Connection) (deadline : Instant)
  /-- For its turn to bind by what it found. -/
  | queued (observed : Nat) (properties : Properties)
  /-- For the component. -/
  | binding (c : Component) (properties : Properties) (versioning : Option ApiDefinition)
      (deadline : Instant)

def Recheck.deadline? : Recheck → Option Instant
  | .lookingUp _ _ d => some d
  | .queued .. => none
  | .binding _ _ _ d => some d

namespace Proxy

abbrev RecheckProgress := Progress Recheck Unit

/-- A recheck begins. One of a proxy that can never be bound ends at once. -/
def beginRecheck (p : Proxy) (now : Instant) : Proxy × RecheckProgress :=
  match p.connection with
  | .unbound _ _ (some _) => (p, .done ())
  | seen =>
    ({ p with lookups := p.lookups + 1 },
      .wait (.lookingUp p.generation seen (now + p.settings.rebindTimeout)))

/-- The registry answers. -/
def recheckLookedUp (p : Proxy) (t : Ticket) (observed : Nat) (seen : Connection)
    (answer : Except RegistryError (Option Entry)) : Proxy × RecheckProgress :=
  match answer, seen with
  | .error _, _ => (p, .done ())
  | .ok none, .bound b =>
    (p.disconnect b .noLiveProvider "provider no longer registered", .done ())
  | .ok none, .unbound .. => (p, .done ())
  | .ok (some e), .bound b =>
    if e.properties = b.binding.properties then (p, .done ())
    else (p.lineUp t, .wait (.queued observed e.properties))
  | .ok (some e), .unbound .. => (p.lineUp t, .wait (.queued observed e.properties))

/-- The recheck's attempt ends, and its turn with it. -/
def concludeRecheck (p : Proxy) (now : Instant) (t : Ticket)
    (r : Except BindFailure (Binding × Option ApiDefinition)) : Proxy × RecheckProgress :=
  match r, p.connection with
  -- a binding that works is not given up for none
  | .error _, .bound _ => (p.leaveLine t, .done ())
  | _, _ => ((p.apply now r).1.leaveLine t, .done ())

/-- The recheck's turn comes. -/
def recheckTurn (p : Proxy) (now : Instant) (t : Ticket) (cs : Components) (observed : Nat)
    (properties : Properties) : Proxy × RecheckProgress :=
  if p.generation ≠ observed then (p.leaveLine t, .done ())
  else
    match p.plan cs properties with
    | .error failure => p.concludeRecheck now t (.error failure)
    | .ok (c, versioning) =>
      (p, .wait (.binding c properties versioning (now + p.settings.rebindTimeout)))

/-- The component answers. -/
def recheckBindEnded (p : Proxy) (now : Instant) (t : Ticket) (versioning : Option ApiDefinition)
    (answer : Except BindError Binding) : Proxy × RecheckProgress :=
  match answer with
  | .ok binding => p.concludeRecheck now t (.ok (binding, versioning))
  | .error e => p.concludeRecheck now t (.error (.ofError e))

/-- A wait lasts too long. -/
def recheckTimedOut (p : Proxy) (now : Instant) (t : Ticket) : Recheck → Proxy × RecheckProgress
  | .binding .. => p.concludeRecheck now t (.error .bindTimeout)
  | _ => (p, .done ())

end Proxy

end ServiceBinding
