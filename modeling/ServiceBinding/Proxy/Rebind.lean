import ServiceBinding.Proxy.Basic

/-!
# How a call gets a binding

A call on a bound proxy takes its binding. On an unbound one it makes an attempt to bind, unless the
last attempt failed not long ago: it waits for its turn, looks the service up and binds. If another
attempt was applied while it waited for its turn, it takes what that one brought. The call holds its
turn until its attempt is applied, and each of the three waits ends after the rebind timeout.

Each function below is what happens at once between two waits; `Progress` says whether another wait
follows. Main definitions: `enter`, `takeTurn`, `lookedUp`, `bindEnded` and `timedOut`.
-/

namespace ServiceBinding

/-- A further wait, or the end. -/
inductive Progress (σ ρ : Type u)
  | wait (s : σ)
  | done (r : ρ)

/-- Where a call waits for a binding. -/
inductive Rebind
  /-- For its turn. The call came in the generation `observed`. -/
  | queued (observed : Nat) (deadline : Instant)
  /-- For the registry. -/
  | lookingUp (deadline : Instant)
  /-- For the component. -/
  | binding (c : Component) (properties : Properties) (versioning : Option ApiDefinition)
      (deadline : Instant)

def Rebind.deadline : Rebind → Instant
  | .queued _ d => d
  | .lookingUp d => d
  | .binding _ _ _ d => d

namespace Proxy

/-- What a call that needs a binding gets. -/
abbrev RebindProgress := Progress Rebind (Except InvocationError Bound)

/-- Whether calls make no attempt at `now`. -/
def isThrottled (p : Proxy) (now : Instant) : Bool :=
  match p.retryAfter with
  | some instant => now < instant
  | none => false

/-- A call comes. -/
def enter (p : Proxy) (now : Instant) (t : Ticket) : Proxy × RebindProgress :=
  match p.connection with
  | .bound b => (p, .done (.ok b))
  | .unbound _ _ (some e) => (p, .done (.error (.binding e)))
  | .unbound _ _ none =>
    if p.isThrottled now then (p, .done p.current)
    else (p.lineUp t, .wait (.queued p.generation (now + p.settings.rebindTimeout)))

/-- The call's turn comes. -/
def takeTurn (p : Proxy) (now : Instant) (t : Ticket) (observed : Nat) : Proxy × RebindProgress :=
  if p.generation ≠ observed then (p.leaveLine t, .done p.current)
  else
    match p.connection with
    | .bound b => (p.leaveLine t, .done (.ok b))
    | .unbound .. =>
      ({ p with lookups := p.lookups + 1 }, .wait (.lookingUp (now + p.settings.rebindTimeout)))

/-- The call's attempt ends, and its turn with it. -/
def concludeRebind (p : Proxy) (now : Instant) (t : Ticket)
    (r : Except BindFailure (Binding × Option ApiDefinition)) : Proxy × RebindProgress :=
  let (p, outcome) := p.apply now r
  (p.leaveLine t, .done outcome)

/-- The registry answers. -/
def lookedUp (p : Proxy) (now : Instant) (t : Ticket) (cs : Components)
    (answer : Except RegistryError (Option Entry)) : Proxy × RebindProgress :=
  match p.foundEntry answer with
  | .error failure => p.concludeRebind now t (.error failure)
  | .ok entry =>
    match p.plan cs entry.properties with
    | .error failure => p.concludeRebind now t (.error failure)
    | .ok (c, versioning) =>
      (p, .wait (.binding c entry.properties versioning (now + p.settings.rebindTimeout)))

/-- The component answers. -/
def bindEnded (p : Proxy) (now : Instant) (t : Ticket) (versioning : Option ApiDefinition)
    (answer : Except BindError Binding) : Proxy × RebindProgress :=
  match answer with
  | .ok binding => p.concludeRebind now t (.ok (binding, versioning))
  | .error e => p.concludeRebind now t (.error (.ofError e))

/-- A wait lasts too long. -/
def timedOut (p : Proxy) (now : Instant) (t : Ticket) : Rebind → Proxy × RebindProgress
  | .queued .. =>
    (p.leaveLine t,
      .done (.error (p.unavailable .rebindTimeout "timed out waiting for an in-flight rebind")))
  | .lookingUp _ => p.concludeRebind now t (.error .lookupTimeout)
  | .binding .. => p.concludeRebind now t (.error .bindTimeout)

end Proxy

end ServiceBinding
