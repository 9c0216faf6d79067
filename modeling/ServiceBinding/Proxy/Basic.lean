import ServiceBinding.Bulkhead
import ServiceBinding.Component.Basic
import ServiceBinding.Proxy.Settings

/-!
# Service proxies

A proxy is a consumer's handle on one service. It is bound to one provider or unbound, and an
unbound proxy remembers why. Attempts to bind are made one at a time, in the order in which their
makers lined up; each attempt whose result is applied starts a new generation, whose number names
the binding it made. A failure that no other attempt can mend is final.

This module holds the state and what happens to it at once; `Proxy.Rebind` and `Proxy.Recheck` say
where calls and rechecks wait in between.
-/

namespace ServiceBinding

/-- A binding in use. -/
structure Bound where
  /-- Distinguishes the bindings of one proxy. -/
  number : Nat
  binding : Binding
  /-- The definition by which calls are made, of a versioned service. -/
  versioning : Option ApiDefinition

/-- Whether a proxy is bound. -/
inductive Connection
  /-- Why there is no binding; `fatal` holds the cause if no attempt can mend it. -/
  | unbound (reason : UnavailableReason) (message : String) (fatal : Option BindError)
  | bound (b : Bound)

/-- Why an attempt to bind failed. -/
inductive BindFailure
  | transient (reason : UnavailableReason) (message : String)
  | fatal (e : BindError)
  deriving DecidableEq, Inhabited

namespace BindFailure

def ofError (e : BindError) : BindFailure :=
  if e.isFatal then .fatal e else .transient .noLiveProvider e.message

def lookupTimeout : BindFailure := .transient .rebindTimeout "registry lookup timed out"

def bindTimeout : BindFailure := .transient .rebindTimeout "bind timed out"

end BindFailure

/-- The state of a consumer's handle on one service. -/
structure Proxy where
  descriptor : ApiDescriptor
  settings : ProxySettings
  connection : Connection := .unbound .notBound "not bound yet" none
  /-- Whose turn to bind it is, and who waits for theirs. -/
  line : List Ticket := []
  /-- The number of attempts applied. -/
  generation : Nat := 0
  /-- Before this instant calls make no attempt. -/
  retryAfter : Option Instant := none
  /-- The current run of unreachability failures. -/
  failures : Nat := 0
  /-- Registry look-ups begun. -/
  lookups : Nat := 0

namespace Proxy

def key (p : Proxy) : ServiceKey := p.descriptor.key

/-- The service, for messages. -/
def service (p : Proxy) : String := p.key.text

def isBound (p : Proxy) : Bool :=
  match p.connection with
  | .bound _ => true
  | .unbound .. => false

def unavailable (p : Proxy) (reason : UnavailableReason) (message : String) : InvocationError :=
  .unavailable ⟨p.service, reason, message, none⟩

/-- The binding, or the error of a call that finds none and makes no attempt. -/
def current (p : Proxy) : Except InvocationError Bound :=
  match p.connection with
  | .bound b => .ok b
  | .unbound _ _ (some e) => .error (.binding e)
  | .unbound reason message none => .error (p.unavailable reason message)

/-! ## Turns -/

def lineUp (p : Proxy) (t : Ticket) : Proxy := { p with line := p.line ++ [t] }

def hasTurn (p : Proxy) (t : Ticket) : Bool := p.line.head? = some t

/-- Ends a turn, or gives up waiting for one. -/
def leaveLine (p : Proxy) (t : Ticket) : Proxy := { p with line := p.line.erase t }

/-! ## Attempts to bind -/

/-- What an attempt finds in the registry. -/
def foundEntry (p : Proxy) : Except RegistryError (Option Entry) → Except BindFailure Entry
  | .error e => .error (.transient .registryUnavailable e.message)
  | .ok none => .error (.transient .noLiveProvider ("no live provider of " ++ p.service))
  | .ok (some e) => .ok e

/-- What it takes to bind by the given properties: the component, and the definition to call by. -/
def plan (p : Proxy) (cs : Components) (properties : Properties) :
    Except BindFailure (Component × Option ApiDefinition) :=
  match p.descriptor.versioningFor properties with
  | .error e => .error (.fatal e)
  | .ok versioning =>
    match cs.select p.descriptor properties with
    | .error e => .error (.ofError e)
    | .ok c => .ok (c, versioning)

/-- Applies the result of an attempt; also what a call that made the attempt sees of it. -/
def apply (p : Proxy) (now : Instant) (r : Except BindFailure (Binding × Option ApiDefinition)) :
    Proxy × Except InvocationError Bound :=
  let next := { p with generation := p.generation + 1 }
  match r with
  | .ok (binding, versioning) =>
    let b : Bound := ⟨p.generation, binding, versioning⟩
    ({ next with connection := .bound b, retryAfter := none, failures := 0 }, .ok b)
  | .error (.fatal e) =>
    ({ next with connection := .unbound .notBound e.message (some e) }, .error (.binding e))
  | .error (.transient reason message) =>
    ({ next with
        connection := .unbound reason message none
        retryAfter := some (now + p.settings.attemptInterval) },
      .error (p.unavailable reason message))

/-! ## Results of calls -/

/-- Takes a binding down, if it is still the current one. -/
def disconnect (p : Proxy) (b : Bound) (reason : UnavailableReason) (message : String) : Proxy :=
  match p.connection with
  | .bound c =>
    if c.number = b.number then
      { p with connection := .unbound reason message none, retryAfter := none, failures := 0 }
    else p
  | .unbound .. => p

/-- Takes in the result of a call made on a binding. -/
def observe (p : Proxy) (b : Bound) (result : Except InvocationError Json.Value) : Proxy :=
  match result with
  | .ok _ => { p with failures := 0 }
  | .error e =>
    if p.settings.signals.includes e then
      p.disconnect b (e.reason?.getD .targetGone) e.message
    else
      match e.reason? with
      | none => { p with failures := 0 }
      | some reason =>
        if reason.isUnreachability then
          let failures := p.failures + 1
          let p := { p with failures }
          match p.settings.invalidateAfter with
          | some limit =>
            if limit ≤ failures then
              p.disconnect b reason
                (toString failures ++ " consecutive failures, last: " ++ e.message)
            else p
          | none => p
        else p

/-! ## Readings -/

/-- An unbound proxy as it is shown to a developer. -/
def summary? (p : Proxy) : Option String :=
  match p.connection with
  | .bound _ => none
  | .unbound reason message fatal =>
    some ("BoundServiceProxy \x7b service: " ++ Text.quoted p.service ++
      ", status: Disconnected \x7b reason: " ++ reason.title ++ ", message: " ++
      Text.quoted message ++ ", fatal: " ++ (if fatal.isSome then "true" else "false") ++
      " \x7d \x7d")

end Proxy

end ServiceBinding
