import ServiceBinding.Proxy.Basic
import ServiceBinding.Command.Error

/-!
# Calls on a binding

With a binding a call is executed under the command of its method's group, once and never again.
Failures of the command itself become unavailability of the service; the proxy takes the result in,
and the caller gets it with the place from which it called.
-/

namespace ServiceBinding

namespace Proxy

/-- The invocation that goes out over a binding. -/
def request (b : Bound) (i : Invocation) : Invocation := i.stamped b.versioning

/-- The command of a call on a binding has ended; also what the proxy hands on. -/
def concludeCall (p : Proxy) (b : Bound)
    (r : Except (CommandError InvocationError) Json.Value) :
    Proxy × Except InvocationError Json.Value :=
  let result := r.mapError fun e => InvocationError.ofCommand p.service e
  (p.observe b result, result)

/-- What the caller gets: the result as a value of its type, or an error with its call site. -/
def handOver {α : Type u} (site : CallSite) (read : Json.Value → Option α)
    (r : Except InvocationError Json.Value) : Except InvocationError α :=
  match r with
  | .error e => .error (e.withCaller site)
  | .ok v =>
    match read v with
    | some x => .ok x
    | none => .error (InvocationError.withCaller site (.serialization (.malformed "")))

end Proxy

end ServiceBinding
