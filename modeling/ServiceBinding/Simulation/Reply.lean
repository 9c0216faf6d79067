import ServiceBinding.Simulation.World

/-!
# What a scenario shows

The answers of the steps of a scenario.
-/

namespace ServiceBinding.Simulation

open Json

/-- A component as a scenario shows it. -/
structure ComponentView where
  name : String
  canBind : Bool
  isConcurrent : Bool
  requiresInstance : Bool
  properties : Properties

/-- An entry with what is left of its lease. -/
structure EntryView where
  entry : Entry
  remaining : Option Span

def EntryView.at (now : Instant) (e : Entry) : EntryView := ⟨e, e.remainingLease now⟩

/-- The counts of a proxy. -/
structure ProxyStats where
  lookups : Nat
  bindAttempts : Nat
  failures : Nat
  connected : Bool

def ProxyStats.of (p : Proxy) : ProxyStats := ⟨p.lookups, p.generation, p.failures, p.isBound⟩

/-- The counts of a command. -/
structure CommandStats where
  key : String
  bulkhead : Bulkhead
  breaker : Breaker.Stats

/-- The answer of a step. -/
inductive Reply
  | nothing
  | done
  | flag (b : Bool)
  | count (n : Nat)
  | text (s : String)
  | texts (ss : List String)
  | entry (e : Option EntryView)
  | entries (es : List EntryView)
  | registryError (e : RegistryError)
  | bindError (e : BindError)
  | bound (b : Binding)
  | answer (r : Except InvocationError Value)
  | executed (r : Except (CommandError WorkError) Value)
  | status (c : Connection)
  | proxyStats (s : ProxyStats)
  | proxy (p : Proxy)
  | properties (p : Properties)
  /-- An export, and the registration of what it publishes. -/
  | exported (p : Properties) (registered : Option (Except RegistryError Unit))
  | removal (removed : Bool) (left : Nat)
  | size (n : Nat) (isEmpty : Bool)
  | cacheCounts (hits misses : Nat)
  | exporterSettings (s : ExporterSettings)
  | components (names : List String) (summary : String)
  | component (c : ComponentView)
  | command (key : String) (s : CommandSettings) (configured : Bool)
  | commands (stats : List CommandStats)
  | phase (p : CircuitPhase)
  | bulkhead (b : Bulkhead)
  | spawned
  | joined (took : Span) (r : Reply)
  | cancelled
  | broken

/-- The answer of an operation on a registry. -/
def Reply.ofRegistry : Except RegistryError Unit → Reply
  | .ok () => .done
  | .error e => .registryError e

end ServiceBinding.Simulation
