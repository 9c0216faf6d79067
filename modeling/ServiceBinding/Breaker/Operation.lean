import ServiceBinding.Breaker.Circuit

/-!
# Runs of a circuit breaker

The operations of a breaker as data, and what each one shows.
-/

namespace ServiceBinding

namespace Breaker

/-- What can be done with a breaker. -/
inductive Operation
  | acquire
  | record (p : Permission) (o : Outcome)
  | phase
  | allowed
  | health
  | stats
  | reset
  | forceOpen
  deriving DecidableEq, Inhabited

/-- What an operation shows. -/
inductive Reading
  | permission (p : Option Permission)
  | phase (p : CircuitPhase)
  | allowed (b : Bool)
  | health (h : Health)
  | stats (s : Stats)
  | nothing
  deriving DecidableEq, Inhabited

def perform (b : Breaker) (now : Instant) : Operation → Breaker × Reading
  | .acquire => (b.tryAcquire now).map id .permission
  | .record p o => (b.record now p o, .nothing)
  | .phase => (b.phase now).map id .phase
  | .allowed => (b.isAllowed now).map id .allowed
  | .health => (b.health now).map id .health
  | .stats => (b.stats now).map id .stats
  | .reset => (b.reset, .nothing)
  | .forceOpen => (b.forceOpen now, .nothing)

/-- How many calls were let through in each way, and refused. -/
structure CallCounts where
  normal : Nat := 0
  trial : Nat := 0
  refused : Nat := 0
  deriving DecidableEq, Inhabited

/-- Makes `n` calls, each with the given outcome if it is let through. -/
def call (now : Instant) (o : Outcome) : Nat → Breaker → CallCounts → Breaker × CallCounts
  | 0, b, counts => (b, counts)
  | n + 1, b, counts =>
    match b.tryAcquire now with
    | (b, none) => call now o n b { counts with refused := counts.refused + 1 }
    | (b, some .normal) =>
      call now o n (b.record now .normal o) { counts with normal := counts.normal + 1 }
    | (b, some .trial) =>
      call now o n (b.record now .trial o) { counts with trial := counts.trial + 1 }

/-- A breaker with the given settings, or why there is none: a window cannot be divided into no
buckets. -/
def create (s : BreakerSettings) : Except String Breaker :=
  if s.buckets = 0 then .error "divide by zero error when dividing duration by scalar"
  else .ok (new s)

end Breaker

end ServiceBinding
