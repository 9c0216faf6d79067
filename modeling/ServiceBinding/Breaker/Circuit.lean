import ServiceBinding.Breaker.Window

/-!
# Circuit breakers

A closed circuit lets every call pass and opens when enough of the calls in its window failed. An
open circuit refuses calls until its sleep window has passed and is then half open: it lets one
trial call pass, whose outcome closes or opens it again. A trial that reports nothing for a sleep
window no longer holds the next one back.

An elapsed open circuit becomes half open only when it is next looked at, by a reading as well as
by a call.
-/

namespace ServiceBinding

/-- The right to make one call. -/
inductive Permission
  | normal
  /-- The single call through a half-open circuit. -/
  | trial
  deriving DecidableEq, Inhabited

/-- Whether calls may pass, with the instants that decide what comes next. -/
inductive CircuitState
  | closed
  | opened (since : Instant)
  | halfOpen (trialStarted : Option Instant)
  deriving DecidableEq, Inhabited

/-- A circuit state without its instants. -/
inductive CircuitPhase
  | closed | opened | halfOpen
  deriving DecidableEq, Inhabited

def CircuitState.phase : CircuitState → CircuitPhase
  | .closed => .closed
  | .opened _ => .opened
  | .halfOpen _ => .halfOpen

/-- When a circuit opens and when it is tried again. -/
structure BreakerSettings where
  name : String
  window : Span
  buckets : Nat
  /-- The percentage of infrastructure failures that opens the circuit. -/
  errorThreshold : Nat
  /-- The requests in the window without which the circuit does not open. -/
  volumeThreshold : Nat
  sleepWindow : Span
  deriving DecidableEq, Inhabited

/-- A circuit with its window of outcomes and its counts. -/
structure Breaker where
  settings : BreakerSettings
  circuit : CircuitState := .closed
  window : Window
  /-- Calls that asked to pass. -/
  totalRequests : Nat := 0
  /-- Calls that were refused. -/
  totalRejections : Nat := 0
  deriving DecidableEq, Inhabited

namespace Breaker

def new (s : BreakerSettings) : Breaker :=
  { settings := s, window := Window.new s.window s.buckets }

/-- Makes an elapsed open circuit half open. -/
def wake (b : Breaker) (now : Instant) : Breaker :=
  match b.circuit with
  | .opened since =>
    if b.settings.sleepWindow ≤ now - since then { b with circuit := .halfOpen none } else b
  | _ => b

/-- Reads the state of the circuit. -/
def phase (b : Breaker) (now : Instant) : Breaker × CircuitPhase :=
  let b := b.wake now
  (b, b.circuit.phase)

/-- Whether a call may be let through: the circuit is not open. -/
def isAllowed (b : Breaker) (now : Instant) : Breaker × Bool :=
  let (b, phase) := b.phase now
  (b, phase ≠ .opened)

/-- Asks to make a call; `none` refuses it. -/
def tryAcquire (b : Breaker) (now : Instant) : Breaker × Option Permission :=
  let b := ({ b with totalRequests := b.totalRequests + 1 }).wake now
  let refuse := ({ b with totalRejections := b.totalRejections + 1 }, none)
  match b.circuit with
  | .closed => (b, some .normal)
  | .opened _ => refuse
  | .halfOpen (some started) =>
    if now - started < b.settings.sleepWindow then refuse
    else ({ b with circuit := .halfOpen (some now) }, some .trial)
  | .halfOpen none => ({ b with circuit := .halfOpen (some now) }, some .trial)

/-- Whether counts open a closed circuit. -/
def shouldOpen (s : BreakerSettings) (h : Health) : Bool :=
  s.volumeThreshold ≤ h.total && s.errorThreshold ≤ h.errorPercentage

/-- Takes in the outcome of a call made with `permission`. A half-open circuit listens to trials
only and an open one to nobody. -/
def record (b : Breaker) (now : Instant) (permission : Permission) (o : Outcome) : Breaker :=
  match b.circuit, permission with
  | .halfOpen _, .trial =>
    match o with
    | .infrastructureFailure => { b with circuit := .opened now }
    | _ => { b with circuit := .closed, window := b.window.reset }
  | .closed, _ =>
    let b := { b with window := b.window.record now o }
    match o with
    | .infrastructureFailure =>
      let (window, health) := b.window.health now
      let b := { b with window }
      if shouldOpen b.settings health then { b with circuit := .opened now } else b
    | _ => b
  | _, _ => b

/-- Closes the circuit by hand. -/
def reset (b : Breaker) : Breaker := { b with circuit := .closed, window := b.window.reset }

/-- Opens the circuit by hand. -/
def forceOpen (b : Breaker) (now : Instant) : Breaker := { b with circuit := .opened now }

/-- Reads the counts of the window. -/
def health (b : Breaker) (now : Instant) : Breaker × Health :=
  let (window, health) := b.window.health now
  ({ b with window }, health)

/-- What a breaker shows to those who watch it. -/
structure Stats where
  name : String
  phase : CircuitPhase
  health : Health
  totalRequests : Nat
  totalRejections : Nat
  deriving DecidableEq, Inhabited

/-- Reads all counts; the state is read first. -/
def stats (b : Breaker) (now : Instant) : Breaker × Stats :=
  let (b, phase) := b.phase now
  let (b, health) := b.health now
  (b, ⟨b.settings.name, phase, health, b.totalRequests, b.totalRejections⟩)

end Breaker

end ServiceBinding
