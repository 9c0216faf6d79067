import ServiceBinding.Clock
import ServiceBinding.Invocation.Error

/-!
# Settings of service proxies
-/

namespace ServiceBinding

/-- The errors of calls that take a proxy's binding down. -/
structure DisconnectSignals where
  includes : InvocationError → Bool

namespace DisconnectSignals

/-- No error does. -/
def never : DisconnectSignals := ⟨fun _ => false⟩

/-- Every error does. -/
def always : DisconnectSignals := ⟨fun _ => true⟩

/-- The exceptions of providers do. -/
def exceptions : DisconnectSignals :=
  ⟨fun e =>
    match e with
    | .service _ => true
    | _ => false⟩

/-- Unavailability for one of the given reasons does. -/
def reasons (rs : List UnavailableReason) : DisconnectSignals :=
  ⟨fun e =>
    match e.reason? with
    | some r => rs.contains r
    | none => false⟩

def targetGone : DisconnectSignals := reasons [.targetGone]

end DisconnectSignals

/-- How a proxy binds and when it gives a binding up. -/
structure ProxySettings where
  /-- How long a call waits for its turn to rebind, for the look-up and for the binding, each. -/
  rebindTimeout : Span := Span.ofMillis 500
  /-- How long after a failed attempt to bind calls make no other one. -/
  attemptInterval : Span := Span.ofSeconds 10
  /-- The run of unreachability failures that takes the binding down. -/
  invalidateAfter : Option Nat := none
  /-- The time between two rechecks in the background. -/
  recheckInterval : Span := Span.ofSeconds 30
  signals : DisconnectSignals := .targetGone

/-- Settings as they are shown to a developer. -/
def ProxySettings.summary (s : ProxySettings) : String :=
  let invalidateAfter :=
    match s.invalidateAfter with
    | some n => "Some(" ++ toString n ++ ")"
    | none => "None"
  "ProxySettings \x7b rebind_timeout: " ++ s.rebindTimeout.text ++
    ", bind_attempt_interval: " ++ s.attemptInterval.text ++
    ", invalidate_after: " ++ invalidateAfter ++
    ", recheck_interval: " ++ s.recheckInterval.text ++
    ", disconnect_signals: DisconnectSignals(..) \x7d"

end ServiceBinding
