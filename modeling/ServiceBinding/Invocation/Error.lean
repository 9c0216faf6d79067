import ServiceBinding.Command.Error

/-!
# Failures of invocations

A call fails because the service is unavailable, by an exception of the provider, because the
consumer cannot be bound, or because a payload cannot be encoded. Only unavailability is worth a
retry, and only it counts as a failure of the infrastructure.
-/

namespace ServiceBinding

/-- Why a service was unavailable. -/
inductive UnavailableReason
  | rejected | timeout | circuitOpen | aborted
  /-- The transport could not reach the provider. -/
  | unreachable
  /-- The bound provider no longer exists. -/
  | targetGone
  | noLiveProvider | registryUnavailable
  /-- A rebind did not end in time. -/
  | rebindTimeout
  /-- There is no binding, and none is due yet. -/
  | notBound
  deriving DecidableEq, Inhabited

namespace UnavailableReason

def all : List UnavailableReason :=
  [.rejected, .timeout, .circuitOpen, .aborted, .unreachable, .targetGone, .noLiveProvider,
    .registryUnavailable, .rebindTimeout, .notBound]

/-- The short name used in messages. -/
def tag : UnavailableReason → String
  | .rejected => "rejected"
  | .timeout => "timeout"
  | .circuitOpen => "circuit-open"
  | .aborted => "aborted"
  | .unreachable => "unreachable"
  | .targetGone => "target-gone"
  | .noLiveProvider => "no-live-provider"
  | .registryUnavailable => "registry-unavailable"
  | .rebindTimeout => "rebind-timeout"
  | .notBound => "not-bound"

/-- The name used where a whole state is shown. -/
def title : UnavailableReason → String
  | .rejected => "Rejected"
  | .timeout => "Timeout"
  | .circuitOpen => "CircuitOpen"
  | .aborted => "Aborted"
  | .unreachable => "Unreachable"
  | .targetGone => "TargetGone"
  | .noLiveProvider => "NoLiveProvider"
  | .registryUnavailable => "RegistryUnavailable"
  | .rebindTimeout => "RebindTimeout"
  | .notBound => "NotBound"

def ofTag? (s : String) : Option UnavailableReason := all.find? fun r => r.tag = s

/-- Whether the provider itself failed to answer, as opposed to a refusal before it was asked. -/
def isUnreachability : UnavailableReason → Bool
  | .timeout | .unreachable | .aborted => true
  | _ => false

end UnavailableReason

/-- The place in a consumer from which a call was made. -/
abbrev CallSite := String

/-- What is added to a message for a known call site. -/
private def callSiteText : Option CallSite → String
  | some site => " [called from " ++ site ++ "]"
  | none => ""

/-- A service that could not take a call. -/
structure ServiceUnavailable where
  service : String
  reason : UnavailableReason
  detail : String
  caller : Option CallSite := none
  deriving DecidableEq, Inhabited

def ServiceUnavailable.message (e : ServiceUnavailable) : String :=
  "Service " ++ e.service ++ " unavailable (" ++ e.reason.tag ++ "): " ++ e.detail ++
    callSiteText e.caller

/-- An error of the provider's own domain. -/
structure ServiceException where
  type : String
  detail : String
  /-- Shared with what the provider recorded of the error. -/
  correlationId : String
  caller : Option CallSite := none
  deriving DecidableEq, Inhabited

def ServiceException.message (e : ServiceException) : String :=
  e.type ++ ": " ++ e.detail ++ " (correlationId=" ++ e.correlationId ++ ")" ++
    callSiteText e.caller

/-- Why a consumer cannot be bound. -/
inductive BindError
  | unknownComponent (name : String)
  | unsupportedTarget (component api : String)
  /-- The provider is versioned and the consumer is not. -/
  | missingVersioning (api : String) (version : Nat)
  | providerNotFound (component provider : String)
  | invalidUri (uri : String)
  | invalidProperties (detail : String)
  deriving DecidableEq, Inhabited

namespace BindError

def message : BindError → String
  | .unknownComponent name => "Unknown service component: " ++ name
  | .unsupportedTarget component api => "Component " ++ component ++ " cannot bind API " ++ api
  | .missingVersioning api version =>
    "Provider of " ++ api ++ " is versioned at " ++ toString version ++
      " but the consumer has no versioning descriptor"
  | .providerNotFound component provider =>
    "Component " ++ component ++ " has no provider " ++ provider
  | .invalidUri uri => "Invalid service URI: " ++ uri
  | .invalidProperties detail => "Invalid service properties: " ++ detail

/-- Whether binding again can never succeed. -/
def isFatal : BindError → Bool
  | .providerNotFound _ _ => false
  | _ => true

end BindError

/-- Why a message cannot be encoded or decoded. -/
inductive CodecError
  | versionMismatch (consumer provider : Nat)
  | unknownMethod (method : String)
  | malformed (detail : String)
  deriving DecidableEq, Inhabited

def CodecError.message : CodecError → String
  | .versionMismatch consumer provider =>
    "Consumer API version " ++ toString consumer ++ " is newer than provider version " ++
      toString provider
  | .unknownMethod method => "Unknown method: " ++ method
  | .malformed detail => "Malformed payload: " ++ detail

/-- Why a call failed. -/
inductive InvocationError
  | unavailable (e : ServiceUnavailable)
  | service (e : ServiceException)
  | binding (cause : BindError) (caller : Option CallSite := none)
  | serialization (cause : CodecError) (caller : Option CallSite := none)
  deriving DecidableEq, Inhabited

namespace InvocationError

def message : InvocationError → String
  | .unavailable e => e.message
  | .service e => e.message
  | .binding cause caller => "Binding failed: " ++ cause.message ++ callSiteText caller
  | .serialization cause caller => "Serialization failed: " ++ cause.message ++ callSiteText caller

def caller? : InvocationError → Option CallSite
  | .unavailable e => e.caller
  | .service e => e.caller
  | .binding _ caller => caller
  | .serialization _ caller => caller

/-- Fills in the call site, unless there is one. -/
def withCaller (site : CallSite) : InvocationError → InvocationError
  | .unavailable e => .unavailable { e with caller := e.caller.or (some site) }
  | .service e => .service { e with caller := e.caller.or (some site) }
  | .binding cause caller => .binding cause (caller.or (some site))
  | .serialization cause caller => .serialization cause (caller.or (some site))

/-- The reason of an unavailability. -/
def reason? : InvocationError → Option UnavailableReason
  | .unavailable e => some e.reason
  | _ => none

def isUnavailable : InvocationError → Bool
  | .unavailable _ => true
  | _ => false

def isRetryable (e : InvocationError) : Bool := e.isUnavailable

instance : FailureKind InvocationError := ⟨isUnavailable⟩

/-- What a consumer of `service` sees of a failed command: the operation's own error unchanged, the
others as unavailability. -/
def ofCommand (service : String) (e : CommandError InvocationError) : InvocationError :=
  let unavailable (reason : UnavailableReason) : InvocationError :=
    .unavailable ⟨service, reason, e.message message, none⟩
  match e with
  | .execution inner => inner
  | .rejected _ => unavailable .rejected
  | .timeout _ _ => unavailable .timeout
  | .circuitOpen _ => unavailable .circuitOpen
  | .aborted _ _ => unavailable .aborted

end InvocationError

end ServiceBinding
