import ServiceBinding.Breaker.Circuit
import ServiceBinding.Files

/-!
# Settings of isolated commands

The limits of one command: its bulkhead, the deadline of a call and its circuit breaker.
-/

namespace ServiceBinding

/-- Failures of loading a configuration. -/
inductive ConfigError
  | load (detail : String)
  /-- A text, of the given format if it is a document, that does not read. -/
  | parse (detail : String)
  | document (format : String)
  | validation (detail : String)
  | io (e : FileError)
  deriving DecidableEq, Inhabited

namespace ConfigError

def message : ConfigError → String
  | .load detail => "Failed to load configuration: " ++ detail
  | .parse detail => "Failed to parse configuration: " ++ detail
  | .document format => "Failed to parse configuration: " ++ format ++ " parse error"
  | .validation detail => "Validation error: " ++ detail
  | .io e => "IO error: " ++ e.message

end ConfigError

/-- The limits within which a command runs its operations. -/
structure CommandSettings where
  /-- The calls that run at a time. -/
  coreSize : Nat := 10
  /-- The calls that wait for a slot. -/
  queueSize : Nat := 10
  /-- The deadline of a call, its wait for a slot included. -/
  timeout : Span := Span.ofMillis 1000
  rollingWindow : Span := Span.ofMillis 10000
  windowBuckets : Nat := 10
  errorThreshold : Nat := 50
  volumeThreshold : Nat := 20
  sleepWindow : Span := Span.ofMillis 5000
  deriving DecidableEq, Inhabited

namespace CommandSettings

/-- Refuses settings that no command can run with. -/
def validate (s : CommandSettings) : Except ConfigError Unit :=
  if s.coreSize = 0 then .error (.validation "core_size must be at least 1")
  else if s.timeout = 0 then .error (.validation "timeout must be positive")
  else if s.windowBuckets = 0 ∨ s.rollingWindow = 0 then
    .error (.validation "rolling window needs a positive length and at least one bucket")
  else if 100 < s.errorThreshold then
    .error (.validation
      ("error_threshold_percentage " ++ toString s.errorThreshold ++ " exceeds 100"))
  else .ok ()

end CommandSettings

/-- The breaker of a command; it has at least one bucket. -/
def BreakerSettings.ofCommand (name : String) (s : CommandSettings) : BreakerSettings :=
  { name
    window := s.rollingWindow
    buckets := max s.windowBuckets 1
    errorThreshold := s.errorThreshold
    volumeThreshold := s.volumeThreshold
    sleepWindow := s.sleepWindow }

end ServiceBinding
