/-!
# Log levels

The levels of logged events, from the most detailed one to the most severe one.
-/

namespace ServiceBinding

/-- How much is logged: events of the level and of those after it. -/
inductive LogLevel
  | trace | debug | info | warn | error
  deriving DecidableEq, Inhabited

namespace LogLevel

def name : LogLevel → String
  | .trace => "trace"
  | .debug => "debug"
  | .info => "info"
  | .warn => "warn"
  | .error => "error"

def all : List LogLevel := [.trace, .debug, .info, .warn, .error]

end LogLevel

end ServiceBinding
