import ServiceBinding.Files
import ServiceBinding.Logging.Filter
import ServiceBinding.Text.Lowercase

/-!
# Logging configuration

What is logged, in which form and where to. A configuration is the default one, changed by
environment variables and by hand; installing it checks its filter and opens its output.
-/

namespace ServiceBinding

/-- The form of logged events. -/
inductive LogFormat
  /-- Structured, one object for each event. -/
  | json
  /-- Several lines for each event. -/
  | pretty
  /-- One short line for each event. -/
  | compact
  deriving DecidableEq, Inhabited

/-- Where logged events go. -/
inductive LogOutput
  | stdout
  | stderr
  /-- Appended to a file. -/
  | file (path : String)
  deriving DecidableEq, Inhabited

/-- Why logging cannot be set up. -/
inductive LogError
  | invalidLevel (text : String)
  | invalidFormat (text : String)
  | invalidFilter (detail : String)
  | io (e : FileError)
  | install (detail : String)
  deriving DecidableEq, Inhabited

def LogError.message : LogError → String
  | .invalidLevel text => "Invalid log level: " ++ text
  | .invalidFormat text => "Invalid log format: " ++ text
  | .invalidFilter detail => "Invalid log filter: " ++ detail
  | .io e => "Failed to open log file: " ++ e.message
  | .install detail => "Failed to install subscriber: " ++ detail

/-- A text as the names of levels and formats are compared: without blanks at its ends and in lower
case. -/
private def folded (s : String) : String := Text.lowercase (Text.trim s)

def LogLevel.parse (s : String) : Except LogError LogLevel :=
  let s := folded s
  if s = "warning" then .ok .warn
  else
    match LogLevel.all.find? fun l => l.name = s with
    | some l => .ok l
    | none => .error (.invalidLevel s)

def LogFormat.parse (s : String) : Except LogError LogFormat :=
  let s := folded s
  if s = "json" then .ok .json
  else if s = "pretty" then .ok .pretty
  else if s = "compact" then .ok .compact
  else .error (.invalidFormat s)

/-! ## Configuration -/

structure LogConfig where
  level : LogLevel := .info
  format : LogFormat := .json
  output : LogOutput := .stdout
  /-- Whether the module of an event is shown. -/
  targets : Bool := true
  /-- Whether the thread of an event is shown. -/
  threadIds : Bool := false
  /-- Directives that take the place of the level. -/
  filter : Option String := none
  deriving DecidableEq, Inhabited

namespace LogConfig

def levelVariable : String := "ARMATURE_LOG_LEVEL"

def formatVariable : String := "ARMATURE_LOG_FORMAT"

private def setFromEnvironment (c : LogConfig) (name value : String) :
    Except LogError LogConfig :=
  if name = levelVariable then (LogLevel.parse value).map fun level => { c with level }
  else if name = formatVariable then (LogFormat.parse value).map fun format => { c with format }
  else .ok c

/-- The default configuration changed by environment variables, in their order. -/
def ofEnvironment (environment : List (String × String)) : Except LogError LogConfig :=
  environment.foldlM (fun c v => setFromEnvironment c v.1 v.2) {}

/-- Installs the configuration in a process whose logging is already set up, which never succeeds:
the filter is checked first, then the output is opened. A filter that cannot be cut into its parts
breaks the process off with a text. -/
def installAgain (files : FileSystem) (c : LogConfig) : Except String LogError :=
  match LogFilter.check (c.filter.getD "") with
  | .error .invalid => .ok (.invalidFilter "invalid filter directive")
  | .error (.broken text) => .error text
  | .ok () =>
    match c.output with
    | .file path =>
      match files.append path with
      | .error e => .ok (.io e)
      | .ok () => .ok alreadyInstalled
    | _ => .ok alreadyInstalled
where
  alreadyInstalled : LogError :=
    .install "a global default trace dispatcher has already been set"

end LogConfig

end ServiceBinding
