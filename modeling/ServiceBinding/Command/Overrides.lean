import ServiceBinding.Command.Settings
import ServiceBinding.Data.Width
import ServiceBinding.Json.Decode
import ServiceBinding.Text.Blank
import ServiceBinding.Text.Numeral

/-!
# Overrides of command settings

A layer of settings of which only some are given; the others come from the layer below. The eight
fields are described once, by `Setting`: name on the wire, name in the environment, range.
-/

namespace ServiceBinding

open Json

/-- The overridable settings, in the order of their declaration. -/
inductive Setting
  | coreSize | queueSize | timeout | rollingWindow | windowBuckets | errorThreshold
  | volumeThreshold | sleepWindow
  deriving DecidableEq, Inhabited

namespace Setting

def all : List Setting :=
  [.coreSize, .queueSize, .timeout, .rollingWindow, .windowBuckets, .errorThreshold,
    .volumeThreshold, .sleepWindow]

def name : Setting → String
  | .coreSize => "core_size"
  | .queueSize => "queue_size_rejection_threshold"
  | .timeout => "timeout_ms"
  | .rollingWindow => "rolling_window_ms"
  | .windowBuckets => "rolling_window_buckets"
  | .errorThreshold => "error_threshold_percentage"
  | .volumeThreshold => "request_volume_threshold"
  | .sleepWindow => "sleep_window_ms"

def environmentName : Setting → String
  | .coreSize => "CORE_SIZE"
  | .queueSize => "QUEUE_SIZE_REJECTION_THRESHOLD"
  | .timeout => "TIMEOUT_MS"
  | .rollingWindow => "ROLLING_WINDOW_MS"
  | .windowBuckets => "ROLLING_WINDOW_BUCKETS"
  | .errorThreshold => "ERROR_THRESHOLD_PERCENTAGE"
  | .volumeThreshold => "REQUEST_VOLUME_THRESHOLD"
  | .sleepWindow => "SLEEP_WINDOW_MS"

/-- Values are below this bound: 64 bits for milliseconds, 32 bits for counts. -/
def bound : Setting → Nat
  | .timeout | .rollingWindow | .sleepWindow => Width.bound64
  | _ => Width.bound32

def ofEnvironmentName? (s : String) : Option Setting := all.find? fun f => f.environmentName = s

theorem mem_all (f : Setting) : f ∈ all := by cases f <;> decide

theorem ofEnvironmentName?_eq_some_iff {s : String} {f : Setting} :
    ofEnvironmentName? s = some f ↔ f.environmentName = s := by
  unfold ofEnvironmentName?
  constructor
  · intro h
    simpa using List.find?_some h
  · rintro rfl
    cases f <;> decide

/-- Sets the field in full settings; spans are given in milliseconds. -/
def assign (f : Setting) (n : Nat) (s : CommandSettings) : CommandSettings :=
  match f with
  | .coreSize => { s with coreSize := n }
  | .queueSize => { s with queueSize := n }
  | .timeout => { s with timeout := Span.ofMillis n }
  | .rollingWindow => { s with rollingWindow := Span.ofMillis n }
  | .windowBuckets => { s with windowBuckets := n }
  | .errorThreshold => { s with errorThreshold := n }
  | .volumeThreshold => { s with volumeThreshold := n }
  | .sleepWindow => { s with sleepWindow := Span.ofMillis n }

/-- The value of the field in full settings; spans in whole milliseconds. -/
def read (f : Setting) (s : CommandSettings) : Nat :=
  match f with
  | .coreSize => s.coreSize
  | .queueSize => s.queueSize
  | .timeout => s.timeout.toMillis
  | .rollingWindow => s.rollingWindow.toMillis
  | .windowBuckets => s.windowBuckets
  | .errorThreshold => s.errorThreshold
  | .volumeThreshold => s.volumeThreshold
  | .sleepWindow => s.sleepWindow.toMillis

end Setting

/-- The settings of one layer. -/
structure SettingsOverride where
  coreSize : Option Nat := none
  queueSize : Option Nat := none
  timeout : Option Nat := none
  rollingWindow : Option Nat := none
  windowBuckets : Option Nat := none
  errorThreshold : Option Nat := none
  volumeThreshold : Option Nat := none
  sleepWindow : Option Nat := none
  deriving DecidableEq, Inhabited

namespace SettingsOverride

def get? (o : SettingsOverride) : Setting → Option Nat
  | .coreSize => o.coreSize
  | .queueSize => o.queueSize
  | .timeout => o.timeout
  | .rollingWindow => o.rollingWindow
  | .windowBuckets => o.windowBuckets
  | .errorThreshold => o.errorThreshold
  | .volumeThreshold => o.volumeThreshold
  | .sleepWindow => o.sleepWindow

def set (o : SettingsOverride) (f : Setting) (n : Option Nat) : SettingsOverride :=
  match f with
  | .coreSize => { o with coreSize := n }
  | .queueSize => { o with queueSize := n }
  | .timeout => { o with timeout := n }
  | .rollingWindow => { o with rollingWindow := n }
  | .windowBuckets => { o with windowBuckets := n }
  | .errorThreshold => { o with errorThreshold := n }
  | .volumeThreshold => { o with volumeThreshold := n }
  | .sleepWindow => { o with sleepWindow := n }

theorem get?_set (o : SettingsOverride) (f g : Setting) (n : Option Nat) :
    (o.set f n).get? g = if g = f then n else o.get? g := by
  cases f <;> cases g <;> rfl

/-- A layer is determined by its fields. -/
theorem ext_get? {o o' : SettingsOverride} (h : ∀ f, o.get? f = o'.get? f) : o = o' := by
  cases o
  cases o'
  rw [mk.injEq]
  exact ⟨h .coreSize, h .queueSize, h .timeout, h .rollingWindow, h .windowBuckets,
    h .errorThreshold, h .volumeThreshold, h .sleepWindow⟩

/-- Full settings with the given fields overridden. -/
def applyTo (o : SettingsOverride) (s : CommandSettings) : CommandSettings :=
  Setting.all.foldl (fun s f =>
    match o.get? f with
    | some n => f.assign n s
    | none => s) s

/-- Takes over an environment variable, whose name is given without its stem. A name of no setting
leaves the override as it is; a value that is no number in range is an error. -/
def setFromEnvironment (o : SettingsOverride) (name value : String) :
    Except ConfigError (Option SettingsOverride) :=
  match Setting.ofEnvironmentName? name with
  | none => .ok none
  | some f =>
    match Text.numeralBelow? f.bound (Text.trimChars value.toList) with
    | some n => .ok (some (o.set f (some n)))
    | none => .error (.parse (name ++ ": invalid number '" ++ value ++ "'"))

def toJson (o : SettingsOverride) : Value :=
  .ofFields (Setting.all.map fun f =>
    (f.name, match o.get? f with
      | some n => .nat n
      | none => .null))

/-- Reads an override; fields of other names are refused, missing ones are not given. -/
def ofDocument? (surplusItems : Bool) (d : Document) : Option SettingsOverride := do
  let slots ← d.record? { unknownFields := false, surplusItems } (Setting.all.map Setting.name)
  Setting.all.foldlM (fun o f => do
    let n ← (slots f.name).withDefault none (Document.option (Document.natBelow? f.bound))
    return o.set f n) {}

end SettingsOverride

end ServiceBinding
