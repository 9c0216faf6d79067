import ServiceBinding.Command.Config

/-!
# Layers of settings

Settings are layered: what is configured for a key lies over the configured defaults, and these over the
built-in values. Each field is decided on its own, by the first layer that gives it (`settingsFor_eq`).
-/

namespace ServiceBinding

namespace CommandSettings

/-- Settings from the values of their fields, spans in milliseconds. -/
def ofFields (value : Setting → Nat) : CommandSettings where
  coreSize := value .coreSize
  queueSize := value .queueSize
  timeout := Span.ofMillis (value .timeout)
  rollingWindow := Span.ofMillis (value .rollingWindow)
  windowBuckets := value .windowBuckets
  errorThreshold := value .errorThreshold
  volumeThreshold := value .volumeThreshold
  sleepWindow := Span.ofMillis (value .sleepWindow)

theorem ofFields_builtIn : ofFields (fun f => f.read {}) = {} := rfl

theorem assign_ofFields (f : Setting) (n : Nat) (value : Setting → Nat) :
    f.assign n (ofFields value) = ofFields fun g => if g = f then n else value g := by
  cases f <;> rfl

end CommandSettings

namespace SettingsOverride

open CommandSettings (ofFields)

variable {o : SettingsOverride}

/-- Fields that are assigned one after the other. -/
theorem foldl_ofFields {assign : CommandSettings → Setting → CommandSettings}
    (hassign : ∀ value f, assign (ofFields value) f =
      ofFields fun g => if g = f then (o.get? f).getD (value f) else value g)
    (fs : List Setting) (value : Setting → Nat) :
    fs.foldl assign (ofFields value) =
      ofFields fun f => if f ∈ fs then (o.get? f).getD (value f) else value f := by
  induction fs generalizing value with
  | nil => rfl
  | cons f fs ih =>
    rw [List.foldl_cons, hassign, ih]
    congr 1
    funext g
    by_cases hg : g = f
    · subst hg
      cases o.get? g <;> simp
    · simp [hg]

theorem applyTo_ofFields (o : SettingsOverride) (value : Setting → Nat) :
    o.applyTo (ofFields value) = ofFields fun f => (o.get? f).getD (value f) := by
  rw [applyTo, foldl_ofFields (o := o)]
  · simp only [Setting.mem_all, if_true]
  · intro value f
    cases o.get? f with
    | some n => exact CommandSettings.assign_ofFields f n value
    | none =>
      show ofFields value = _
      congr 1
      funext g
      by_cases hg : g = f <;> simp [hg]

/-- The layer with what is given put over it. -/
def under (o : SettingsOverride) (given : Setting → Option Nat) : SettingsOverride where
  coreSize := (given .coreSize).or o.coreSize
  queueSize := (given .queueSize).or o.queueSize
  timeout := (given .timeout).or o.timeout
  rollingWindow := (given .rollingWindow).or o.rollingWindow
  windowBuckets := (given .windowBuckets).or o.windowBuckets
  errorThreshold := (given .errorThreshold).or o.errorThreshold
  volumeThreshold := (given .volumeThreshold).or o.volumeThreshold
  sleepWindow := (given .sleepWindow).or o.sleepWindow

@[simp] theorem get?_under (o : SettingsOverride) (given : Setting → Option Nat) (f : Setting) :
    (o.under given).get? f = (given f).or (o.get? f) := by
  cases f <;> rfl

@[simp] theorem under_none (o : SettingsOverride) : o.under (fun _ => none) = o := rfl

theorem under_set (o : SettingsOverride) (f : Setting) (n : Nat) (given : Setting → Option Nat) :
    (o.set f (some n)).under given =
      o.under fun g => (given g).or (if g = f then some n else none) := by
  refine ext_get? fun g => ?_
  by_cases hg : g = f <;> simp [get?_set, hg]

end SettingsOverride

namespace CommandConfig

open CommandSettings (ofFields)

/-- What is configured for a key. -/
def own? (config : CommandConfig) (key : String) (f : Setting) : Option Nat :=
  (config.commands.get? key).bind fun o => o.get? f

/-- Each field of the settings of a key is what the first layer that gives it says. -/
theorem settingsFor_eq (config : CommandConfig) (key : String) :
    config.settingsFor key = ofFields fun f =>
      ((config.own? key f).or (config.defaults.get? f)).getD (f.read {}) := by
  have hdefaults : config.defaults.applyTo {} =
      ofFields fun f => (config.defaults.get? f).getD (f.read {}) := by
    rw [← SettingsOverride.applyTo_ofFields, CommandSettings.ofFields_builtIn]
  rw [settingsFor, hdefaults]
  cases hkey : config.commands.get? key with
  | none => simp [own?, hkey]
  | some o => simp [own?, hkey, SettingsOverride.applyTo_ofFields, Option.getD_or]

end CommandConfig

end ServiceBinding
