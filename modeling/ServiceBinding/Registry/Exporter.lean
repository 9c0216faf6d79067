import ServiceBinding.Data.Table
import ServiceBinding.Service.Entry

/-!
# Exported services of an application

The exporter remembers every service it was told to publish, also one that the registry refused, so
that the next round of renewals publishes it. An exported service carries the subsystem, instance
and zone of the exporting application.
-/

namespace ServiceBinding

/-- The exporting application, and how long what it publishes lives. -/
structure ExporterSettings where
  subsystem : String := "default"
  instanceId : String
  /-- The subsystem, if not given. -/
  zone : Option String := none
  lease : Span := Span.ofSeconds 60
  renewalInterval : Span := Span.ofSeconds 30
  deriving Inhabited

/-- The services an application publishes. -/
structure Exporter where
  settings : ExporterSettings
  exported : Table ServiceKey Entry := Table.empty
  deriving Inhabited

namespace Exporter

/-- Properties with the marks of the exporting application. -/
def stamp (x : Exporter) (p : Properties) : Properties :=
  let s := x.settings
  ((p.set Properties.subsystemName s.subsystem).set Properties.instanceName s.instanceId).set
    Properties.zoneName (s.zone.getD s.subsystem)

/-- Remembers a service and gives the entry to register. -/
def remember (x : Exporter) (p : Properties) : Except RegistryError (Exporter × Entry) :=
  let entry : Entry := ⟨x.stamp p, x.settings.lease, none⟩
  match entry.key with
  | .error err => .error err
  | .ok key => .ok ({ x with exported := x.exported.set key entry }, entry)

/-- Forgets a service; also whether it was exported, hence is to be deregistered. -/
def forget (x : Exporter) (key : ServiceKey) : Exporter × Bool :=
  ({ x with exported := x.exported.erase key }, x.exported.contains key)

/-- The entries a round of renewals publishes. -/
def renewals (x : Exporter) : List Entry := x.exported.values

/-! ## What is published -/

variable {x : Exporter} {p : Properties}

/-- The marks of an application are no part of a key. -/
theorem key?_stamp (x : Exporter) (p : Properties) : (x.stamp p).key? = p.key? := by
  simp [Properties.key?, Properties.api?, Properties.qualifier?, stamp, Properties.get?_set,
    Properties.apiName, Properties.qualifierName, Properties.subsystemName, Properties.instanceName,
    Properties.zoneName]

theorem key_stamp (x : Exporter) (p : Properties) : (x.stamp p).key = p.key := by
  rw [Properties.key, Properties.key, key?_stamp]

theorem instance?_stamp (x : Exporter) (p : Properties) :
    (x.stamp p).instance? = some x.settings.instanceId := by
  simp [Properties.instance?, stamp, Properties.get?_set, Properties.instanceName,
    Properties.zoneName]

/-- The marks of the application, and what the properties say apart from them. -/
theorem get?_stamp (x : Exporter) (p : Properties) (name : String) :
    (x.stamp p).get? name =
      if name = Properties.subsystemName then some x.settings.subsystem
      else if name = Properties.instanceName then some x.settings.instanceId
      else if name = Properties.zoneName then some (x.settings.zone.getD x.settings.subsystem)
      else p.get? name := by
  simp only [stamp, Properties.get?_set]
  by_cases hsubsystem : name = Properties.subsystemName
  · simp [hsubsystem, Properties.subsystemName, Properties.instanceName, Properties.zoneName]
  · by_cases hinstance : name = Properties.instanceName
    · simp [hinstance, Properties.subsystemName, Properties.instanceName, Properties.zoneName]
    · simp [hsubsystem, hinstance]

/-- The entry a service is published with. -/
def entryOf (x : Exporter) (p : Properties) : Entry := ⟨x.stamp p, x.settings.lease, none⟩

theorem key_entryOf (x : Exporter) (p : Properties) : (x.entryOf p).key = p.key := x.key_stamp p

theorem instanceId_entryOf (x : Exporter) (p : Properties) :
    (x.entryOf p).instanceId = x.settings.instanceId := by
  rw [Entry.instanceId, entryOf, instance?_stamp]
  rfl

theorem remember_of_key {key : ServiceKey} (h : p.key = .ok key) :
    x.remember p = .ok ({ x with exported := x.exported.set key (x.entryOf p) }, x.entryOf p) := by
  have hkey : (x.entryOf p).key = .ok key := (x.key_entryOf p).trans h
  rw [entryOf] at hkey ⊢
  simp only [remember, hkey]

theorem remember_of_error {err : RegistryError} (h : p.key = .error err) :
    x.remember p = .error err := by
  have hkey : (x.entryOf p).key = .error err := (x.key_entryOf p).trans h
  rw [entryOf] at hkey
  simp only [remember, hkey]

end Exporter

end ServiceBinding
