import ServiceBinding.Component.Direct
import ServiceBinding.Proofs.Versioning.Layers
import ServiceBinding.Proofs.Versioning.Steps
import ServiceBinding.Proxy.Call
import ServiceBinding.Proxy.Recheck
import ServiceBinding.Registry.Exporter

/-!
# A versioned call from end to end

A provider of a versioned API that is exported through the direct component is published with its id and
its version, and stands behind its definition. Whoever finds what was published, with or without the marks
of an application (`Carries`, `carries_stamp`), can bind to it only with a definition of its own, and calls
at the version of that definition (`bindBy_unversioned`, `bindBy_versioned`; `bindBy_cases` says how calls
and rechecks bind). What a call on such a binding comes to is `versioned_call`.
-/

namespace ServiceBinding

open Json

/-! ## What is published -/

namespace Properties

/-- Whether properties hold all that others do, and maybe more. -/
def Carries (found published : Properties) : Prop :=
  ∀ name value, published.get? name = some value → found.get? name = some value

theorem get?_versioned (p : Properties) (v : Nat) :
    (p.withApiVersion v).get? versionedName = some "true" := by
  simp [withApiVersion, get?_set]

theorem get?_apiVersion (p : Properties) (v : Nat) :
    (p.withApiVersion v).get? apiVersionName = some (toString v) := by
  simp [withApiVersion, get?_set, apiVersionName, versionedName]

variable {found p : Properties} {v : Nat}

theorem Carries.isVersioned (h : found.Carries (p.withApiVersion v)) : found.isVersioned = true := by
  have hmark := h _ _ (get?_versioned p v)
  simp [Properties.isVersioned, hmark]

/-- The published version is read again from its text. -/
theorem Carries.apiVersion? (h : found.Carries (p.withApiVersion v)) (hv : v < Width.bound32) :
    found.apiVersion? = some v := by
  have htext := h _ _ (get?_apiVersion p v)
  rw [Properties.apiVersion?, htext]
  exact Text.numeralBelow?_toString hv

end Properties

namespace Direct

variable {api : ApiDescriptor} {id : String} {v : Nat} {found : Properties}

theorem component?_of_carries (h : found.Carries ((properties api id).withApiVersion v)) :
    found.component? = some name := by
  apply h
  unfold properties ApiDescriptor.propertiesThrough
  cases api.qualifier <;>
    simp [Properties.withApiVersion, Properties.withQualifier, Properties.forApi, Properties.get?_set,
      Properties.componentName, Properties.versionedName, Properties.apiVersionName,
      Properties.qualifierName, providerName]

theorem providerId_of_carries (h : found.Carries ((properties api id).withApiVersion v)) :
    found.get? providerName = some id := by
  apply h
  simp [properties, Properties.withApiVersion, Properties.get?_set, Properties.versionedName,
    Properties.apiVersionName, providerName]

/-- The marks of an application are no part of what is published. -/
theorem get?_mark {n : String}
    (h : n = Properties.subsystemName ∨ n = Properties.instanceName ∨ n = Properties.zoneName) :
    ((properties api id).withApiVersion v).get? n = none := by
  unfold properties ApiDescriptor.propertiesThrough
  cases api.qualifier <;> rcases h with rfl | rfl | rfl <;>
    simp [Properties.withApiVersion, Properties.withQualifier, Properties.forApi, Properties.get?_set,
      Properties.componentName, Properties.versionedName, Properties.apiVersionName,
      Properties.qualifierName, Properties.subsystemName, Properties.instanceName, Properties.zoneName,
      Properties.apiName, providerName]

/-- An application's exporter keeps what was published. -/
theorem carries_stamp (x : Exporter) (api : ApiDescriptor) (id : String) (v : Nat) :
    (x.stamp ((properties api id).withApiVersion v)).Carries ((properties api id).withApiVersion v) := by
  intro n value h
  have hmark : ¬ (n = Properties.subsystemName ∨ n = Properties.instanceName ∨
      n = Properties.zoneName) := by
    intro hn
    rw [get?_mark hn] at h
    cases h
  rw [not_or, not_or] at hmark
  simp [Exporter.stamp, Properties.get?_set, hmark, h]

end Direct

/-! ## Binding to what was found -/

namespace Proxy

/-- What an attempt to bind by given properties brings, its wait for the component left out. -/
def bindBy (p : Proxy) (cs : Components) (exists? : String → Bool) (found : Properties) :
    Except BindFailure (Binding × Option ApiDefinition) :=
  match p.plan cs found with
  | .error failure => .error failure
  | .ok (c, versioning) =>
    match c.bind exists? p.descriptor found with
    | .ok binding => .ok (binding, versioning)
    | .error e => .error (.ofError e)

theorem bindBy_of_plan {p : Proxy} {cs : Components} {exists? : String → Bool} {found : Properties}
    {c : Component} {versioning : Option ApiDefinition} (h : p.plan cs found = .ok (c, versioning)) :
    p.bindBy cs exists? found =
      match c.bind exists? p.descriptor found with
      | .ok binding => .ok (binding, versioning)
      | .error e => .error (.ofError e) := by
  rw [bindBy, h]

/-- An attempt that finds no way to bind fails at once. From the component's answer a call and a recheck
take what binding brings. -/
theorem bindBy_cases (p : Proxy) (cs : Components) (exists? : String → Bool) (found : Properties) :
    (∃ failure, p.plan cs found = .error failure ∧ p.bindBy cs exists? found = .error failure) ∨
      ∃ c versioning, p.plan cs found = .ok (c, versioning) ∧
        ∀ (p' : Proxy) (now : Instant) (t : Ticket),
          p'.bindEnded now t versioning (c.bind exists? p.descriptor found) =
              p'.concludeRebind now t (p.bindBy cs exists? found) ∧
            p'.recheckBindEnded now t versioning (c.bind exists? p.descriptor found) =
              p'.concludeRecheck now t (p.bindBy cs exists? found) := by
  cases hplan : p.plan cs found with
  | error failure => exact .inl ⟨failure, rfl, by rw [bindBy, hplan]⟩
  | ok planned =>
    obtain ⟨c, versioning⟩ := planned
    refine .inr ⟨c, versioning, rfl, ?_⟩
    intro p' now t
    rw [bindBy_of_plan hplan]
    cases c.bind exists? p.descriptor found <;> exact ⟨rfl, rfl⟩

variable {p : Proxy} {cs : Components} {exists? : String → Bool} {api : ApiDescriptor} {id : String}
  {v : Nat} {found : Properties}

theorem bindBy_unversioned (hfound : found.Carries ((Direct.properties api id).withApiVersion v))
    (hv : v < Width.bound32) (hp : p.descriptor.versioning = none) :
    p.bindBy cs exists? found = .error (.fatal (.missingVersioning p.descriptor.api v)) := by
  have hplan : p.plan cs found = .error (.fatal (.missingVersioning p.descriptor.api v)) := by
    simp [plan, ApiDescriptor.versioningFor, hp, hfound.isVersioned, hfound.apiVersion? hv]
  rw [bindBy, hplan]

theorem bindBy_versioned (hfound : found.Carries ((Direct.properties api id).withApiVersion v))
    (hcs : cs.resolve Direct.name = .ok Direct.component) {c : ApiDefinition}
    (hp : p.descriptor.versioning = some c) (hid : exists? id = true) :
    p.bindBy cs exists? found = .ok (⟨Direct.name, found, p.service, id⟩, some c) := by
  have hselect : cs.select p.descriptor found = .ok Direct.component := by
    simp [Components.select, Direct.component?_of_carries hfound, hcs, Direct.component]
  have hplan : p.plan cs found = .ok (Direct.component, some c) := by
    simp [plan, ApiDescriptor.versioningFor, hp, hselect]
  have hbind : Direct.component.bind exists? p.descriptor found =
      .ok ⟨Direct.name, found, p.service, id⟩ := by
    show Direct.bind exists? p.descriptor found = _
    simp [Direct.bind, Direct.providerId_of_carries hfound, hid, service, key]
  rw [bindBy_of_plan hplan, hbind]

theorem request_eq {b : Bound} {c : ApiDefinition} (hb : b.versioning = some c) (i : Invocation) :
    request b i = { i with version := some c.version } := by
  simp [request, Invocation.stamped, hb]

end Proxy

/-! ## Calling by what was found -/

namespace Direct

variable {τ : Type} {m : Type → Type} [Monad m] [LawfulMonad m] {present : Table String (Provider τ)}
  {run : τ → Invocation → m (Except InvocationError Value)} {p : Provider τ} {d c : ApiDefinition}
  {b : Bound}

omit [LawfulMonad m] in
theorem call_of_present (h : present.get? b.binding.provider = some p) (i : Invocation) :
    call present run b.binding i = p.serve run i := by
  simp [call, h]

/-- A call at a version that is served reaches the provider once, at the version of the provider. -/
theorem call_served (h : present.get? b.binding.provider = some (p.behind d))
    (hb : b.versioning = some c) (hc : c.version ≤ d.version) (i : Invocation) :
    call present run b.binding (Proxy.request b i) =
      Except.map (Migration.downgradeAll (d.downgradeSteps d.version c.version) i.method) <$>
        p.serve run { i with
          args := Migration.upgradeAll (d.upgradeSteps c.version d.version) i.method i.args
          version := some d.version } := by
  rw [call_of_present h, Proxy.request_eq hb, Provider.serve_behind, ApiDefinition.upgrade_stamped hc]
  rfl

/-- A call at a newer version does not reach the provider. -/
theorem call_newer (h : present.get? b.binding.provider = some (p.behind d))
    (hb : b.versioning = some c) (hc : d.version < c.version) (i : Invocation) :
    call present run b.binding (Proxy.request b i) =
      pure (.error (.serialization (.versionMismatch c.version d.version))) := by
  rw [call_of_present h, Proxy.request_eq hb, Provider.serve_behind, ApiDefinition.upgrade_newer hc]

/-- **A versioned call from end to end.** A provider of a versioned API is exported through the direct
component, and a consumer finds what was published. Without a definition of its own the consumer is
unbound for good, for the version that the provider has. With one it is bound, and as long as the provider
is still there, a call reaches it once, with the arguments brought up from the consumer's version to the
provider's, and returns its result brought down again or its error; or the call does not reach it, if the
consumer's version is the newer one. A stamp that an invocation carries already makes no difference. -/
theorem versioned_call {m : Type → Type} [Monad m] [LawfulMonad m] {τ : Type} {cs : Components}
    (hcs : cs.resolve name = .ok component) {api : ApiDescriptor} {d : ApiDefinition}
    (hd : api.versioning = some d) (hv : d.version < Width.bound32)
    (providers : Table String (Provider τ)) (id : String) (p : Provider τ) :
    ∃ exported, cs.exportProvider providers name api id p = .ok exported ∧
      ∀ found : Properties, found.Carries exported.properties →
      ∀ (consumer : Proxy) (exists? : String → Bool) (now : Instant),
        (consumer.descriptor.versioning = none →
          ∃ e, e = .missingVersioning consumer.descriptor.api d.version ∧ e.isFatal = true ∧
            consumer.bindBy cs exists? found = .error (.fatal e) ∧
            (consumer.apply now (consumer.bindBy cs exists? found)).2 = .error (.binding e) ∧
            (consumer.apply now (consumer.bindBy cs exists? found)).1.connection =
              .unbound .notBound e.message (some e)) ∧
        ∀ c, consumer.descriptor.versioning = some c → exists? id = true →
          ∃ b, (consumer.apply now (consumer.bindBy cs exists? found)).2 = .ok b ∧
            (consumer.apply now (consumer.bindBy cs exists? found)).1.connection = .bound b ∧
            ∀ present : Table String (Provider τ), present.get? id = exported.providers.get? id →
            ∀ (run : τ → Invocation → m (Except InvocationError Value)) (i : Invocation),
              (c.version ≤ d.version →
                call present run b.binding (Proxy.request b i) =
                  Except.map (Migration.downgradeAll (d.downgradeSteps d.version c.version) i.method) <$>
                    p.serve run { i with
                      args := Migration.upgradeAll (d.upgradeSteps c.version d.version) i.method i.args
                      version := some d.version }) ∧
              (d.version < c.version →
                call present run b.binding (Proxy.request b i) =
                  pure (.error (.serialization (.versionMismatch c.version d.version)))) ∧
              ∀ stamp, call present run b.binding (Proxy.request b { i with version := stamp }) =
                call present run b.binding (Proxy.request b i) := by
  have hexport : cs.exportProvider providers name api id p =
      .ok ⟨providers.set id (p.behind d), (properties api id).withApiVersion d.version⟩ := by
    simp [Components.exportProvider, hcs, hd, component]
  refine ⟨_, hexport, ?_⟩
  intro found hfound consumer exists? now
  constructor
  · intro hnone
    have hbind : consumer.bindBy cs exists? found =
        .error (.fatal (.missingVersioning consumer.descriptor.api d.version)) :=
      Proxy.bindBy_unversioned hfound hv hnone
    refine ⟨_, rfl, rfl, hbind, ?_, ?_⟩ <;>
    · rw [hbind]
      rfl
  · intro c hc hid
    have hbind : consumer.bindBy cs exists? found =
        .ok (⟨name, found, consumer.service, id⟩, some c) :=
      Proxy.bindBy_versioned hfound hcs hc hid
    rw [hbind]
    refine ⟨_, rfl, rfl, ?_⟩
    intro present hpresent run i
    have hthere : present.get? id = some (p.behind d) := by
      rw [hpresent, Table.get?_set, if_pos rfl]
    refine ⟨?_, ?_, ?_⟩
    · intro hle
      exact call_served hthere rfl hle i
    · intro hlt
      exact call_newer hthere rfl hlt i
    · intro stamp
      rfl

namespace Sample

/-- The second version of a finder takes a city and calls the stars of a restaurant its rating. -/
def addCity : Migration where
  fromVersion := 1
  upgrade _ args := args ++ [.string "Stockholm"]
  downgrade _ result :=
    match result with
    | .object [("rating", v)] => .object [("stars", v)]
    | _ => result

def finder : ApiDescriptor :=
  { api := "lunch.RestaurantFinder", versioning := some { version := 2, migrations := [addCity] } }

def components : Components := Components.ofList [component]

/-- What an application makes of published properties. -/
def exported (p : Properties) : Properties := Exporter.stamp { settings := { instanceId := "one" } } p

/-- A provider gives its fixed answer and keeps what it was asked. -/
def ask (answer : Value) (i : Invocation) : StateM (List Invocation) (Except InvocationError Value) := do
  modify (· ++ [i])
  return .ok answer

/-- A consumer with a definition of the given version, or without one. -/
def consumer (version : Option Nat) : Proxy :=
  { descriptor := { api := "lunch.RestaurantFinder", versioning := version.map fun v => { version := v } }
    settings := {} }

/-- What a consumer's attempt to bind to the exported provider brings. -/
def binds (version : Option Nat) (x : Components.Exported Value) : Except InvocationError Bound :=
  ((consumer version).apply 0
    ((consumer version).bindBy components x.providers.contains (exported x.properties))).2

/-- What a call brings, and what the provider was asked. -/
def calls (x : Components.Exported Value) (b : Bound) : Except InvocationError Value × List Invocation :=
  (call x.providers ask b.binding
    (Proxy.request b { method := "getByName", args := [.string "Pizza Hut"] })).run []

end Sample

/-- A provider at the second version, and consumers without a version, at an older and at a newer one. -/
theorem versioned_call_finder :
    ∃ x, Sample.components.exportProvider Table.empty name Sample.finder "id"
        { target := .object [("rating", .nat 5)] } = .ok x ∧
      Sample.binds none x = .error (.binding (.missingVersioning "lunch.RestaurantFinder" 2)) ∧
      (∃ b, Sample.binds (some 1) x = .ok b ∧
        Sample.calls x b = (.ok (.object [("stars", .nat 5)]),
          [⟨"getByName", [.string "Pizza Hut", .string "Stockholm"], some 2⟩])) ∧
      ∃ b, Sample.binds (some 3) x = .ok b ∧
        Sample.calls x b = (.error (.serialization (.versionMismatch 3 2)), []) := by
  have hcs : Sample.components.resolve name = .ok component := rfl
  have hd : Sample.finder.versioning = some { version := 2, migrations := [Sample.addCity] } := rfl
  obtain ⟨x, hexport, hcalls⟩ := versioned_call (m := StateM (List Invocation)) hcs hd
    (show 2 < Width.bound32 by decide) Table.empty "id"
    ({ target := .object [("rating", .nat 5)] } : Provider Value)
  have hcarries : (Sample.exported x.properties).Carries x.properties := by
    obtain rfl := Except.ok.inj hexport
    exact carries_stamp _ Sample.finder "id" 2
  have hid : x.providers.contains "id" = true := by
    obtain rfl := Except.ok.inj hexport
    rfl
  have hbinds := fun version => hcalls _ hcarries (Sample.consumer version) x.providers.contains 0
  refine ⟨x, hexport, ?_, ?_, ?_⟩
  · obtain ⟨e, rfl, -, -, herror, -⟩ := (hbinds none).1 rfl
    exact herror
  · obtain ⟨b, hb, -, hcall⟩ := (hbinds (some 1)).2 _ rfl hid
    refine ⟨b, hb, ?_⟩
    rw [Sample.calls, (hcall _ rfl Sample.ask _).1 (show 1 ≤ 2 by decide)]
    rfl
  · obtain ⟨b, hb, -, hcall⟩ := (hbinds (some 3)).2 _ rfl hid
    refine ⟨b, hb, ?_⟩
    rw [Sample.calls, (hcall _ rfl Sample.ask _).2.1 (show 2 < 3 by decide)]
    rfl

end Direct

end ServiceBinding
