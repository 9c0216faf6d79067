import ServiceBinding.Component.Uri
import ServiceBinding.Service.Descriptor
import ServiceBinding.Service.Entry
import ServiceBinding.Text.Escaped
import ServiceBinding.Versioning.Provider

/-!
# Service components

A component knows one transport: it binds consumers to providers by their properties and exports
providers. The components of an application form a table, in which the property `_component` of an
entry finds the one to bind with.
-/

namespace ServiceBinding

/-- A binding to one provider of this process. -/
structure Binding where
  /-- The component that made the binding. -/
  component : String
  /-- The properties it was made from. -/
  properties : Properties
  /-- The bound service, for messages. -/
  service : String
  /-- The id of the bound provider. -/
  provider : String
  deriving DecidableEq, Inhabited

/-- One way to bind consumers and to export providers. -/
structure Component where
  name : String
  /-- Whether consumers of an API can be bound at all. -/
  canBind : ApiDescriptor → Bool := fun _ => true
  /-- How long a binding takes. -/
  latency : Span := 0
  /-- Binds by the given properties, knowing which provider ids exist. -/
  bind : (String → Bool) → ApiDescriptor → Properties → Except BindError Binding
  /-- Reads the parameters of a service URI. -/
  readParams : String → Except BindError Properties
  /-- Whether several bound calls may be under way at a time. -/
  isConcurrent : Bool := true
  /-- Whether an export needs a provider of this process. -/
  requiresInstance : Bool := true
  /-- Whether an exported provider is kept in this process, under the id it is published with. -/
  hosts : Bool
  /-- What is published of a provider exported under an id. -/
  publish : ApiDescriptor → String → Properties

/-- What a provider exported through the component publishes at least. -/
def Component.baseProperties (c : Component) (api : ApiDescriptor) : Properties :=
  api.propertiesThrough c.name

/-- Components by name. -/
structure Components where
  table : Table String Component := Table.empty

namespace Components

/-- Adds a component, in place of an earlier one of its name. -/
def add (cs : Components) (c : Component) : Components := ⟨cs.table.set c.name c⟩

def ofList (components : List Component) : Components := components.foldl add {}

def resolve (cs : Components) (name : String) : Except BindError Component :=
  match cs.table.get? name with
  | some c => .ok c
  | none => .error (.unknownComponent name)

/-- The names in order. -/
def names (cs : Components) : List String := cs.table.keys.mergeSort

/-- The table as it is shown to a developer. -/
def summary (cs : Components) : String :=
  "ServiceComponents \x7b components: [" ++ String.intercalate ", " (cs.names.map Text.quoted) ++
    "] \x7d"

/-- The component that binds consumers of an API to a provider with the given properties. -/
def select (cs : Components) (api : ApiDescriptor) (p : Properties) : Except BindError Component :=
  match p.component? with
  | none => .error (.invalidProperties ("missing " ++ Properties.componentName))
  | some name =>
    match cs.resolve name with
    | .error e => .error e
    | .ok c => if c.canBind api then .ok c else .error (.unsupportedTarget name api.api)

/-- Binds by the component named in the properties. -/
def bind (cs : Components) (exists? : String → Bool) (api : ApiDescriptor) (p : Properties) :
    Except BindError Binding :=
  match cs.select api p with
  | .error e => .error e
  | .ok c => c.bind exists? api p

/-- The providers after an export, and what is published of the exported one. -/
structure Exported (τ : Type) where
  providers : Table String (Provider τ)
  properties : Properties

/-- Exports a provider through a component, under an id not yet in use. A provider of a versioned
API is put behind its definition, and its version is published. -/
def exportProvider {τ : Type} (cs : Components) (providers : Table String (Provider τ))
    (component : String) (api : ApiDescriptor) (id : String) (p : Provider τ) :
    Except BindError (Exported τ) :=
  match cs.resolve component with
  | .error e => .error e
  | .ok c =>
    let hosted (p : Provider τ) := if c.hosts then providers.set id p else providers
    match api.versioning with
    | some d => .ok ⟨hosted (p.behind d), (c.publish api id).withApiVersion d.version⟩
    | none => .ok ⟨hosted p, c.publish api id⟩

/-- The properties of a service found at a service URI. -/
def propertiesOfUri (cs : Components) (key : ServiceKey) (uri : String) :
    Except BindError Properties :=
  match ServiceUri.parse uri with
  | .error e => .error e
  | .ok u =>
    match cs.resolve u.component with
    | .error e => .error e
    | .ok c =>
      match c.readParams u.params with
      | .error e => .error e
      | .ok p =>
        let p := (p.set Properties.componentName u.component).set Properties.apiName key.api
        match key.qualifier with
        | some q => .ok (p.set Properties.qualifierName q)
        | none => .ok p

end Components

end ServiceBinding
