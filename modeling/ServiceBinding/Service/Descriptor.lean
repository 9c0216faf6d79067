import ServiceBinding.Data.Table
import ServiceBinding.Service.Properties
import ServiceBinding.Versioning.Migration

/-!
# Descriptors of consumed APIs

A descriptor tells what a consumer knows of a service: API and qualifier, the definition of a
versioned API, and how its methods are grouped into isolated commands.
-/

namespace ServiceBinding

/-- What a consumer knows of the API that it consumes. -/
structure ApiDescriptor where
  api : String
  qualifier : Option String := none
  versioning : Option ApiDefinition := none
  /-- The groups of methods that are not in the default group. -/
  groups : Table String String := Table.empty

namespace ApiDescriptor

def defaultGroup : String := "default"

def key (d : ApiDescriptor) : ServiceKey := ⟨d.api, d.qualifier⟩

def groupOf (d : ApiDescriptor) (method : String) : String :=
  (d.groups.get? method).getD defaultGroup

/-- The key of the command that a method runs in. -/
def commandKey (d : ApiDescriptor) (method : String) : String :=
  d.key.text ++ "#" ++ d.groupOf method

/-- What a provider of the API publishes through a component. -/
def propertiesThrough (d : ApiDescriptor) (component : String) : Properties :=
  let p := Properties.forApi d.api component
  match d.qualifier with
  | some q => p.withQualifier q
  | none => p

/-- The definition by which a consumer calls a provider with the given properties, if it calls it
by one. A versioned provider cannot be called without. -/
def versioningFor (d : ApiDescriptor) (p : Properties) : Except BindError (Option ApiDefinition) :=
  match d.versioning with
  | some definition => .ok (some definition)
  | none =>
    if p.isVersioned then .error (.missingVersioning d.api (p.apiVersion?.getD 0)) else .ok none

end ApiDescriptor

/-- The consumer's side of a versioned call: every invocation carries the consumer's version. -/
def Invocation.stamped (i : Invocation) (versioning : Option ApiDefinition) : Invocation :=
  match versioning with
  | some d => { i with version := some d.version }
  | none => i

end ServiceBinding
