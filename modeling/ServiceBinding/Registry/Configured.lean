import ServiceBinding.Component.Basic

/-!
# Configured services

A registry of services at fixed places, each configured by a service URI or registered by its
entry. Its entries carry no lease and never end.
-/

namespace ServiceBinding

/-- The entries of configured services, by key. -/
structure ConfiguredRegistry where
  entries : Table ServiceKey Entry := Table.empty

namespace ConfiguredRegistry

instance : Inhabited ConfiguredRegistry := ⟨{}⟩

/-- The entry of a service without a lease. -/
private def fixed (p : Properties) : Entry := ⟨p, 0, none⟩

/-- Has a key served by the provider at a service URI. -/
def configure (r : ConfiguredRegistry) (cs : Components) (key : ServiceKey) (uri : String) :
    Except BindError ConfiguredRegistry :=
  match cs.propertiesOfUri key uri with
  | .error e => .error e
  | .ok p => .ok ⟨r.entries.set key (fixed p)⟩

def register (r : ConfiguredRegistry) (e : Entry) : Except RegistryError ConfiguredRegistry :=
  match e.key with
  | .error err => .error err
  | .ok key => .ok ⟨r.entries.set key (fixed e.properties)⟩

def deregister (r : ConfiguredRegistry) (key : ServiceKey) :
    Except RegistryError ConfiguredRegistry :=
  if r.entries.contains key then .ok ⟨r.entries.erase key⟩ else .error (.notRegistered key.text)

def lookup (r : ConfiguredRegistry) (key : ServiceKey) : Option Entry := r.entries.get? key

def list (r : ConfiguredRegistry) (key : ServiceKey) : List Entry := (r.lookup key).toList

def size (r : ConfiguredRegistry) : Nat := r.entries.size

def isEmpty (r : ConfiguredRegistry) : Bool := r.entries.isEmpty

end ConfiguredRegistry

end ServiceBinding
