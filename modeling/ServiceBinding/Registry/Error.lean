import ServiceBinding.Service.Properties

/-!
# Failures of service registries
-/

namespace ServiceBinding

/-- Why an operation on a registry failed. -/
inductive RegistryError
  /-- The registry could not be reached. -/
  | unavailable (detail : String)
  /-- The entry cannot be stored. -/
  | invalidEntry (detail : String)
  /-- Nothing is stored under the key and instance. -/
  | notRegistered (subject : String)
  deriving DecidableEq, Inhabited

namespace RegistryError

def message : RegistryError → String
  | .unavailable detail => "Registry unavailable: " ++ detail
  | .invalidEntry detail => "Invalid registry entry: " ++ detail
  | .notRegistered subject => "Service not registered: " ++ subject

end RegistryError

/-- The key properties are published under, or why they cannot be published. -/
def Properties.key (p : Properties) : Except RegistryError ServiceKey :=
  match p.key? with
  | some k => .ok k
  | none => .error (.invalidEntry "missing API type")

end ServiceBinding
