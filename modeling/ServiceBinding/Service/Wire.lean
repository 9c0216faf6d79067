import ServiceBinding.Data.Width
import ServiceBinding.Json.Decode
import ServiceBinding.Service.Entry

/-!
# Wire forms of keys, properties and records
-/

namespace ServiceBinding

open Json

namespace ServiceKey

def toJson (k : ServiceKey) : Value :=
  .ofFields [("service_type", .string k.api),
    ("qualifier", match k.qualifier with
      | some q => .string q
      | none => .null)]

def ofDocument? (d : Document) : Option ServiceKey := do
  let slots ← d.record? {} ["service_type", "qualifier"]
  let api ← (slots "service_type").required Document.string?
  let qualifier ← (slots "qualifier").optional Document.string?
  return ⟨api, qualifier⟩

end ServiceKey

namespace Properties

/-- The properties as a JSON object. -/
def fieldsJson (p : Properties) : Value :=
  .object (p.entries.map fun kv => (kv.1, .string kv.2))

def toJson (p : Properties) : Value := .ofFields [("properties", p.fieldsJson)]

def ofDocument? (d : Document) : Option Properties := do
  let slots ← d.record? {} ["properties"]
  (slots "properties").required fun d => (d.map? Document.string?).map ofList

end Properties

namespace Record

def toJson (r : Record) : Value :=
  .ofFields [("serviceProperties", r.properties.toJson), ("leaseMs", .nat r.leaseMillis)]

def ofDocument? (d : Document) : Option Record := do
  let slots ← d.record? {} ["serviceProperties", "leaseMs"]
  let properties ← (slots "serviceProperties").required Properties.ofDocument?
  let lease ← (slots "leaseMs").required (Document.natBelow? Width.bound64)
  return ⟨properties, lease⟩

end Record

end ServiceBinding
