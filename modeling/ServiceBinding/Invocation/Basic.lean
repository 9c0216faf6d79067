import ServiceBinding.Data.Width
import ServiceBinding.Invocation.Error
import ServiceBinding.Json.Decode

/-!
# Invocations

One call of a method: its name, its arguments as JSON values and, for versioned services, the API
version at which they are encoded.
-/

namespace ServiceBinding

open Json

/-- One call of a method. -/
structure Invocation where
  method : String
  args : List Value := []
  version : Option Nat := none
  deriving Inhabited

namespace Invocation

/-- The argument list of an encoded argument tuple: an array gives its items, null nothing, and
any other value is the only argument. -/
def argsOf : Value → List Value
  | .array items => items
  | .null => []
  | v => [v]

def withArgs (method : String) (args : Value) : Invocation := { method, args := argsOf args }

/-- The wire form: the version stands in it only if there is one. -/
def toJson (i : Invocation) : Value :=
  .ofFields ([("method", .string i.method), ("args", .array i.args)] ++
    match i.version with
    | some v => [("version", .nat v)]
    | none => [])

def ofDocument? (d : Document) : Option Invocation := do
  let slots ← d.record? {} ["method", "args", "version"]
  let method ← (slots "method").required Document.string?
  let args ← (slots "args").withDefault [] (Document.list? Document.toValue?)
  let version ← (slots "version").withDefault none (Document.option (Document.natBelow? Width.bound32))
  return ⟨method, args, version⟩

end Invocation

end ServiceBinding
