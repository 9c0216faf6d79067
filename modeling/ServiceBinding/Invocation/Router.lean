import ServiceBinding.Data.Table
import ServiceBinding.Invocation.Codec
import ServiceBinding.Text.Escaped

/-!
# Routers

A router dispatches the invocations of one API to typed handlers, one for each method. A handler
sees arguments of its own type only, and fails by exceptions of its own domain only.
-/

namespace ServiceBinding

open Json

/-- Handlers by method. -/
structure Router where
  api : String
  handlers : Table String (Invocation → Except InvocationError Value) := Table.empty

namespace Router

variable {α : Type u} {β : Type v}

/-- Runs a typed handler on the arguments of an invocation. -/
def handle (args : Codec α) (result : Codec β) (handler : α → Except ServiceException β)
    (i : Invocation) : Except InvocationError Value :=
  match i.decodeArgs args.decode with
  | .error e => .error (.serialization e)
  | .ok x =>
    match handler x with
    | .error e => .error (.service e)
    | .ok y => .ok (result.encode y)

/-- Routes a method to a handler, in place of an earlier one. -/
def route (r : Router) (method : String) (args : Codec α) (result : Codec β)
    (handler : α → Except ServiceException β) : Router :=
  { r with handlers := r.handlers.set method (handle args result handler) }

/-- Answers an invocation. -/
def invoke (r : Router) (i : Invocation) : Except InvocationError Value :=
  match r.handlers.get? i.method with
  | some handler => handler i
  | none => .error (.serialization (.unknownMethod (r.api ++ "." ++ i.method)))

/-- The routed methods in order. -/
def methods (r : Router) : List String := r.handlers.keys.mergeSort

/-- A router as it is shown to a developer. -/
def summary (r : Router) : String :=
  "MethodRouter \x7b api: " ++ Text.quoted r.api ++ ", methods: " ++ toString r.handlers.size ++
    " \x7d"

end Router

end ServiceBinding
