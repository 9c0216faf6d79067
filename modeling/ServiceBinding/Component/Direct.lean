import ServiceBinding.Component.Basic

/-!
# The direct component

It binds consumers to providers of the same process, which are published by their ids. A binding
keeps the id only, so a provider taken away after the binding was made shows in the next call.
Beside it stand a component of the same kind that needs time to bind, and one that stands for a
message queue without a broker.
-/

namespace ServiceBinding

namespace Direct

def name : String := "direct"

/-- The property that holds the id of the provider. -/
def providerName : String := "providerId"

/-- What is published of the provider with an id. -/
def properties (api : ApiDescriptor) (id : String) : Properties :=
  (api.propertiesThrough name).set providerName id

def bind (exists? : String → Bool) (api : ApiDescriptor) (p : Properties) :
    Except BindError Binding :=
  match p.get? providerName with
  | none => .error (.invalidProperties ("missing " ++ providerName))
  | some id =>
    if exists? id then .ok ⟨name, p, api.key.text, id⟩ else .error (.providerNotFound name id)

/-- The parameters of a service URI are the id, without blanks at its ends. -/
def readParams (params : String) : Except BindError Properties :=
  let id := Text.trim params
  if id.isEmpty then .error (.invalidUri (name ++ ":"))
  else .ok (Properties.empty.set providerName id)

def component : Component :=
  { name, bind, readParams, hosts := true, publish := properties }

/-- The failure of a call whose provider no longer exists. -/
def gone (b : Binding) : InvocationError :=
  .unavailable ⟨b.service, .targetGone, "direct provider " ++ b.provider ++ " is gone", none⟩

/-- A call on a binding: the provider is looked up anew and answers, run by `run`. -/
def call {m : Type → Type} [Monad m] {τ : Type} (providers : Table String (Provider τ))
    (run : τ → Invocation → m (Except InvocationError Json.Value)) (b : Binding) (i : Invocation) :
    m (Except InvocationError Json.Value) :=
  match providers.get? b.provider with
  | some p => p.serve run i
  | none => pure (.error (gone b))

/-- A component of another name that takes its time to bind and is else the direct component. -/
def delayed (name : String) (latency : Span) : Component := { component with name, latency }

end Direct

namespace Queue

/-- The property that holds the parameters of a service URI. -/
def queueName : String := "queue"

/-- A component for listeners only, which finds no broker to bind to. -/
def component (name : String) : Component :=
  { name
    canBind := fun api => "Listener".toList.isSuffixOf api.api.toList
    bind := fun _ _ _ => .error (.invalidProperties "no broker")
    readParams := fun params => .ok (Properties.empty.set queueName params)
    isConcurrent := false
    hosts := false
    publish := fun api _ => api.propertiesThrough name }

end Queue

end ServiceBinding
