import ServiceBinding.Command.Commands
import ServiceBinding.Component.Direct
import ServiceBinding.Proxy.Call
import ServiceBinding.Proxy.Recheck
import ServiceBinding.Registry.Cache
import ServiceBinding.Registry.Configured
import ServiceBinding.Registry.Exporter
import ServiceBinding.Registry.Leases
import ServiceBinding.Simulation.Labels
import ServiceBinding.Simulation.Script

/-!
# The simulated world

One registry of leases behind a link, a cache over the link, a configured registry, an exporter that
publishes over the link, components, providers, commands and proxies, all at one instant. The link
may be down, and it makes look-ups wait.
-/

namespace ServiceBinding.Simulation

/-- The link between an application and the registry. -/
structure Link where
  /-- While it is down every operation over it fails. -/
  down : Bool := false
  /-- How long a look-up is on its way. -/
  latency : Span := 0
  /-- Look-ups begun. -/
  lookups : Nat := 0
  deriving Inhabited

/-- The registry an operation is made on. -/
inductive Via
  | link | cache | configured
  deriving DecidableEq, Inhabited

/-- A provider of the simulation, whose calls are counted under a number. -/
structure Hosted where
  service : Service
  counter : Nat

/-- A proxy and the registry that it looks its service up in. -/
structure ProxyInUse where
  proxy : Proxy
  via : Via

/-- The operation of a command, not begun or until when it takes. -/
inductive Operation
  | callBegins (b : Binding) (i : Invocation)
  | call (due : Instant) (fate : Fate InvocationError Json.Value)
  | workBegins (w : Work)
  | work (due : Instant) (fate : Fate WorkError Json.Value)

/-- An operation that holds a slot of its command. -/
structure RunningOperation where
  ticket : Ticket
  command : String
  operation : Operation

/-- Everything there is at one instant, but for who waits for what. -/
structure World where
  now : Instant := 0
  registry : LeaseRegistry := {}
  link : Link := {}
  cache : LookupCache
  configured : ConfiguredRegistry := {}
  exporter : Option Exporter := none
  components : Components
  providers : Table String (Provider Hosted) := Table.empty
  /-- The ids of exported providers. -/
  labels : Labels := {}
  /-- The counter of the provider last added under an id, or exported under a label. -/
  counters : Table String Nat := Table.empty
  /-- The methods called, by counter. -/
  calls : Table Nat (List String) := Table.empty
  commands : Commands
  proxies : Table Nat ProxyInUse := Table.empty
  proxyNames : Table String Nat := Table.empty
  bindings : Table String Binding := Table.empty
  saved : Table String Entry := Table.empty
  operations : List RunningOperation := []
  /-- How operations ended whose callers have not yet seen it. -/
  callEndings : Table Ticket (Ending InvocationError Json.Value) := Table.empty
  workEndings : Table Ticket (Ending WorkError Json.Value) := Table.empty
  /-- Numbers from here on have not been used. -/
  fresh : Nat := 0

namespace World

def takeNumber (w : World) : World × Nat := ({ w with fresh := w.fresh + 1 }, w.fresh)

/-! ## Registries -/

def overLink (w : World) (op : LeaseRegistry → Except RegistryError LeaseRegistry) :
    World × Except RegistryError Unit :=
  if w.link.down then (w, .error (.unavailable "connection refused"))
  else
    match op w.registry with
    | .ok registry => ({ w with registry }, .ok ())
    | .error e => (w, .error e)

def forgetting (w : World) (key : ServiceKey) : World :=
  { w with cache := w.cache.forget key }

/-- Forgets what the cache knows of an entry's key; an entry without a key is refused. -/
def throughCache (w : World) (e : Entry)
    (op : World → World × Except RegistryError Unit) : World × Except RegistryError Unit :=
  match e.key with
  | .error err => (w, .error err)
  | .ok key => op (w.forgetting key)

private def configuredRegister (w : World) (e : Entry) : World × Except RegistryError Unit :=
  match w.configured.register e with
  | .ok configured => ({ w with configured }, .ok ())
  | .error err => (w, .error err)

def register (w : World) (via : Via) (e : Entry) : World × Except RegistryError Unit :=
  match via with
  | .link => w.overLink (·.register w.now e)
  | .cache => w.throughCache e (·.overLink (·.register w.now e))
  | .configured => w.configuredRegister e

def renew (w : World) (via : Via) (e : Entry) : World × Except RegistryError Unit :=
  match via with
  | .link => w.overLink (·.renew w.now e)
  | .cache => w.throughCache e (·.overLink (·.renew w.now e))
  | .configured => w.configuredRegister e

def deregister (w : World) (via : Via) (key : ServiceKey) (instanceId : String) :
    World × Except RegistryError Unit :=
  match via with
  | .link => w.overLink (·.deregister key instanceId)
  | .cache => (w.forgetting key).overLink (·.deregister key instanceId)
  | .configured =>
    match w.configured.deregister key with
    | .ok configured => ({ w with configured }, .ok ())
    | .error e => (w, .error e)

def list (w : World) (via : Via) (key : ServiceKey) : Except RegistryError (List Entry) :=
  match via with
  | .configured => .ok (w.configured.list key)
  | _ =>
    if w.link.down then .error (.unavailable "connection refused")
    else .ok (w.registry.list w.now key)

/-- What a registry answers to a look-up. -/
abbrev Found := Except RegistryError (Option Entry)

/-- A look-up that was begun: answered, or on its way over the link. -/
inductive PendingLookup
  | answered (found : Found)
  /-- It arrives at `arrival`. If it came through the cache, that keeps what it finds. -/
  | onLink (key : ServiceKey) (arrival : Instant) (cachedSince : Option Instant)

def beginOnLink (w : World) (key : ServiceKey) (cachedSince : Option Instant) :
    World × PendingLookup :=
  ({ w with link := { w.link with lookups := w.link.lookups + 1 } },
    .onLink key (w.now + w.link.latency) cachedSince)

def beginLookup (w : World) (via : Via) (key : ServiceKey) : World × PendingLookup :=
  match via with
  | .configured => (w, .answered (.ok (w.configured.lookup key)))
  | .link => w.beginOnLink key none
  | .cache =>
    let (cache, found) := w.cache.serve w.now key
    let w := { w with cache }
    match found with
    | some e => (w, .answered (.ok (some e)))
    | none => w.beginOnLink key (some w.now)

/-- The text with which a look-up breaks off if the clock cannot tell until when to keep its answer. -/
def beyondClock : String := "overflow when adding duration to instant"

/-- The end of a look-up, if it has come. -/
def endLookup? (w : World) : PendingLookup → Option (World × Fate RegistryError (Option Entry))
  | .answered found => some (w, .result found)
  | .onLink key arrival cachedSince =>
    if w.now < arrival then none
    else if w.link.down then some (w, .result (.error (.unavailable "connection refused")))
    else
      let found := w.registry.lookup w.now key
      match cachedSince with
      | none => some (w, .result (.ok found))
      | some start =>
        match w.cache.keep? start key found with
        | some cache => some ({ w with cache }, .result (.ok found))
        | none => some (w, .broken beyondClock)

/-! ## The exporter -/

/-- Publishes a service; `none` if there is no exporter. -/
def publish (w : World) (p : Properties) : World × Option (Except RegistryError Entry) :=
  match w.exporter with
  | none => (w, none)
  | some x =>
    match x.remember p with
    | .error e => (w, some (.error e))
    | .ok (x, entry) =>
      let (w, r) := ({ w with exporter := some x }).register .link entry
      (w, some (r.map fun _ => entry))

/-- Takes a published service back. -/
def withdraw (w : World) (key : ServiceKey) : World × Option (Except RegistryError Unit) :=
  match w.exporter with
  | none => (w, none)
  | some x =>
    let (x', exported) := x.forget key
    let w := { w with exporter := some x' }
    if exported then
      let (w, r) := w.deregister .link key x.settings.instanceId
      (w, some r)
    else (w, some (.ok ()))

/-- Renews every published service; also how many were renewed. -/
def renewAll (w : World) (x : Exporter) : World × Nat :=
  x.renewals.foldl (fun (w, n) e =>
    match w.renew .link e with
    | (w, .ok ()) => (w, n + 1)
    | (w, .error _) => (w, n)) (w, 0)

/-! ## Providers -/

/-- Makes a service a provider whose calls are counted under a name from now on. -/
def counted (w : World) (name : String) (p : Provider Service) : World × Provider Hosted :=
  let (w, counter) := w.takeNumber
  ({ w with counters := w.counters.set name counter }, ⟨p.layers, ⟨p.target, counter⟩⟩)

def addProvider (w : World) (id : String) (p : Provider Service) : World :=
  let (w, hosted) := w.counted id p
  { w with providers := w.providers.set id hosted }

/-- Exports a provider under an id that was never used, known by the label. -/
def exportProvider (w : World) (component : String) (d : ApiDescriptor) (p : Provider Service)
    (label : String) : World × Except BindError Properties :=
  let (w, hosted) := w.counted label p
  let (w, number) := w.takeNumber
  let id := Labels.idOf number
  match w.components.exportProvider w.providers component d id hosted with
  | .error e => (w, .error e)
  | .ok exported =>
    ({ w with providers := exported.providers, labels := w.labels.issue id label },
      .ok exported.properties)

/-- How often the provider last counted under a name was called. -/
def callsOf? (w : World) (name : String) : Option Nat :=
  (w.counters.get? name).map fun counter => ((w.calls.get? counter).getD []).length

/-- Whether a provider with the given id exists. -/
def hasProvider (w : World) (id : String) : Bool := w.providers.contains id

/-! ## Commands and proxies -/

def command (w : World) (key : String) : Command := w.commands.get key

def setCommand (w : World) (c : Command) : World := { w with commands := w.commands.put c }

def setProxy (w : World) (number : Nat) (p : Proxy) : World :=
  { w with proxies := w.proxies.modify number fun u => { u with proxy := p } }

def namedProxy? (w : World) (name : String) : Option (Nat × ProxyInUse) := do
  let number ← w.proxyNames.get? name
  let u ← w.proxies.get? number
  return (number, u)

end World

end ServiceBinding.Simulation
