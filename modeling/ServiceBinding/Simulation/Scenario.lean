import ServiceBinding.Simulation.Schedule

/-!
# Scenarios

A scenario is a list of steps on a session. A step takes place at once or waits; after each step
everything in the background goes on that can. A scenario shows the answer of each step and the
instant at which it ended, or the text with which one broke off.
-/

namespace ServiceBinding.Simulation

/-- What a session begins with. -/
structure Setup where
  config : CommandConfig := {}
  /-- How long a found entry is kept; of no length, nothing is. -/
  cacheTtl : Span := 0
  exporter : Option ExporterSettings := none
  components : List Component := [Direct.component]

/-- One step of a scenario. -/
inductive Step
  /-- An action, in the foreground or as a task. -/
  | act (a : Action) (task : Option String)
  | advance (d : Span)
  | join (task : String)
  | cancel (task : String)
  | pending
  | setLink (down : Bool) (latency : Span)
  | linkLookups
  | cacheCounts
  | invalidate (key : ServiceKey)
  | saved (name : String)
  | exportedKeys
  | exporterSettings
  | startRenewals
  | dropExporter
  | startRechecks (proxy : String)
  | stopWorker (worker : String)
  | workerFinished (worker : String)
  | configure (key : ServiceKey) (uri : String)
  | configureAlone (key : ServiceKey) (uri : String)
  | configuredSize
  | uriProperties (key : ServiceKey) (uri : String)
  | componentNames
  | resolve (name : String) (d : ApiDescriptor)
  | addProvider (id : String) (p : Provider Service)
  | removeProvider (id : String)
  | providerProperties (d : ApiDescriptor) (id : String)
  | providerCalls (id : String)
  | createProxy (name : String) (d : ApiDescriptor) (s : ProxySettings) (via : Via)
  | status (proxy : String)
  | proxyStats (proxy : String)
  | summary (proxy : String)
  | settingsSummary (proxy : String)
  | dropProxy (proxy : String)
  | command (key : String)
  | commands
  | forceOpen (key : String)
  | resetCircuit (key : String)
  | circuit (key : String)
  | bulkhead (key : String)

namespace Session

def new (setup : Setup) : Except ConfigError Session :=
  (Commands.new setup.config).map fun commands =>
    { world :=
        { cache := { ttl := setup.cacheTtl }
          exporter := setup.exporter.map fun settings => { settings }
          components := Components.ofList setup.components
          commands } }

/-- The name of the worker that renews exported services. -/
def renewalWorker : String := "renewal"

private def startWorker (s : Session) (name : String) (a : Activity) : Session :=
  let (s, number) := s.start a
  { s with workerNames := s.workerNames.set name number }

private def onProxy (s : Session) (name : String) (f : Proxy → Reply) : Session × StepEnd :=
  match s.world.namedProxy? name with
  | some (_, u) => (s, .ok (f u.proxy))
  | none => (s, .ok .nothing)

private def onBreaker (s : Session) (key : String) (f : Breaker → Breaker × Reply) :
    Session × StepEnd :=
  let c := s.world.command key
  let (breaker, r) := f c.breaker
  ({ s with world := s.world.setCommand { c with breaker } }, .ok r)

/-- Reads the counts of every command. -/
private def commandStats (w : World) : World × List CommandStats :=
  w.commands.sorted.foldl (fun (w, stats) c =>
    let (breaker, b) := c.breaker.stats w.now
    (w.setCommand { c with breaker }, stats ++ [⟨c.key, c.bulkhead, b⟩])) (w, [])

private def ofConfigure (s : Session) (r : Except BindError ConfiguredRegistry)
    (f : ConfiguredRegistry → Session × Reply) : Session × StepEnd :=
  match r with
  | .ok configured =>
    let (s, reply) := f configured
    (s, .ok reply)
  | .error e => (s, .ok (.bindError e))

/-- Performs a step. -/
def perform (s : Session) (step : Step) : Session × StepEnd :=
  let w := s.world
  let shows (r : Reply) : Session × StepEnd := (s, .ok r)
  let becomes (w : World) (r : Reply) : Session × StepEnd := ({ s with world := w }, .ok r)
  match step with
  | .act a none => s.act a
  | .act a (some task) =>
    let (s, number) := s.start (.begins a)
    ({ s with taskNames := s.taskNames.set task number }, .ok .spawned)
  | .advance d => s.waitFor stepLimit (.time (w.now + d))
  | .join task =>
    match s.taskNames.get? task with
    | some number => s.waitFor stepLimit (.task task number)
    | none => shows .nothing
  | .cancel task =>
    match s.taskNames.get? task with
    | some number => (s.cancel number, .ok .nothing)
    | none => shows .nothing
  | .pending =>
    let unfinished := s.taskNames.entries.filter fun kv => !s.isFinished kv.2
    shows (.texts (unfinished.map Prod.fst).mergeSort)
  | .setLink down latency => becomes { w with link := { w.link with down, latency } } .nothing
  | .linkLookups => shows (.count w.link.lookups)
  | .cacheCounts => shows (.cacheCounts w.cache.hits w.cache.misses)
  | .invalidate key => becomes { w with cache := w.cache.forget key } .nothing
  | .saved name => shows (.entry ((w.saved.get? name).map (EntryView.at w.now)))
  | .exportedKeys =>
    match w.exporter with
    | some x => shows (.texts ((ServiceKey.sorted x.exported.keys).map ServiceKey.text))
    | none => shows .nothing
  | .exporterSettings =>
    match w.exporter with
    | some x => shows (.exporterSettings x.settings)
    | none => shows .nothing
  | .startRenewals => (s.startWorker renewalWorker (.renewals none), .ok .nothing)
  | .dropExporter => becomes { w with exporter := none } (.flag w.exporter.isSome)
  | .startRechecks name =>
    match w.proxyNames.get? name with
    | some number => (s.startWorker name (.rechecks number none none), .ok .nothing)
    | none => shows .nothing
  | .stopWorker worker =>
    match s.workerNames.get? worker with
    | some number => (s.cancel number, .ok .nothing)
    | none => shows .nothing
  | .workerFinished worker =>
    match s.workerNames.get? worker with
    | some number => shows (.flag (s.isFinished number))
    | none => shows .nothing
  | .configure key uri =>
    s.ofConfigure (w.configured.configure w.components key uri) fun configured =>
      ({ s with world := { w with configured } }, .done)
  | .configureAlone key uri =>
    s.ofConfigure (({} : ConfiguredRegistry).configure w.components key uri) fun configured =>
      (s, .size configured.size configured.isEmpty)
  | .configuredSize => shows (.size w.configured.size w.configured.isEmpty)
  | .uriProperties key uri =>
    match w.components.propertiesOfUri key uri with
    | .ok p => shows (.properties p)
    | .error e => shows (.bindError e)
  | .componentNames => shows (.components w.components.names w.components.summary)
  | .resolve name d =>
    match w.components.resolve name with
    | .ok c =>
      shows (.component
        ⟨c.name, c.canBind d, c.isConcurrent, c.requiresInstance, c.baseProperties d⟩)
    | .error e => shows (.bindError e)
  | .addProvider id p =>
    let w := w.addProvider id p
    becomes w (.count w.providers.size)
  | .removeProvider id =>
    let id := w.labels.idFor id
    let providers := w.providers.erase id
    becomes { w with providers } (.removal (w.providers.contains id) providers.size)
  | .providerProperties d id => shows (.properties (Direct.properties d id))
  | .providerCalls id =>
    match w.callsOf? id with
    | some n => shows (.count n)
    | none => shows .nothing
  | .createProxy name descriptor settings via =>
    let (w, number) := w.takeNumber
    let proxy : Proxy := { descriptor, settings }
    becomes
      { w with
        proxies := w.proxies.set number ⟨proxy, via⟩
        proxyNames := w.proxyNames.set name number }
      (.proxy proxy)
  | .status name => s.onProxy name fun p => .status p.connection
  | .proxyStats name => s.onProxy name fun p => .proxyStats (.of p)
  | .summary name => s.onProxy name fun p => .text (p.summary?.getD "connected")
  | .settingsSummary name => s.onProxy name fun p => .text p.settings.summary
  | .dropProxy name =>
    becomes { w with proxyNames := w.proxyNames.erase name } (.flag (w.proxyNames.contains name))
  | .command key =>
    let c := w.command key
    becomes (w.setCommand c)
      (.command c.key c.settings (w.commands.config.commands.contains key))
  | .commands =>
    let (w, stats) := commandStats w
    becomes w (.commands stats)
  | .forceOpen key => s.onBreaker key fun b => (b.forceOpen w.now, .nothing)
  | .resetCircuit key => s.onBreaker key fun b => (b.reset, .nothing)
  | .circuit key =>
    s.onBreaker key fun b =>
      let (b, phase) := b.phase w.now
      (b, .phase phase)
  | .bulkhead key =>
    let c := w.command key
    becomes (w.setCommand c) (.bulkhead c.bulkhead)

/-- The answer of a step, the instant at which it came, and the labels known then. -/
structure Shown where
  instant : Instant
  reply : Reply
  labels : Labels

/-- Performs the steps in turn; `none` stands for nothing shown because a step broke off. -/
def run (s : Session) : List Step → Except String (List Shown)
  | [] => .ok []
  | step :: rest =>
    match s.perform step with
    | (_, .error text) => .error text
    | (s, .ok reply) =>
      match run (s.settle stepLimit) rest with
      | .ok shown => .ok (⟨s.now, reply, s.world.labels⟩ :: shown)
      | .error text => .error text

end Session

end ServiceBinding.Simulation
