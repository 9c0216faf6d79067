import ServiceBinding.Simulation.Activity

/-!
# Running activities in virtual time

Time stands still while anything can go on. When nothing can, the clock jumps to the next instant at
which a wait ends by itself. At one instant every wait that has ended goes on before a deadline of
that instant ends one; so work that is done at the deadline is in time. An activity that goes on is
not interrupted before it waits again.
-/

namespace ServiceBinding.Simulation

/-- An activity in the background. -/
structure Task where
  number : Nat
  started : Instant
  activity : Activity

/-- How a task ended. -/
inductive TaskEnd
  | returned (took : Span) (r : Reply)
  | cancelled
  | broken

/-- A world with the activities in its background. -/
structure Session where
  world : World
  /-- The unfinished tasks, workers among them, in the order in which they were started. -/
  tasks : List Task := []
  ends : Table Nat TaskEnd := Table.empty
  taskNames : Table String Nat := Table.empty
  workerNames : Table String Nat := Table.empty

/-- More steps than any scenario takes at one instant or in one wait. -/
def stepLimit : Nat := 1000000000000

/-- Goes on with an activity until it waits or ends. -/
def World.drive (others : List Nat) : Nat → World → Next → World × Next
  | 0, w, o => (w, o)
  | limit + 1, w, .waits a =>
    match w.resume? others a with
    | some (w, o) => World.drive others limit w o
    | none => (w, .waits a)
  | _ + 1, w, o => (w, o)

namespace Session

def now (s : Session) : Instant := s.world.now

/-- The proxies that the tasks other than one hold. -/
private def otherProxies (s : Session) (number : Nat) : List Nat :=
  (s.tasks.filter fun t => t.number ≠ number).filterMap fun t => t.activity.proxy?

private def finish (s : Session) (t : Task) (e : TaskEnd) : Session :=
  { s with tasks := s.tasks.filter fun other => other.number ≠ t.number
           ends := s.ends.set t.number e }

/-- Takes in what came of a task that went on. -/
private def follow (s : Session) (t : Task) (next : World × Next) : Session :=
  let (w, o) := World.drive (s.otherProxies t.number) stepLimit next.1 next.2
  let s := { s with world := w }
  match o with
  | .waits activity =>
    { s with tasks := s.tasks.map fun other =>
        if other.number = t.number then { t with activity } else other }
  | .ends r => s.finish t (.returned (w.now - t.started) r)
  | .breaks _ => s.finish t .broken

/-- Something in the background goes on whose wait has ended. -/
def resumeAny? (s : Session) : Option Session :=
  match s.world.operations.findSome? s.world.resumeOperation? with
  | some world => some { s with world }
  | none =>
    s.tasks.findSome? fun t =>
      (s.world.resume? (s.otherProxies t.number) t.activity).map (s.follow t)

/-- A wait in the background ends whose deadline has come. -/
def expireAny? (s : Session) : Option Session :=
  s.tasks.findSome? fun t => (s.world.expire? t.activity).map (s.follow t)

/-- Everything goes on that can without time passing. -/
def settle : Nat → Session → Session
  | 0, s => s
  | limit + 1, s =>
    match s.resumeAny?.or s.expireAny? with
    | some s => settle limit s
    | none => s

/-! ## Waiting in the foreground -/

/-- What a step of a scenario waits for. -/
inductive Wait
  | activity (a : Activity)
  | time (t : Instant)
  /-- The end of a task. -/
  | task (name : String) (number : Nat)

/-- How a step of a scenario ends: with a reply, or broken off with a text. -/
abbrev StepEnd := Except String Reply

private def followOutcome (s : Session) (next : World × Next) : Session × (Wait ⊕ StepEnd) :=
  let (world, o) := World.drive (s.tasks.filterMap fun t => t.activity.proxy?) stepLimit next.1 next.2
  let s := { s with world }
  match o with
  | .waits a => (s, .inl (.activity a))
  | .ends r => (s, .inr (.ok r))
  | .breaks text => (s, .inr (.error text))

/-- The step goes on, if what it waits for has come. -/
private def resumeWait? (s : Session) : Wait → Option (Session × (Wait ⊕ StepEnd))
  | .activity a => (s.world.resume? [] a).map s.followOutcome
  | .time t => if s.now < t then none else some (s, .inr (.ok .nothing))
  | .task name number =>
    (s.ends.get? number).map fun e =>
      let s := { s with taskNames := s.taskNames.erase name }
      match e with
      | .returned took r => (s, .inr (.ok (.joined took r)))
      | .cancelled => (s, .inr (.ok .cancelled))
      | .broken => (s, .inr (.ok .broken))

private def expireWait? (s : Session) : Wait → Option (Session × (Wait ⊕ StepEnd))
  | .activity a => (s.world.expire? a).map s.followOutcome
  | _ => none

private def waitDues : Wait → List Instant
  | .activity a => a.dues
  | .time t => [t]
  | .task .. => []

/-- The next instant at which a wait ends by itself. -/
private def nextDue? (s : Session) (w : Wait) : Option Instant :=
  (waitDues w ++ s.tasks.flatMap (·.activity.dues) ++
    s.world.operations.filterMap World.operationDue?).min?

/-- Waits, letting time pass. What can never end ends at once with nothing. -/
def waitFor : Nat → Session → Wait → Session × StepEnd
  | 0, s, _ => (s, .ok .nothing)
  | limit + 1, s, wait =>
    -- what has come goes first, then deadlines, and time passes only when nothing else can happen
    match s.resumeAny? with
    | some s => waitFor limit s wait
    | none =>
      match s.resumeWait? wait with
      | some (s, .inl wait) => waitFor limit s wait
      | some (s, .inr e) => (s, e)
      | none =>
        match s.expireAny? with
        | some s => waitFor limit s wait
        | none =>
          match s.expireWait? wait with
          | some (s, .inl wait) => waitFor limit s wait
          | some (s, .inr e) => (s, e)
          | none =>
            match s.nextDue? wait with
            | some t => waitFor limit { s with world := { s.world with now := max s.now t } } wait
            | none => (s, .ok .nothing)

/-- Performs an action in the foreground. -/
def act (s : Session) (a : Action) : Session × StepEnd :=
  match s.followOutcome (s.world, .waits (.begins a)) with
  | (s, .inl wait) => s.waitFor stepLimit wait
  | (s, .inr e) => (s, e)

/-! ## Tasks -/

/-- Starts an activity in the background; also its number. -/
def start (s : Session) (activity : Activity) : Session × Nat :=
  let (world, number) := s.world.takeNumber
  ({ s with world, tasks := s.tasks ++ [⟨number, world.now, activity⟩] }, number)

/-- Gives a task up, unless it has ended. -/
def cancel (s : Session) (number : Nat) : Session :=
  match s.tasks.find? fun t => t.number = number with
  | some t => { s with world := s.world.drop t.activity }.finish t .cancelled
  | none => s

def isFinished (s : Session) (number : Nat) : Bool := s.ends.contains number

end Session

end ServiceBinding.Simulation
