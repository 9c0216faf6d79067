import Mathlib.Logic.Function.Basic
import ServiceBinding.Bulkhead
import ServiceBinding.Proofs.Trace
import ServiceBinding.Registry.Cache

/-!
# A cache that many tasks share

Any number of look-ups and writes go through one cache of a registry. Each is a task under a ticket of its
own and goes on in pieces: it begins, which is all that touches the cache before the registry is asked; at
some later instant the registry carries it out; later still the registry's word arrives, and with it the
task ends. A look-up breaks off instead if the clock cannot tell until when its answer is to be kept. Between
two pieces of one task there may be any pieces of the others, and a task may be dropped wherever it waits.

Nothing is assumed of the registry: what it answers, and when, is part of the events. So it may be written
to by others, be unreachable, or lie.
-/

namespace ServiceBinding

namespace SharedCache

/-- What a task wants of the registry behind the cache. -/
inductive Request
  | lookup (key : ServiceKey)
  | register (e : Entry)
  | renew (e : Entry)
  | deregister (key : ServiceKey) (instanceId : String)

namespace Request

def isWrite : Request → Bool
  | .lookup _ => false
  | .register _ | .renew _ | .deregister .. => true

/-- The key that a request is about. An entry may have none. -/
def key : Request → Except RegistryError ServiceKey
  | .lookup key => .ok key
  | .register e | .renew e => e.key
  | .deregister key _ => .ok key

end Request

/-- What a registry answers to a look-up. -/
abbrev Answer := Except RegistryError (Option Entry)

/-- How far a task has come. -/
inductive Stage
  | unstarted
  /-- A look-up that began at `start` waits for the registry. -/
  | lookingUp (key : ServiceKey) (start : Instant)
  /-- The registry has answered, and the answer is on its way. -/
  | found (key : ServiceKey) (start : Instant) (answer : Answer)
  /-- A write waits for the registry. -/
  | writing
  /-- The registry has carried out the write, or refused it, and its word is on its way. -/
  | written (result : Except RegistryError Unit)
  /-- A look-up is over, with its answer. -/
  | answered (answer : Answer)
  /-- A write is over, with what came of it. -/
  | done (result : Except RegistryError Unit)
  /-- A look-up has broken off, without an answer. -/
  | brokenOff
  | dropped

/-- Whether a task waits for the registry. -/
def Stage.isWaiting : Stage → Bool
  | .lookingUp .. | .found .. | .writing | .written _ => true
  | .unstarted | .answered _ | .done _ | .brokenOff | .dropped => false

/-- What happens at once. -/
inductive Event
  /-- Time passes. -/
  | pass (d : Span)
  | call (t : Ticket) (q : Request)
  /-- The registry answers a look-up, with what it has at this instant. -/
  | answer (t : Ticket) (answer : Answer)
  /-- The registry carries out a write, or refuses it. -/
  | carryOut (t : Ticket) (result : Except RegistryError Unit)
  /-- What the registry has said arrives. -/
  | arrive (t : Ticket)
  | drop (t : Ticket)
  | invalidate (key : ServiceKey)

/-- The task that goes on with the event. -/
def Event.ticket? : Event → Option Ticket
  | .call t _ | .answer t _ | .carryOut t _ | .arrive t | .drop t => some t
  | .pass _ | .invalidate _ => none

/-- Whether the event has the cache forget what it keeps of a key: a write of the key begins, or the key
is invalidated. -/
def Event.Forgets (key : ServiceKey) : Event → Prop
  | .call _ q => q.isWrite = true ∧ q.key = .ok key
  | .invalidate k => k = key
  | _ => False

end SharedCache

/-- A cache and the tasks that use it. -/
structure SharedCache where
  cache : LookupCache
  now : Instant := 0
  stage : Ticket → SharedCache.Stage := fun _ => .unstarted

namespace SharedCache

/-- A task comes to a stage. -/
def enter (s : SharedCache) (t : Ticket) (stage : Stage) : SharedCache :=
  { s with stage := Function.update s.stage t stage }

@[simp] theorem stage_enter (s : SharedCache) (t : Ticket) (stage : Stage) :
    (s.enter t stage).stage t = stage :=
  Function.update_self ..

@[simp] theorem enter_enter (s : SharedCache) (t : Ticket) (a b : Stage) :
    (s.enter t a).enter t b = s.enter t b := by
  simp [enter]

/-- A look-up begins: it is over at once if it can be answered from the cache. -/
def beginLookup (s : SharedCache) (t : Ticket) (key : ServiceKey) : SharedCache :=
  match s.cache.serve s.now key with
  | (cache, some e) => { s with cache }.enter t (.answered (.ok (some e)))
  | (cache, none) => { s with cache }.enter t (.lookingUp key s.now)

/-- A write begins: the cache forgets the key. Without a key it is over at once. -/
def beginWrite (s : SharedCache) (t : Ticket) (key : Except RegistryError ServiceKey) : SharedCache :=
  match key with
  | .error err => s.enter t (.done (.error err))
  | .ok key => { s with cache := s.cache.forget key }.enter t .writing

/-- A task begins. -/
def start (s : SharedCache) (t : Ticket) : Request → SharedCache
  | .lookup key => s.beginLookup t key
  | q => s.beginWrite t q.key

/-- An answer arrives; the cache keeps what was found, if it can. -/
def endLookup (s : SharedCache) (t : Ticket) (key : ServiceKey) (start : Instant) (answer : Answer) :
    SharedCache :=
  match answer with
  | .error _ => s.enter t (.answered answer)
  | .ok found =>
    match s.cache.keep? start key found with
    | some cache => { s with cache }.enter t (.answered answer)
    | none => s.enter t .brokenOff

def step (s : SharedCache) : Event → Option SharedCache
  | .pass d => some { s with now := s.now + d }
  | .call t q =>
    match s.stage t with
    | .unstarted => some (s.start t q)
    | _ => none
  | .answer t answer =>
    match s.stage t with
    | .lookingUp key start => some (s.enter t (.found key start answer))
    | _ => none
  | .carryOut t result =>
    match s.stage t with
    | .writing => some (s.enter t (.written result))
    | _ => none
  | .arrive t =>
    match s.stage t with
    | .found key start answer => some (s.endLookup t key start answer)
    | .written result => some (s.enter t (.done result))
    | _ => none
  | .drop t => if (s.stage t).isWaiting then some (s.enter t .dropped) else none
  | .invalidate key => some { s with cache := s.cache.forget key }

/-- A new cache, which no task has used. -/
def new (ttl : Span) (now : Instant) : SharedCache := { cache := { ttl }, now }

/-- A run: the states a new cache goes through and what happens in each. A run that is to end goes on with
events in which no time passes. -/
structure Run where
  /-- How long a found entry is answered at most. -/
  ttl : Span
  begins : Instant
  state : Nat → SharedCache
  event : Nat → Event
  starts : state 0 = new ttl begins
  steps : ∀ n, (state n).step (event n) = some (state (n + 1))

/-- The run of a new cache in which the events happen. -/
def Run.ofEvents (ttl : Span) (es : List Event) (h : Trace.admits step (new ttl 0) es = true) : Run where
  ttl := ttl
  begins := 0
  state n := Trace.after step (new ttl 0) (es.take n)
  event n := es.getD n (.pass 0)
  starts := rfl
  steps := Trace.step_after_take (fun _ => rfl) h

/-! ## Moves -/

/-- What an event can make of a cache and its tasks. -/
inductive Move (s : SharedCache) : Event → SharedCache → Prop
  | passed (d : Span) : Move s (.pass d) { s with now := s.now + d }
  | served {t key kept} (hs : s.stage t = .unstarted) (hkept : s.cache.cached.get? key = some kept)
      (hvalid : s.now < kept.validUntil) {cache} (hcached : cache.cached = s.cache.cached)
      (httl : cache.ttl = s.cache.ttl) :
      Move s (.call t (.lookup key)) ({ s with cache }.enter t (.answered (.ok (some kept.entry))))
  | missed {t key} (hs : s.stage t = .unstarted) {cache}
      (hcached : ∀ k kept, cache.cached.get? k = some kept → s.cache.cached.get? k = some kept)
      (httl : cache.ttl = s.cache.ttl) :
      Move s (.call t (.lookup key)) ({ s with cache }.enter t (.lookingUp key s.now))
  /-- A write of an entry without a key. -/
  | refused {t q err} (hs : s.stage t = .unstarted) (hw : q.isWrite = true) (hkey : q.key = .error err) :
      Move s (.call t q) (s.enter t (.done (.error err)))
  | forgot {t q key} (hs : s.stage t = .unstarted) (hw : q.isWrite = true) (hkey : q.key = .ok key) :
      Move s (.call t q) ({ s with cache := s.cache.forget key }.enter t .writing)
  | answered {t key start answer} (hs : s.stage t = .lookingUp key start) :
      Move s (.answer t answer) (s.enter t (.found key start answer))
  | carriedOut {t result} (hs : s.stage t = .writing) :
      Move s (.carryOut t result) (s.enter t (.written result))
  | failed {t key start err} (hs : s.stage t = .found key start (.error err)) :
      Move s (.arrive t) (s.enter t (.answered (.error err)))
  | kept {t key start found cache} (hs : s.stage t = .found key start (.ok found))
      (hkeep : s.cache.keep? start key found = some cache) :
      Move s (.arrive t) ({ s with cache }.enter t (.answered (.ok found)))
  | brokeOff {t key start found} (hs : s.stage t = .found key start (.ok found))
      (hkeep : s.cache.keep? start key found = none) :
      Move s (.arrive t) (s.enter t .brokenOff)
  | told {t result} (hs : s.stage t = .written result) :
      Move s (.arrive t) (s.enter t (.done result))
  | dropped {t} (hs : (s.stage t).isWaiting = true) : Move s (.drop t) (s.enter t .dropped)
  | invalidated (key : ServiceKey) : Move s (.invalidate key) { s with cache := s.cache.forget key }

variable {s s' : SharedCache} {e : Event} {t : Ticket}

theorem beginLookup_move (hs : s.stage t = .unstarted) (key : ServiceKey) :
    Move s (.call t (.lookup key)) (s.beginLookup t key) := by
  have hcases := s.cache.serve_cases s.now key
  have httl := s.cache.ttl_serve s.now key
  unfold beginLookup
  generalize s.cache.serve s.now key = served at hcases httl ⊢
  obtain ⟨cache, answer⟩ := served
  rcases hcases with ⟨kept, hkept, hvalid, rfl, hcached⟩ | ⟨rfl, hcached⟩
  · exact .served hs hkept hvalid hcached httl
  · exact .missed hs hcached httl

theorem endLookup_move {key : ServiceKey} {start : Instant} {answer : Answer}
    (hs : s.stage t = .found key start answer) : Move s (.arrive t) (s.endLookup t key start answer) := by
  cases answer with
  | error err => exact .failed hs
  | ok found =>
    simp only [endLookup]
    split
    · rename_i hkeep
      exact .kept hs hkeep
    · rename_i hkeep
      exact .brokeOff hs hkeep

theorem beginWrite_move {q : Request} (hs : s.stage t = .unstarted) (hw : q.isWrite = true) :
    Move s (.call t q) (s.beginWrite t q.key) := by
  unfold beginWrite
  cases hkey : q.key with
  | error err => exact .refused hs hw hkey
  | ok key => exact .forgot hs hw hkey

/-- Whatever happens is one of the moves. -/
theorem step_move (h : s.step e = some s') : Move s e s' := by
  cases e with
  | pass d =>
    obtain rfl := Option.some.inj h
    exact .passed d
  | call t q =>
    simp only [step] at h
    split at h
    · rename_i hs
      obtain rfl := Option.some.inj h
      cases q with
      | lookup key => exact beginLookup_move hs key
      | register _ | renew _ | deregister _ _ => exact beginWrite_move hs rfl
    · cases h
  | answer t answer =>
    simp only [step] at h
    split at h
    · rename_i hs
      obtain rfl := Option.some.inj h
      exact .answered hs
    · cases h
  | carryOut t result =>
    simp only [step] at h
    split at h
    · rename_i hs
      obtain rfl := Option.some.inj h
      exact .carriedOut hs
    · cases h
  | arrive t =>
    simp only [step] at h
    split at h
    · rename_i hs
      obtain rfl := Option.some.inj h
      exact endLookup_move hs
    · rename_i hs
      obtain rfl := Option.some.inj h
      exact .told hs
    · cases h
  | drop t =>
    simp only [step] at h
    split at h
    · rename_i hs
      obtain rfl := Option.some.inj h
      exact .dropped hs
    · cases h
  | invalidate key =>
    obtain rfl := Option.some.inj h
    exact .invalidated key

/-! ## A small world for examples -/

namespace Sample

def menu : ServiceKey := ⟨"Menu", none⟩

/-- What a registry finds of an instance whose lease ends at an instant. -/
def entry (id : String) (deadline : Instant) : Entry :=
  ⟨(Properties.forApi "Menu" "direct").set Properties.instanceName id, deadline, some deadline⟩

end Sample

end SharedCache

end ServiceBinding
