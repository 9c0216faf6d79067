import ServiceBinding.Proofs.Exporters.Remembered
import ServiceBinding.Proofs.Registry.Reordered

/-!
# An application whose registry may be out of reach

Each write of an application reaches the registry or finds it unavailable, which the caller is told and the
registry never knows. What the exporter remembers is the same in both cases (`Publisher.exporter_perform`),
so the two drift apart: a service that is remembered may never have been registered or have expired since,
and one that was taken back may still be there.
-/

namespace ServiceBinding

open LeaseRegistry (Write)

namespace LeaseRegistry

/-! ## Writes that may not arrive -/

/-- The writes for which the registry is unavailable, and what is said of it. -/
abbrev Outage := Write → Option String

/-- The registry is there for every write. -/
def reached : Outage := fun _ => none

def attemptOver (outage : Outage) (r : LeaseRegistry) (now : Instant) (w : Write) :
    LeaseRegistry × Except RegistryError Unit :=
  match outage w with
  | some detail => (r, .error (.unavailable detail))
  | none => r.perform now w

theorem Sound.attemptOver {r : LeaseRegistry} (hs : Sound r) (outage : Outage) (now : Instant)
    (w : Write) : Sound (r.attemptOver outage now w).1 := by
  unfold LeaseRegistry.attemptOver
  split
  · exact hs
  · exact hs.perform now w

/-! ## Rounds of renewals -/

/-- Renews one entry, and counts it if that succeeds. -/
def renewNext (outage : Outage) (now : Instant) (s : LeaseRegistry × Nat) (e : Entry) :
    LeaseRegistry × Nat :=
  match s.1.attemptOver outage now (.renew e) with
  | (r, .ok ()) => (r, s.2 + 1)
  | (r, .error _) => (r, s.2)

theorem renewNext_fst (outage : Outage) (now : Instant) (s : LeaseRegistry × Nat) (e : Entry) :
    (renewNext outage now s e).1 = (s.1.attemptOver outage now (.renew e)).1 := by
  rw [renewNext]
  rcases s.1.attemptOver outage now (.renew e) with ⟨r, err | _⟩ <;> rfl

theorem Sound.renewEach {s : LeaseRegistry × Nat} (hs : Sound s.1) (outage : Outage) (now : Instant)
    (es : List Entry) : Sound (es.foldl (renewNext outage now) s).1 := by
  induction es generalizing s with
  | nil => exact hs
  | cons e es ih =>
    refine ih ?_
    rw [renewNext_fst]
    exact hs.attemptOver outage now (.renew e)

section

variable {e : Entry} {key : ServiceKey} {id : String} {now : Instant}

/-- An entry with a key is never refused, and its lease starts now. -/
theorem perform_renew (hkey : e.key = .ok key) (r : LeaseRegistry) (now : Instant) :
    (r.perform now (.renew e)).2 = .ok () ∧
      ∃ place, (r.perform now (.renew e)).1.lease? key e.instanceId =
        some ⟨e, now + e.lease, place⟩ := by
  have hof : e.IsOf key e.instanceId := ⟨hkey, rfl⟩
  cases h : r.renew now e with
  | error err => cases hkey.symm.trans (renew_eq_error.1 h)
  | ok r' =>
    simp only [LeaseRegistry.perform, attempt, h, true_and]
    rcases renew_eq_ok h with ⟨k, l, -, -, -, hlease⟩ | ⟨-, h⟩
    · exact ⟨l.sequence, by rw [hlease, if_pos hof]⟩
    · exact ⟨r.nextSequence, by rw [(register_eq_ok h).2.2, if_pos hof]⟩

theorem renewNext_reached (hkey : e.key = .ok key) (s : LeaseRegistry × Nat) (now : Instant) :
    renewNext reached now s e = ((s.1.perform now (.renew e)).1, s.2 + 1) := by
  have hok := (perform_renew hkey s.1 now).1
  rw [renewNext, LeaseRegistry.attemptOver, reached]
  generalize s.1.perform now (.renew e) = renewed at hok
  obtain ⟨r, result⟩ := renewed
  obtain rfl : result = .ok () := hok
  rfl

/-- The renewals of a table of entries, each under its key, for one instance. -/
structure AllOf (es : List (ServiceKey × Entry)) (id : String) : Prop where
  nodup : (es.map Prod.fst).Nodup
  isOf : ∀ key e, (key, e) ∈ es → e.IsOf key id

theorem AllOf.tail {kv : ServiceKey × Entry} {es : List (ServiceKey × Entry)} (h : AllOf (kv :: es) id) :
    AllOf es id :=
  ⟨(List.nodup_cons.1 h.nodup).2, fun key e he => h.isOf key e (List.mem_cons_of_mem _ he)⟩

theorem count_renewEach {es : List (ServiceKey × Entry)} (h : AllOf es id) (s : LeaseRegistry × Nat)
    (now : Instant) :
    ((es.map Prod.snd).foldl (renewNext reached now) s).2 = s.2 + es.length := by
  induction es generalizing s with
  | nil => rfl
  | cons kv es ih =>
    obtain ⟨k, e⟩ := kv
    have hkey := (h.isOf k e List.mem_cons_self).1
    rw [List.map_cons, List.foldl_cons, renewNext_reached hkey, ih h.tail, List.length_cons]
    omega

/-- Renewals under other keys leave a lease as it is. -/
theorem live?_renewEach_of_not_mem {es : List (ServiceKey × Entry)} (h : AllOf es id)
    (hkey : key ∉ es.map Prod.fst) (s : LeaseRegistry × Nat) :
    ((es.map Prod.snd).foldl (renewNext reached now) s).1.live? now key id = s.1.live? now key id := by
  induction es generalizing s with
  | nil => rfl
  | cons kv es ih =>
    obtain ⟨k, e⟩ := kv
    obtain ⟨hne, hrest⟩ := not_or.1 (mt List.mem_cons.2 hkey)
    have hof := h.isOf k e List.mem_cons_self
    have hspares : Write.Spares key id (.renew e) := fun hof' =>
      hne (Except.ok.inj (hof'.1.symm.trans hof.1))
    rw [List.map_cons, List.foldl_cons, ih h.tail hrest, renewNext_reached hof.1,
      live?_perform_of_spares hspares (Nat.le_refl now)]

/-- After a round each entry is live, whatever there was before. -/
theorem live?_renewEach {es : List (ServiceKey × Entry)} (h : AllOf es id) (hmem : (key, e) ∈ es)
    (hlease : 0 < e.lease) (s : LeaseRegistry × Nat) (now : Instant) :
    ∃ place, ((es.map Prod.snd).foldl (renewNext reached now) s).1.live? now key id =
      some ⟨e, now + e.lease, place⟩ := by
  induction es generalizing s with
  | nil => cases hmem
  | cons kv es ih =>
    have hof := h.isOf key e hmem
    rw [List.map_cons, List.foldl_cons]
    rcases List.mem_cons.1 hmem with rfl | hmem
    · obtain ⟨-, place, hplace⟩ := perform_renew hof.1 s.1 now
      refine ⟨place, ?_⟩
      -- all that follow are under other keys
      rw [live?_renewEach_of_not_mem h.tail (List.nodup_cons.1 h.nodup).1, renewNext_reached hof.1,
        live?_eq_some, ← hof.2]
      exact ⟨hplace, Nat.lt_add_of_pos_right hlease⟩
    · exact ih h.tail hmem _

end

end LeaseRegistry

open LeaseRegistry (Outage reached renewNext)

/-! ## An exporter and its registry -/

/-- An exporter, and the registry that it publishes to. -/
structure Publisher where
  registry : LeaseRegistry
  exporter : Exporter

namespace Publisher

/-- Publishes a service. It is remembered also if it does not reach the registry. -/
def publish (s : Publisher) (outage : Outage) (now : Instant) (p : Properties) :
    Publisher × Except RegistryError Entry :=
  match s.exporter.remember p with
  | .error err => (s, .error err)
  | .ok (exporter, e) =>
    let (registry, result) := s.registry.attemptOver outage now (.register e)
    ({ registry, exporter }, result.map fun _ => e)

/-- Takes a service back. It is forgotten also if that does not reach the registry. -/
def withdraw (s : Publisher) (outage : Outage) (now : Instant) (key : ServiceKey) :
    Publisher × Except RegistryError Unit :=
  let (exporter, exported) := s.exporter.forget key
  if exported then
    let (registry, result) :=
      s.registry.attemptOver outage now (.deregister key s.exporter.settings.instanceId)
    ({ registry, exporter }, result)
  else ({ s with exporter }, .ok ())

/-- Renews all that was published; also how many renewals did not fail. -/
def renewAll (s : Publisher) (outage : Outage) (now : Instant) : Publisher × Nat :=
  let (registry, count) := s.exporter.renewals.foldl (renewNext outage now) (s.registry, 0)
  ({ s with registry }, count)

/-- What happens to an exporter and its registry. -/
inductive Operation
  /-- The exporter is called. -/
  | call (c : Exporter.Call) (outage : Outage)
  /-- Someone else writes to the registry. -/
  | write (w : Write)

def perform (s : Publisher) (now : Instant) : Operation → Publisher
  | .call (.publish p) outage => (s.publish outage now p).1
  | .call (.withdraw key) outage => (s.withdraw outage now key).1
  | .call .renewAll outage => (s.renewAll outage now).1
  | .write w => { s with registry := (s.registry.perform now w).1 }

variable {s s' : Publisher} {now : Instant} {op : Operation}

/-- What is remembered does not depend on what the registry answers. -/
theorem exporter_perform (s : Publisher) (now : Instant) (op : Operation) :
    (s.perform now op).exporter =
      match op with
      | .call c _ => s.exporter.after c
      | .write _ => s.exporter := by
  cases op with
  | call c outage =>
    cases c with
    | publish p =>
      cases hremember : s.exporter.remember p with
      | error err => simp only [perform, publish, Exporter.after, hremember]
      | ok remembered => simp only [perform, publish, Exporter.after, hremember]
    | withdraw key =>
      simp only [perform, withdraw, Exporter.after]
      split <;> rfl
    | renewAll => rfl
  | write w => rfl

theorem sound_perform (hs : s.registry.Sound) (now : Instant) (op : Operation) :
    (s.perform now op).registry.Sound := by
  cases op with
  | call c outage =>
    cases c with
    | publish p =>
      simp only [perform, publish]
      split
      · exact hs
      · exact hs.attemptOver outage now _
    | withdraw key =>
      simp only [perform, withdraw]
      split
      · exact hs.attemptOver outage now _
      · exact hs
    | renewAll => exact hs.renewEach outage now s.exporter.renewals
  | write w => exact hs.perform now w

/-! ## The order of tables -/

/-- The same, each table in an order of its own. -/
structure Reorders (s s' : Publisher) : Prop where
  registry : s.registry.Reorders s'.registry
  settings : s.exporter.settings = s'.exporter.settings
  exported : s.exporter.exported.entries.Perm s'.exporter.exported.entries

theorem Reorders.refl (s : Publisher) : Reorders s s := ⟨.refl _, rfl, .refl _⟩

theorem Reorders.get? (h : Reorders s s') (key : ServiceKey) :
    s.exporter.exported.get? key = s'.exporter.exported.get? key :=
  Table.perm_iff.1 h.exported key

/-! ## Runs -/

/-- A run of an exporter that begins with an empty registry. -/
structure Run where
  settings : ExporterSettings
  time : Nat → Instant
  operation : Nat → Operation
  /-- What there is before step `n`. -/
  state : Nat → Publisher
  mono : Monotone time
  starts : state 0 = { registry := .empty, exporter := { settings } }
  steps : ∀ n, Reorders ((state n).perform (time n) (operation n)) (state (n + 1))

namespace Run

variable {r : Run} {n : Nat} {key : ServiceKey} {p : Properties} {e : Entry}

theorem sound (r : Run) (n : Nat) : (r.state n).registry.Sound := by
  induction n with
  | zero =>
    rw [r.starts]
    exact LeaseRegistry.empty_sound
  | succ n ih => exact (sound_perform ih (r.time n) (r.operation n)).reorders (r.steps n).registry

theorem settings_eq (r : Run) (n : Nat) : (r.state n).exporter.settings = r.settings := by
  induction n with
  | zero => rw [r.starts]
  | succ n ih =>
    rw [← (r.steps n).settings, exporter_perform]
    cases r.operation n with
    | call c outage => exact (Exporter.settings_after _ c).trans ih
    | write w => exact ih

/-- A run given by its first operations and the time that passes before each; from then on the registry is
swept again and again. -/
def ofSteps (settings : ExporterSettings) (steps : List (Span × Operation)) : Run :=
  let operation n := (steps[n]?.map Prod.snd).getD (.write .evict)
  { settings
    time := Trace.clock steps
    operation
    state := Nat.rec { registry := .empty, exporter := { settings } } fun n s =>
      s.perform (Trace.clock steps n) (operation n)
    mono := Trace.clock_mono steps
    starts := rfl
    steps := fun _ => .refl _ }

end Run

end Publisher

end ServiceBinding
