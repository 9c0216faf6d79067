import ServiceBinding.Data.Table
import ServiceBinding.Service.Entry

/-!
# A registry of leased entries

Entries are stored by key and instance, each with the end of its lease. An entry whose lease has
ended is gone for every reading, whether or not it has been evicted. Of the live entries of a key
the one registered last comes first; renewing a live entry keeps its place, renewing one whose
lease has ended registers it anew.

What each operation does to the lease of every instance (`lease?`) is stated at the end.
-/

namespace ServiceBinding

/-- An entry stored under a lease. -/
structure Lease where
  entry : Entry
  deadline : Instant
  /-- Grows with each registration. -/
  sequence : Nat
  deriving Inhabited

namespace Lease

def isLive (l : Lease) (now : Instant) : Bool := now < l.deadline

/-- The entry as it is read: with the end of its lease. -/
def snapshot (l : Lease) : Entry := { l.entry with expiresAt := some l.deadline }

/-- The lease registered last. -/
def latest? : List Lease → Option Lease
  | [] => none
  | l :: rest =>
    match latest? rest with
    | some m => if m.sequence < l.sequence then some l else some m
    | none => some l

end Lease

/-- The leases by key and instance. -/
structure LeaseRegistry where
  services : Table ServiceKey (Table String Lease) := Table.empty
  nextSequence : Nat := 0

namespace LeaseRegistry

def empty : LeaseRegistry := {}

instance : Inhabited LeaseRegistry := ⟨empty⟩

/-- The leases stored under a key. -/
def leasesOf (r : LeaseRegistry) (key : ServiceKey) : List Lease :=
  match r.services.get? key with
  | some instances => instances.values
  | none => []

def liveLeases (r : LeaseRegistry) (now : Instant) (key : ServiceKey) : List Lease :=
  (r.leasesOf key).filter (·.isLive now)

private def store (r : LeaseRegistry) (key : ServiceKey) (e : Entry) (l : Lease) :
    Table ServiceKey (Table String Lease) :=
  r.services.set key (((r.services.get? key).getD Table.empty).set e.instanceId l)

/-- Stores an entry and starts its lease. -/
def register (r : LeaseRegistry) (now : Instant) (e : Entry) : Except RegistryError LeaseRegistry :=
  match e.key with
  | .error err => .error err
  | .ok key =>
    .ok { services := r.store key e ⟨e, now + e.lease, r.nextSequence⟩
          nextSequence := r.nextSequence + 1 }

/-- Starts the lease of a live entry again; an entry that is not live is registered. -/
def renew (r : LeaseRegistry) (now : Instant) (e : Entry) : Except RegistryError LeaseRegistry :=
  match e.key with
  | .error err => .error err
  | .ok key =>
    match (r.services.get? key).bind (·.get? e.instanceId) with
    | some l =>
      if l.isLive now then
        .ok { r with services := r.store key e ⟨e, now + e.lease, l.sequence⟩ }
      else r.register now e
    | none => r.register now e

/-- Removes the entry of an instance, live or not. -/
def deregister (r : LeaseRegistry) (key : ServiceKey) (instanceId : String) :
    Except RegistryError LeaseRegistry :=
  match r.services.get? key with
  | none => .error (.notRegistered key.text)
  | some instances =>
    if instances.contains instanceId then
      let rest := instances.erase instanceId
      .ok { r with
        services := if rest.isEmpty then r.services.erase key else r.services.set key rest }
    else .error (.notRegistered (key.text ++ " (" ++ instanceId ++ ")"))

/-- The live entry of a key that was registered last. -/
def lookup (r : LeaseRegistry) (now : Instant) (key : ServiceKey) : Option Entry :=
  (Lease.latest? (r.liveLeases now key)).map Lease.snapshot

/-- The live entries of a key, the one registered last first. -/
def list (r : LeaseRegistry) (now : Instant) (key : ServiceKey) : List Entry :=
  ((r.liveLeases now key).mergeSort fun a b => b.sequence ≤ a.sequence).map Lease.snapshot

/-- The number of live entries under all keys. -/
def count (r : LeaseRegistry) (now : Instant) : Nat :=
  (r.services.values.flatMap fun instances => instances.values.filter (·.isLive now)).length

/-- Drops every entry whose lease has ended; also how many there were. -/
def evict (r : LeaseRegistry) (now : Instant) : LeaseRegistry × Nat :=
  let ended := (r.services.values.flatMap fun instances =>
    instances.values.filter fun l => !l.isLive now).length
  -- a key whose leases have all ended is dropped with them
  let kept := r.services.map fun _ instances => instances.filter fun _ l => l.isLive now
  ({ r with services := kept.filter fun _ instances => !instances.isEmpty }, ended)

def clear (r : LeaseRegistry) : LeaseRegistry := { r with services := Table.empty }

end LeaseRegistry

/-! ## The lease of an instance -/

/-- The entry is published under the key, for the instance. -/
def Entry.IsOf (e : Entry) (key : ServiceKey) (instanceId : String) : Prop :=
  e.key = .ok key ∧ e.instanceId = instanceId

instance (e : Entry) (key : ServiceKey) (instanceId : String) :
    Decidable (e.IsOf key instanceId) :=
  match h : e.key with
  | .ok k => decidable_of_iff (k = key ∧ e.instanceId = instanceId) (by simp [Entry.IsOf, h])
  | .error _ => isFalse (by simp [Entry.IsOf, h])

namespace LeaseRegistry

/-- The lease stored for an instance under a key. -/
def lease? (r : LeaseRegistry) (key : ServiceKey) (instanceId : String) : Option Lease :=
  (r.services.get? key).bind (·.get? instanceId)

/-- The lease of an instance that has one at `now`. -/
def live? (r : LeaseRegistry) (now : Instant) (key : ServiceKey) (instanceId : String) :
    Option Lease :=
  (r.lease? key instanceId).filter (·.isLive now)

variable {r r' : LeaseRegistry} {now : Instant} {e : Entry} {key : ServiceKey} {instanceId : String}

@[simp] theorem lease?_empty (k : ServiceKey) (i : String) : empty.lease? k i = none := rfl

@[simp] theorem lease?_clear (r : LeaseRegistry) (k : ServiceKey) (i : String) :
    r.clear.lease? k i = none := rfl

private theorem lease?_store (l : Lease) (next : Nat) (hkey : e.key = .ok key) (k : ServiceKey)
    (i : String) :
    (⟨r.store key e l, next⟩ : LeaseRegistry).lease? k i =
      if e.IsOf k i then some l else r.lease? k i := by
  have hof : e.IsOf k i ↔ k = key ∧ i = e.instanceId := by
    simp [Entry.IsOf, hkey, eq_comm]
  by_cases hk : k = key
  · subst hk
    by_cases hi : i = e.instanceId
    · subst hi
      simp [lease?, store, Table.get?_set, hof]
    · cases hs : r.services.get? k <;> simp [lease?, store, Table.get?_set, hof, hi, hs]
  · simp [lease?, store, Table.get?_set, hof, hk]

theorem register_eq_ok (h : r.register now e = .ok r') :
    (∃ key, e.key = .ok key) ∧ r'.nextSequence = r.nextSequence + 1 ∧
      ∀ k i, r'.lease? k i =
        if e.IsOf k i then some ⟨e, now + e.lease, r.nextSequence⟩ else r.lease? k i := by
  unfold register at h
  split at h
  · cases h
  · rename_i key hkey
    obtain rfl := Except.ok.inj h
    exact ⟨⟨key, hkey⟩, rfl, lease?_store _ _ hkey⟩

/-- Renewing a live lease starts it again in its place; otherwise the entry is registered. -/
theorem renew_eq_ok (h : r.renew now e = .ok r') :
    (∃ key l, e.key = .ok key ∧ r.live? now key e.instanceId = some l ∧
      r'.nextSequence = r.nextSequence ∧
      ∀ k i, r'.lease? k i =
        if e.IsOf k i then some ⟨e, now + e.lease, l.sequence⟩ else r.lease? k i) ∨
    (∃ key, e.key = .ok key ∧ r.live? now key e.instanceId = none) ∧ r.register now e = .ok r' := by
  unfold renew at h
  split at h
  · cases h
  · rename_i key hkey
    split at h
    · rename_i l hl
      have hlease : r.lease? key e.instanceId = some l := hl
      split at h
      · rename_i hlive
        obtain rfl := Except.ok.inj h
        refine .inl ⟨key, l, hkey, by simp [live?, hlease, hlive], rfl, lease?_store _ _ hkey⟩
      · rename_i hlive
        exact .inr ⟨⟨key, hkey, by simp [live?, hlease, hlive]⟩, h⟩
    · rename_i hl
      have hlease : r.lease? key e.instanceId = none := hl
      exact .inr ⟨⟨key, hkey, by simp [live?, hlease]⟩, h⟩

theorem deregister_eq_ok (h : r.deregister key instanceId = .ok r') :
    (r.lease? key instanceId).isSome = true ∧ r'.nextSequence = r.nextSequence ∧
      ∀ k i, r'.lease? k i = if k = key ∧ i = instanceId then none else r.lease? k i := by
  unfold deregister at h
  split at h
  · cases h
  · rename_i instances hinstances
    split at h
    · rename_i hcontains
      obtain rfl := Except.ok.inj h
      refine ⟨by simpa [lease?, hinstances, Table.contains] using hcontains, rfl, fun k i => ?_⟩
      have hget : ((if (instances.erase instanceId).isEmpty then r.services.erase key
            else r.services.set key (instances.erase instanceId)).get? key).bind (·.get? i) =
          (instances.erase instanceId).get? i := by
        split
        · rename_i hempty
          simp [Table.get?_erase, Table.isEmpty_iff.1 hempty i]
        · simp [Table.get?_set]
      by_cases hk : k = key
      · subst hk
        by_cases hi : i = instanceId
        · simpa [lease?, Table.get?_erase, hi] using hget
        · simpa [lease?, hinstances, Table.get?_erase, hi] using hget
      · simp only [lease?, hk, false_and, if_false]
        split
        · simp [Table.get?_erase, hk]
        · simp [Table.get?_set, hk]
    · cases h

theorem mem_leasesOf {l : Lease} : l ∈ r.leasesOf key ↔ ∃ i, r.lease? key i = some l := by
  unfold leasesOf lease?
  cases r.services.get? key with
  | none => simp
  | some instances => simp [Table.mem_values]

theorem mem_liveLeases {l : Lease} : l ∈ r.liveLeases now key ↔ ∃ i, r.live? now key i = some l := by
  simp [liveLeases, live?, mem_leasesOf, Option.filter_eq_some_iff]

theorem lease?_evict (r : LeaseRegistry) (now : Instant) (k : ServiceKey) (i : String) :
    (r.evict now).1.lease? k i = r.live? now k i := by
  simp only [lease?, live?, evict, Table.get?_filter, Table.get?_map]
  cases hk : r.services.get? k with
  | none => rfl
  | some instances =>
    by_cases hempty : (instances.filter fun _ l => l.isLive now).isEmpty = true
    · have hnone := Table.isEmpty_iff.1 hempty i
      rw [Table.get?_filter] at hnone
      simp [Option.filter_some, hempty, hnone]
    · simp [Option.filter_some, hempty, Table.get?_filter]

/-! ## Keys -/

/-- A key is kept only while it has instances. -/
def Populated (r : LeaseRegistry) : Prop :=
  ∀ key instances, r.services.get? key = some instances → instances.isEmpty = false

theorem populated_empty : empty.Populated := nofun

theorem populated_clear (r : LeaseRegistry) : r.clear.Populated := nofun

private theorem populated_store (hr : r.Populated) (l : Lease) (next : Nat) :
    (⟨r.store key e l, next⟩ : LeaseRegistry).Populated := by
  intro k instances h
  simp only [store, Table.get?_set] at h
  split at h
  · obtain rfl := Option.some.inj h
    rfl
  · exact hr k instances h

theorem Populated.register (hr : r.Populated) (h : r.register now e = .ok r') : r'.Populated := by
  unfold LeaseRegistry.register at h
  split at h
  · cases h
  · obtain rfl := Except.ok.inj h
    exact populated_store hr _ _

theorem Populated.renew (hr : r.Populated) (h : r.renew now e = .ok r') : r'.Populated := by
  unfold LeaseRegistry.renew at h
  split at h
  · cases h
  · split at h
    · split at h
      · obtain rfl := Except.ok.inj h
        exact populated_store hr _ _
      · exact hr.register h
    · exact hr.register h

theorem Populated.deregister (hr : r.Populated) (h : r.deregister key instanceId = .ok r') :
    r'.Populated := by
  unfold LeaseRegistry.deregister at h
  split at h
  · cases h
  · split at h
    · obtain rfl := Except.ok.inj h
      intro k rest hrest
      split at hrest
      · rw [Table.get?_erase] at hrest
        split at hrest
        · cases hrest
        · exact hr k rest hrest
      · rename_i hkept
        rw [Table.get?_set] at hrest
        split at hrest
        · obtain rfl := Option.some.inj hrest
          simpa using hkept
        · exact hr k rest hrest
    · cases h

/-- An eviction leaves no key without instances, whatever it finds. -/
theorem populated_evict (r : LeaseRegistry) (now : Instant) : (r.evict now).1.Populated := by
  intro k instances h
  simp only [evict, Table.get?_filter, Option.filter_eq_some_iff] at h
  simpa using h.2

end LeaseRegistry

end ServiceBinding
