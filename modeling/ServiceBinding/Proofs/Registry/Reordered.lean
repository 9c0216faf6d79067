import ServiceBinding.Proofs.Registry.Listed

/-!
# Registries that differ in the order of their tables

The order of a table means nothing: registries that have the same leases answer the same, fail for the
same reasons, and are again such registries after the same write (`Reorders.perform`).
-/

namespace ServiceBinding

namespace LeaseRegistry

variable {r r' : LeaseRegistry} {now : Instant}

/-! ## Readings -/

theorem Reorders.lookup (h : Reorders r r') (hs : Sound r) (now : Instant) (key : ServiceKey) :
    r.lookup now key = r'.lookup now key :=
  lookup_congr hs (hs.reorders h) fun id => h.live? now key id

theorem Reorders.list (h : Reorders r r') (hs : Sound r) (now : Instant) (key : ServiceKey) :
    r.list now key = r'.list now key := by
  rw [list_eq, list_eq, listed_congr hs (hs.reorders h) fun id => h.live? now key id]

theorem Reorders.leasesOf (h : Reorders r r') (key : ServiceKey) :
    (r.leasesOf key).Perm (r'.leasesOf key) := by
  have hrel := h.services key
  unfold LeaseRegistry.leasesOf
  generalize r.services.get? key = before, r'.services.get? key = after at hrel ⊢
  cases hrel with
  | none => exact .nil
  | some hperm => exact hperm.map _

/-- An eviction finds the same number of leases that have ended. -/
theorem Reorders.evicted (h : Reorders r r') (now : Instant) : (r.evict now).2 = (r'.evict now).2 := by
  refine (r.length_filter _).trans (Eq.trans ?_ (r'.length_filter _).symm)
  exact finsum_congr fun key => ((h.leasesOf key).filter _).length_eq

/-! ## Writes -/

/-- Operations that fail for the same reasons, and lead to registries that hold the same. -/
structure Agree (a b : Except RegistryError LeaseRegistry) : Prop where
  error : ∀ err, a = .error err ↔ b = .error err
  ok : ∀ s s', a = .ok s → b = .ok s' → Reorders s s'

theorem Agree.attempt {a b : Except RegistryError LeaseRegistry} (h : Agree a b)
    (hr : Reorders r r') :
    Reorders (r.attempt a).1 (r'.attempt b).1 ∧ (r.attempt a).2 = (r'.attempt b).2 := by
  cases ha : a with
  | error err =>
    rw [(h.error err).1 ha]
    exact ⟨hr, rfl⟩
  | ok s =>
    cases hb : b with
    | error err =>
      rw [(h.error err).2 hb] at ha
      cases ha
    | ok s' => exact ⟨h.ok s s' ha hb, rfl⟩

/-- Only an entry without a key cannot be registered. -/
theorem register_eq_error {e : Entry} {err : RegistryError} :
    r.register now e = .error err ↔ e.key = .error err := by
  unfold LeaseRegistry.register
  cases e.key with
  | error _ => simp
  | ok key => simp

theorem renew_eq_error {e : Entry} {err : RegistryError} :
    r.renew now e = .error err ↔ e.key = .error err := by
  cases hkey : e.key with
  | error _ => simp [LeaseRegistry.renew, hkey]
  | ok key =>
    have hregister : r.register now e ≠ .error err := fun h => by
      rw [register_eq_error, hkey] at h
      cases h
    simp only [LeaseRegistry.renew, hkey]
    split
    · split
      · simp
      · simpa using hregister
    · simpa using hregister

theorem Reorders.register (h : Reorders r r') (hr : r.Populated) (now : Instant) (e : Entry) :
    Agree (r.register now e) (r'.register now e) where
  error err := by rw [register_eq_error, register_eq_error]
  ok s s' hs hs' := by
    obtain ⟨-, hnext, hlease⟩ := register_eq_ok hs
    obtain ⟨-, hnext', hlease'⟩ := register_eq_ok hs'
    refine reorders_of_lease? (hr.register hs) ((h.populated hr).register hs') (fun k i => ?_) ?_
    · rw [hlease, hlease', h.lease?, h.nextSequence]
    · rw [hnext, hnext', h.nextSequence]

theorem Reorders.renew (h : Reorders r r') (hr : r.Populated) (now : Instant) (e : Entry) :
    Agree (r.renew now e) (r'.renew now e) where
  error err := by rw [renew_eq_error, renew_eq_error]
  ok s s' hs hs' := by
    have hpopulated := hr.renew hs
    have hpopulated' := (h.populated hr).renew hs'
    rcases renew_eq_ok hs with ⟨key, l, hkey, hl, hnext, hlease⟩ | ⟨⟨key, hkey, hl⟩, hregister⟩ <;>
      rcases renew_eq_ok hs' with
        ⟨key', l', hkey', hl', hnext', hlease'⟩ | ⟨⟨key', hkey', hl'⟩, hregister'⟩
    all_goals
      obtain rfl := Except.ok.inj (hkey.symm.trans hkey')
      rw [← h.live?, hl] at hl'
    · obtain rfl := Option.some.inj hl'
      refine reorders_of_lease? hpopulated hpopulated' (fun k i => ?_) ?_
      · rw [hlease, hlease', h.lease?]
      · rw [hnext, hnext', h.nextSequence]
    · cases hl'
    · cases hl'
    · exact (h.register hr now e).ok s s' hregister hregister'

theorem Reorders.deregister (h : Reorders r r') (hr : r.Populated) (key : ServiceKey) (id : String) :
    Agree (r.deregister key id) (r'.deregister key id) where
  error err := by
    have hlease := h.lease? key id
    have hrel := h.services key
    unfold LeaseRegistry.lease? at hlease
    unfold LeaseRegistry.deregister
    generalize r.services.get? key = before, r'.services.get? key = after at hrel hlease
    cases hrel with
    | none => exact Iff.rfl
    | @some instances instances' hperm =>
      have hcontains : instances.contains id = instances'.contains id :=
        congrArg Option.isSome hlease
      simp only [hcontains]
      split
      · simp
      · exact Iff.rfl
  ok s s' hs hs' := by
    obtain ⟨-, hnext, hlease⟩ := deregister_eq_ok hs
    obtain ⟨-, hnext', hlease'⟩ := deregister_eq_ok hs'
    refine reorders_of_lease? (hr.deregister hs) ((h.populated hr).deregister hs')
      (fun k i => ?_) ?_
    · rw [hlease, hlease', h.lease?]
    · rw [hnext, hnext', h.nextSequence]

/-- The same write to both has the same result, and again they hold the same. -/
theorem Reorders.perform (h : Reorders r r') (hr : r.Populated) (now : Instant) (w : Write) :
    Reorders (r.perform now w).1 (r'.perform now w).1 ∧
      (r.perform now w).2 = (r'.perform now w).2 := by
  cases w with
  | register e => exact (h.register hr now e).attempt h
  | renew e => exact (h.renew hr now e).attempt h
  | deregister key id => exact (h.deregister hr key id).attempt h
  | clear =>
    refine ⟨reorders_of_lease? r.populated_clear r'.populated_clear (fun _ _ => rfl) ?_, rfl⟩
    exact h.nextSequence
  | evict =>
    refine ⟨reorders_of_lease? (r.populated_evict now) (r'.populated_evict now) (fun k i => ?_) ?_,
      rfl⟩
    · show (r.evict now).1.lease? k i = (r'.evict now).1.lease? k i
      rw [lease?_evict, lease?_evict, h.live?]
    · exact h.nextSequence

end LeaseRegistry

end ServiceBinding
