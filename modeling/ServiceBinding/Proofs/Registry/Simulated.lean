import ServiceBinding.Proofs.Registry.Cached
import ServiceBinding.Simulation.World

/-!
# The cache of the simulated world

While the link of the simulated world is up and takes no time, what an application does through the cache
is an operation on a registry behind a cache, and shows what that shows.
-/

namespace ServiceBinding.Simulation.World

open LeaseRegistry (Shown Write)

variable {w : World}

/-- The registry of the world, behind its cache. -/
def cachedRegistry (w : World) : CachedRegistry := ⟨w.cache, w.registry⟩

/-- What comes of an operation of the world is what comes of one of its registry. -/
structure Uses (next : World × Except RegistryError Unit) (used : CachedRegistry × Shown) : Prop where
  registry : next.1.cachedRegistry = used.1
  shown : .written next.2 = used.2

/-! ## Writes -/

theorem overLink_write (hup : w.link.down = false) {op : LeaseRegistry → Except RegistryError LeaseRegistry}
    {write : Write} (hwrite : w.registry.perform w.now write = w.registry.attempt (op w.registry)) :
    Uses (w.overLink op) (w.cachedRegistry.write w.now write) := by
  have hperform : w.cachedRegistry.write w.now write =
      (⟨w.cache, (w.registry.attempt (op w.registry)).1⟩,
        .written (w.registry.attempt (op w.registry)).2) := by
    rw [← hwrite]
    rfl
  rw [hperform]
  cases hop : op w.registry with
  | error err => constructor <;> simp [overLink, hup, hop, LeaseRegistry.attempt, cachedRegistry]
  | ok r => constructor <;> simp [overLink, hup, hop, LeaseRegistry.attempt, cachedRegistry]

theorem register_cache (hup : w.link.down = false) (e : Entry) :
    Uses (w.register .cache e) (w.cachedRegistry.use w.now (.register e)) := by
  simp only [register, throughCache, CachedRegistry.use, CachedRegistry.writeEntry]
  cases e.key with
  | error err => exact ⟨rfl, rfl⟩
  | ok key => exact overLink_write (w := w.forgetting key) hup rfl

theorem renew_cache (hup : w.link.down = false) (e : Entry) :
    Uses (w.renew .cache e) (w.cachedRegistry.use w.now (.renew e)) := by
  simp only [renew, throughCache, CachedRegistry.use, CachedRegistry.writeEntry]
  cases e.key with
  | error err => exact ⟨rfl, rfl⟩
  | ok key => exact overLink_write (w := w.forgetting key) hup rfl

theorem deregister_cache (hup : w.link.down = false) (key : ServiceKey) (id : String) :
    Uses (w.deregister .cache key id) (w.cachedRegistry.use w.now (.deregister key id)) := by
  simp only [deregister, CachedRegistry.use]
  exact overLink_write (w := w.forgetting key) hup rfl

/-! ## Readings -/

theorem list_cache (hup : w.link.down = false) (key : ServiceKey) :
    ∃ entries, w.list .cache key = .ok entries ∧
      w.cachedRegistry.use w.now (.list key) = (w.cachedRegistry, .listed entries) :=
  ⟨w.registry.list w.now key, by simp [list, hup], rfl⟩

/-- How a look-up ends of which this is shown. -/
def Ends : Shown → Fate RegistryError (Option Entry) → Prop
  | .found found, fate => fate = .result (.ok found)
  | .brokenOff, fate => fate = .broken beyondClock
  | _, _ => False

/-- A look-up ends as soon as it has begun. -/
theorem lookup_cache (hup : w.link.down = false) (hnear : w.link.latency = 0) (key : ServiceKey) :
    ∃ w' fate shown, (w.beginLookup .cache key).1.endLookup? (w.beginLookup .cache key).2 =
        some (w', fate) ∧
      w.cachedRegistry.use w.now (.lookup key) = (w'.cachedRegistry, shown) ∧ Ends shown fate := by
  simp only [CachedRegistry.use, CachedRegistry.lookup, cachedRegistry, beginLookup, beginOnLink]
  rcases w.cache.serve w.now key with ⟨cache, _ | e⟩
  · simp only [endLookup?, hnear, hup, Nat.add_zero, Nat.lt_irrefl, if_false, Bool.false_eq_true]
    cases cache.keep? w.now key (w.registry.lookup w.now key) with
    | none => exact ⟨_, _, _, rfl, rfl, rfl⟩
    | some cache' => exact ⟨_, _, _, rfl, rfl, rfl⟩
  · exact ⟨_, _, _, rfl, rfl, rfl⟩

end ServiceBinding.Simulation.World
