import ServiceBinding.Proofs.Registry.Reordered
import ServiceBinding.Registry.Cache

/-!
# A registry behind a cache

Every use of a registry goes through a cache of its look-ups. Its twin is driven by the same operations
without a cache. What is kept of a look-up is what the registry finds, and goes on finding until the kept
entry is outdated (`Coherent.kept`): the lease of the entry found still runs then, and a write of the key
would have had the cache forget it. So nothing that is shown tells the two apart, but for look-ups that break
off because the clock cannot tell until when the entry found is to be kept (`cached_shows`); such a look-up
leaves the registry as it was, and what comes after it is shown alike again.
-/

namespace ServiceBinding

namespace LeaseRegistry

variable {r : LeaseRegistry} {now t : Instant}

/-! ## Operations -/

/-- What is done with a registry. -/
inductive Operation
  | register (e : Entry)
  | renew (e : Entry)
  | deregister (key : ServiceKey) (instanceId : String)
  | evict
  | invalidate (key : ServiceKey)
  | lookup (key : ServiceKey)
  | list (key : ServiceKey)

/-- What an operation shows. -/
inductive Shown
  | written (result : Except RegistryError Unit)
  | evicted (count : Nat)
  | found (entry : Option Entry)
  | listed (entries : List Entry)
  | nothing
  /-- The operation has broken off. -/
  | brokenOff

def write (r : LeaseRegistry) (now : Instant) (w : Write) : LeaseRegistry × Shown :=
  ((r.perform now w).1, .written (r.perform now w).2)

/-- An operation on the registry itself, which has nothing to invalidate. -/
def use (r : LeaseRegistry) (now : Instant) : Operation → LeaseRegistry × Shown
  | .register e => r.write now (.register e)
  | .renew e => r.write now (.renew e)
  | .deregister key instanceId => r.write now (.deregister key instanceId)
  | .evict => ((r.evict now).1, .evicted (r.evict now).2)
  | .invalidate _ => (r, .nothing)
  | .lookup key => (r, .found (r.lookup now key))
  | .list key => (r, .listed (r.list now key))

/-! ## Writes under a key -/

/-- The write may change what is found under the key. -/
def Write.Touches : Write → ServiceKey → Prop
  | .register e, key => e.key = .ok key
  | .renew e, key => e.key = .ok key
  | .deregister k _, key => k = key
  | .clear, _ => True
  | .evict, _ => False

/-- A write of other keys spares every instance of this one. -/
theorem Write.spares_of_not_touches {w : Write} {key : ServiceKey} (h : ¬w.Touches key) (id : String) :
    w.Spares key id := by
  cases w with
  | register e | renew e => exact fun hof => h hof.1
  | deregister k i => exact fun hof => h hof.1.symm
  | clear => exact absurd trivial h
  | evict => exact trivial

/-- A write of other keys changes nothing that is found under this one. -/
theorem Sound.lookup_perform (hs : Sound r) {w : Write} {key : ServiceKey} (h : ¬w.Touches key)
    (hle : now ≤ t) : (r.perform now w).1.lookup t key = r.lookup t key :=
  lookup_congr (hs.perform now w) hs fun id => live?_perform_of_spares (w.spares_of_not_touches h id) hle

end LeaseRegistry

/-- A registry and the cache of its look-ups. -/
structure CachedRegistry where
  cache : LookupCache
  registry : LeaseRegistry

namespace CachedRegistry

open LeaseRegistry (Operation Shown Write Sound Reorders empty_sound)

variable {c c' : CachedRegistry} {r r' : LeaseRegistry} {now t : Instant}

def forget (c : CachedRegistry) (key : ServiceKey) : CachedRegistry :=
  { c with cache := c.cache.forget key }

def write (c : CachedRegistry) (now : Instant) (w : Write) : CachedRegistry × Shown :=
  ({ c with registry := (c.registry.write now w).1 }, (c.registry.write now w).2)

/-- Writes an entry, of whose key the cache forgets what it has. -/
def writeEntry (c : CachedRegistry) (now : Instant) (e : Entry) (w : Write) :
    CachedRegistry × Shown :=
  match e.key with
  | .error err => (c, .written (.error err))
  | .ok key => (c.forget key).write now w

/-- Looks a key up; what is not kept is asked of the registry, and kept. -/
def lookup (c : CachedRegistry) (now : Instant) (key : ServiceKey) : CachedRegistry × Shown :=
  match c.cache.serve now key with
  | (cache, some e) => ({ c with cache }, .found (some e))
  | (cache, none) =>
    let found := c.registry.lookup now key
    match cache.keep? now key found with
    | some cache => ({ c with cache }, .found found)
    | none => ({ c with cache }, .brokenOff)

/-- An operation through the cache. Only the sweep is made on the registry itself. -/
def use (c : CachedRegistry) (now : Instant) : Operation → CachedRegistry × Shown
  | .register e => c.writeEntry now e (.register e)
  | .renew e => c.writeEntry now e (.renew e)
  | .deregister key instanceId => (c.forget key).write now (.deregister key instanceId)
  | .evict => ({ c with registry := (c.registry.evict now).1 }, .evicted (c.registry.evict now).2)
  | .invalidate key => (c.forget key, .nothing)
  | .lookup key => c.lookup now key
  | .list key => (c, .listed (c.registry.list now key))

/-- Whether an operation breaks off: a key is looked up for which nothing is kept, an entry is found, and
the clock ends before the time is over for which that could be answered. -/
def breaksOff (c : CachedRegistry) (now : Instant) : Operation → Bool
  | .lookup key =>
    (c.cache.serve now key).2.isNone && (c.registry.lookup now key).isSome &&
      decide (Instant.bound ≤ now + c.cache.ttl)
  | _ => false

/-- Nothing breaks off as long as the clock can tell when what is found now may no longer be answered. -/
theorem breaksOff_of_lt (h : now + c.cache.ttl < Instant.bound) (op : Operation) :
    c.breaksOff now op = false := by
  cases op with
  | lookup key => simp [breaksOff, h]
  | _ => rfl

/-- A look-up for which nothing is kept breaks off exactly if its answer cannot be kept. -/
theorem breaksOff_lookup_iff {key : ServiceKey} {cache : LookupCache}
    (hserve : c.cache.serve now key = (cache, none)) :
    c.breaksOff now (.lookup key) = true ↔
      cache.keep? now key (c.registry.lookup now key) = none := by
  have httl : cache.ttl = c.cache.ttl := by
    rw [← c.cache.ttl_serve now key, hserve]
  simp only [breaksOff, hserve, Option.isNone_none, Bool.true_and, Bool.and_eq_true, decide_eq_true_iff,
    LookupCache.keep?_eq_none_iff, httl]
  refine and_congr_left fun _ => ?_
  constructor
  · intro hsome
    obtain ⟨e, he⟩ := Option.isSome_iff_exists.mp hsome
    obtain ⟨deadline, hdeadline⟩ := LeaseRegistry.expiresAt_of_lookup he
    exact ⟨e, deadline, he, hdeadline⟩
  · rintro ⟨e, -, he, -⟩
    rw [he]
    rfl

/-! ## What an operation does to the cache -/

theorem ttl_lookup (c : CachedRegistry) (now : Instant) (key : ServiceKey) :
    (c.lookup now key).1.cache.ttl = c.cache.ttl := by
  have httl := c.cache.ttl_serve now key
  unfold lookup
  generalize c.cache.serve now key = served at httl ⊢
  obtain ⟨cache, _ | e⟩ := served
  · dsimp only
    split
    · rename_i hkeep
      exact (LookupCache.ttl_keep? hkeep).trans httl
    · exact httl
  · exact httl

/-- How long a found entry is answered at most stays as it is. -/
theorem ttl_use (c : CachedRegistry) (now : Instant) (op : Operation) :
    (c.use now op).1.cache.ttl = c.cache.ttl := by
  cases op with
  | register e | renew e =>
    simp only [use, writeEntry]
    split <;> rfl
  | lookup key => exact c.ttl_lookup now key
  | _ => rfl

/-! ## The invariant -/

/-- The registries hold the same, and what is kept is what is found. -/
structure Coherent (c : CachedRegistry) (r : LeaseRegistry) (now : Instant) : Prop where
  sound : Sound c.registry
  same : Reorders c.registry r
  kept : ∀ key kept, c.cache.cached.get? key = some kept →
    ∀ t, now ≤ t → t < kept.validUntil → c.registry.lookup t key = some kept.entry

theorem Coherent.later (h : Coherent c r now) (hle : now ≤ t) : Coherent c r t where
  sound := h.sound
  same := h.same
  kept key kept hkept t' ht := h.kept key kept hkept t' (Nat.le_trans hle ht)

theorem Coherent.reorders (h : Coherent c r now) (hcache : c.cache = c'.cache)
    (hregistry : Reorders c.registry c'.registry) (htwin : Reorders r r') : Coherent c' r' now where
  sound := h.sound.reorders hregistry
  same := (hregistry.symm.trans h.same).trans htwin
  kept key kept hkept t hle ht := by
    rw [← hregistry.lookup h.sound]
    exact h.kept key kept (hcache ▸ hkept) t hle ht

theorem Coherent.forget (h : Coherent c r now) (key : ServiceKey) : Coherent (c.forget key) r now where
  sound := h.sound
  same := h.same
  kept k kept hkept := by
    simp only [CachedRegistry.forget, LookupCache.get?_forget] at hkept
    split at hkept
    · cases hkept
    · exact h.kept k kept hkept

theorem get?_forget (c : CachedRegistry) (key : ServiceKey) :
    (c.forget key).cache.cached.get? key = none := by
  simp [CachedRegistry.forget, LookupCache.get?_forget]

/-- A write of keys that nothing is kept of. -/
theorem Coherent.write (h : Coherent c r now) {w : Write}
    (hfree : ∀ key, w.Touches key → c.cache.cached.get? key = none) :
    Coherent (c.write now w).1 (r.write now w).1 now ∧ (c.write now w).2 = (r.write now w).2 := by
  obtain ⟨hsame, hresult⟩ := h.same.perform h.sound.populated now w
  refine ⟨⟨h.sound.perform now w, hsame, fun key kept hkept t hle ht => ?_⟩,
    congrArg Shown.written hresult⟩
  have huntouched : ¬w.Touches key := fun htouches => by
    cases (hfree key htouches).symm.trans hkept
  exact (h.sound.lookup_perform huntouched hle).trans (h.kept key kept hkept t hle ht)

theorem Coherent.writeEntry (h : Coherent c r now) {e : Entry} {w : Write}
    (hw : w = .register e ∨ w = .renew e) :
    Coherent (c.writeEntry now e w).1 (r.write now w).1 now ∧
      (c.writeEntry now e w).2 = (r.write now w).2 := by
  unfold CachedRegistry.writeEntry
  cases hkey : e.key with
  | error err =>
    -- without a key the registry itself would have refused the entry
    have hrefused : r.perform now w = (r, .error err) := by
      rcases hw with rfl | rfl
      · simp [LeaseRegistry.perform, LeaseRegistry.register_eq_error.2 hkey, LeaseRegistry.attempt]
      · simp [LeaseRegistry.perform, LeaseRegistry.renew_eq_error.2 hkey, LeaseRegistry.attempt]
    rw [LeaseRegistry.write, hrefused]
    exact ⟨h, rfl⟩
  | ok key =>
    refine (h.forget key).write fun k htouches => ?_
    have hk : e.key = .ok k := by
      rcases hw with rfl | rfl
      · exact htouches
      · exact htouches
    obtain rfl := Except.ok.inj (hkey.symm.trans hk)
    exact c.get?_forget key

theorem Coherent.lookup (h : Coherent c r now) (key : ServiceKey) :
    Coherent (c.lookup now key).1 r now ∧
      (c.lookup now key).2 =
        if c.breaksOff now (.lookup key) then .brokenOff else .found (r.lookup now key) := by
  have hfound := h.same.lookup h.sound now key
  have hcases := c.cache.serve_cases now key
  rcases hserve : c.cache.serve now key with ⟨cache, answer⟩
  simp only [hserve] at hcases
  rcases hcases with ⟨kept, hkept, hvalid, rfl, hcached⟩ | ⟨rfl, hcached⟩
  · -- what is kept is what the registry would find now
    have hnow := h.kept key kept hkept now (Nat.le_refl now) hvalid
    simp only [CachedRegistry.lookup, breaksOff, hserve]
    refine ⟨⟨h.sound, h.same, fun k kept' hk => h.kept k kept' (hcached ▸ hk)⟩, ?_⟩
    simp [← hfound, hnow]
  cases hkeep : cache.keep? now key (c.registry.lookup now key) with
  | none =>
    -- the cache has at most forgotten what was outdated
    have hbreaks : c.breaksOff now (.lookup key) = true := (breaksOff_lookup_iff hserve).mpr hkeep
    simp only [CachedRegistry.lookup, hserve, hkeep, hbreaks, if_true]
    exact ⟨⟨h.sound, h.same, fun k kept hk => h.kept k kept (hcached k kept hk)⟩, trivial⟩
  | some cache' =>
    have hgoes : ¬c.breaksOff now (.lookup key) = true := fun hbreaks => by
      cases hkeep.symm.trans ((breaksOff_lookup_iff hserve).mp hbreaks)
    simp only [CachedRegistry.lookup, hserve, hkeep, hgoes]
    refine ⟨⟨h.sound, h.same, fun k kept hk t hle ht => ?_⟩, congrArg Shown.found hfound⟩
    -- what is kept now ends with its lease, and until then nothing newer can be found
    rcases LookupCache.get?_keep? hkeep hk with hbefore | ⟨rfl, hentry, deadline, hdeadline, hvalid⟩
    · exact h.kept k kept (hcached k kept hbefore) t hle ht
    · have hlease : t < deadline := Nat.lt_of_lt_of_le ht (hvalid ▸ Nat.min_le_left _ _)
      exact h.sound.lookup_of_le hle hentry hdeadline hlease

theorem Coherent.use (h : Coherent c r now) (op : Operation) :
    Coherent (c.use now op).1 (r.use now op).1 now ∧
      (c.use now op).2 = if c.breaksOff now op then .brokenOff else (r.use now op).2 := by
  cases op with
  | register e => exact h.writeEntry (.inl rfl)
  | renew e => exact h.writeEntry (.inr rfl)
  | deregister key id =>
    refine (h.forget key).write fun k htouches => ?_
    have hk : key = k := htouches
    exact hk ▸ c.get?_forget key
  | evict =>
    obtain ⟨hwritten, -⟩ := h.write (w := .evict) (fun _ => False.elim)
    exact ⟨hwritten, congrArg Shown.evicted (h.same.evicted now)⟩
  | invalidate key => exact ⟨h.forget key, rfl⟩
  | lookup key => exact h.lookup key
  | list key => exact ⟨h, congrArg Shown.listed (h.same.list h.sound now key)⟩

/-! ## Runs -/

/-- A run of an empty registry behind a new cache, and of its twin without a cache. -/
structure Run where
  /-- How long a found entry is answered at most. -/
  ttl : Span
  time : Nat → Instant
  operation : Nat → Operation
  /-- What there is before step `n`. -/
  cached : Nat → CachedRegistry
  /-- The twin before step `n`. -/
  bare : Nat → LeaseRegistry
  mono : Monotone time
  starts : cached 0 = ⟨{ ttl }, .empty⟩ ∧ bare 0 = .empty
  cache : ∀ n, ((cached n).use (time n) (operation n)).1.cache = (cached (n + 1)).cache
  registry : ∀ n, Reorders ((cached n).use (time n) (operation n)).1.registry (cached (n + 1)).registry
  twin : ∀ n, Reorders ((bare n).use (time n) (operation n)).1 (bare (n + 1))

theorem Run.coherent (r : Run) (n : Nat) : Coherent (r.cached n) (r.bare n) (r.time n) := by
  induction n with
  | zero =>
    rw [r.starts.1, r.starts.2]
    exact ⟨empty_sound, .refl _, nofun⟩
  | succ n ih =>
    have hafter := (ih.use (r.operation n)).1.later (r.mono (Nat.le_succ n))
    exact hafter.reorders (r.cache n) (r.registry n) (r.twin n)

theorem Run.ttl_eq (r : Run) (n : Nat) : (r.cached n).cache.ttl = r.ttl := by
  induction n with
  | zero => rw [r.starts.1]
  | succ n ih => rw [← r.cache n, ttl_use, ih]

/-- **The cache is transparent.** Whatever is done, at whatever times: as long as the clock can tell when an
entry found now may no longer be answered, it shows through the cache what it shows of the registry that has no
cache. Where the clock cannot, only a look-up for which nothing is kept and which finds an entry shows something
else: it breaks off. -/
theorem Run.cached_shows (r : Run) (n : Nat) :
    (r.time n + r.ttl < Instant.bound →
      ((r.cached n).use (r.time n) (r.operation n)).2 = ((r.bare n).use (r.time n) (r.operation n)).2) ∧
    ((r.cached n).use (r.time n) (r.operation n)).2 =
      (if (r.cached n).breaksOff (r.time n) (r.operation n) then .brokenOff
        else ((r.bare n).use (r.time n) (r.operation n)).2) ∧
    (r.cached n).cache.ttl = r.ttl := by
  have hshown := ((r.coherent n).use (r.operation n)).2
  refine ⟨fun hlt => ?_, hshown, r.ttl_eq n⟩
  rw [← r.ttl_eq n] at hlt
  rw [hshown, breaksOff_of_lt hlt]
  rfl

/-- A run given by its first operations and the time that passes before each; from then on the registry is
swept again and again. -/
def Run.ofSteps (ttl : Span) (steps : List (Span × Operation)) : Run :=
  let operation n := (steps[n]?.map Prod.snd).getD .evict
  { ttl
    time := Trace.clock steps
    operation
    cached := Nat.rec ⟨{ ttl }, .empty⟩ fun n c => (c.use (Trace.clock steps n) (operation n)).1
    bare := Nat.rec .empty fun n r => (r.use (Trace.clock steps n) (operation n)).1
    mono := Trace.clock_mono steps
    starts := ⟨rfl, rfl⟩
    cache := fun _ => rfl
    registry := fun _ => .refl _
    twin := fun _ => .refl _ }

namespace Sample

def menu : ServiceKey := ⟨"Menu", none⟩

def entry : Entry := ⟨Properties.forApi "Menu" "direct", 10, none⟩

/-- An entry is looked up three times: it is found in the registry, kept, and outdated with its lease. -/
def lookups (ttl : Span) : Run :=
  .ofSteps ttl [(0, .register entry), (1, .lookup menu), (8, .lookup menu), (1, .lookup menu)]

end Sample

/-- The second look-up is answered from the cache. -/
theorem cached_shows_hit :
    let r := Sample.lookups 60
    ((r.cached 2).cache.hits = 0 ∧ (r.cached 3).cache.hits = 1) ∧
      r.time 2 + r.ttl < Instant.bound ∧
      ((r.cached 2).use (r.time 2) (r.operation 2)).2 = ((r.bare 2).use (r.time 2) (r.operation 2)).2 := by
  have hlt : (Sample.lookups 60).time 2 + (Sample.lookups 60).ttl < Instant.bound := by decide
  exact ⟨⟨rfl, rfl⟩, hlt, (Run.cached_shows (Sample.lookups 60) 2).1 hlt⟩

/-- With the longest span there is, a nanosecond short of as many seconds as a word of 64 bits cannot count,
the first look-up breaks off where the registry alone answers. -/
theorem breaks_off_longest :
    let r := Sample.lookups (Span.ofSeconds Width.bound64 - 1)
    ((r.cached 1).use (r.time 1) (r.operation 1)).2 = .brokenOff ∧
      ((r.bare 1).use (r.time 1) (r.operation 1)).2 =
        .found (some { Sample.entry with expiresAt := some 10 }) :=
  ⟨rfl, rfl⟩

end CachedRegistry

end ServiceBinding
