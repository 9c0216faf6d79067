import ServiceBinding.Proofs.Registry.Run

/-!
# What every state of a run keeps

`Change` lists what a write can do to the lease of every instance, and `perform_change` says that nothing
else happens. No two instances of a key ever have the same place: a sequence number is given once
(`Sound.sequence_inj`), because every number in use is below the next one (`Sound.sequence_lt`).
-/

namespace ServiceBinding

namespace LeaseRegistry

variable {r r' : LeaseRegistry} {now : Instant} {w : Write}
  {next : LeaseRegistry × Except RegistryError Unit}

/-! ## What a write can do -/

/-- What a write can make of a registry, and what comes of it. -/
inductive Change (r : LeaseRegistry) (now : Instant) :
    Write → LeaseRegistry × Except RegistryError Unit → Prop
  | failed {w err} : Change r now w (r, .error err)
  /-- An entry gets a lease in front of all others. -/
  | published {w e key r'}
      (hw : w = .register e ∨ w = .renew e ∧ r.live? now key e.instanceId = none)
      (hkey : e.key = .ok key) (hnext : r'.nextSequence = r.nextSequence + 1)
      (hlease : ∀ k i, r'.lease? k i =
        if e.IsOf k i then some ⟨e, now + e.lease, r.nextSequence⟩ else r.lease? k i) :
      Change r now w (r', .ok ())
  /-- A live entry gets a lease in its place. -/
  | renewed {e key l r'} (hkey : e.key = .ok key) (hl : r.live? now key e.instanceId = some l)
      (hnext : r'.nextSequence = r.nextSequence)
      (hlease : ∀ k i, r'.lease? k i =
        if e.IsOf k i then some ⟨e, now + e.lease, l.sequence⟩ else r.lease? k i) :
      Change r now (.renew e) (r', .ok ())
  | removed {key id r'} (hnext : r'.nextSequence = r.nextSequence)
      (hlease : ∀ k i, r'.lease? k i = if k = key ∧ i = id then none else r.lease? k i) :
      Change r now (.deregister key id) (r', .ok ())
  | cleared : Change r now .clear (r.clear, .ok ())
  | evicted : Change r now .evict ((r.evict now).1, .ok ())

/-- Whatever a write does is one of the changes. -/
theorem perform_change (r : LeaseRegistry) (now : Instant) (w : Write) :
    Change r now w (r.perform now w) := by
  cases w with
  | register e =>
    simp only [perform]
    cases h : r.register now e with
    | error err => exact .failed
    | ok r' =>
      obtain ⟨⟨key, hkey⟩, hnext, hlease⟩ := register_eq_ok h
      exact .published (.inl rfl) hkey hnext hlease
  | renew e =>
    simp only [perform]
    cases h : r.renew now e with
    | error err => exact .failed
    | ok r' =>
      rcases renew_eq_ok h with ⟨key, l, hkey, hl, hnext, hlease⟩ | ⟨⟨key, hkey, hl⟩, h⟩
      · exact .renewed hkey hl hnext hlease
      · obtain ⟨-, hnext, hlease⟩ := register_eq_ok h
        exact .published (.inr ⟨rfl, hl⟩) hkey hnext hlease
  | deregister key id =>
    simp only [perform]
    cases h : r.deregister key id with
    | error err => exact .failed
    | ok r' =>
      obtain ⟨-, hnext, hlease⟩ := deregister_eq_ok h
      exact .removed hnext hlease
  | clear => exact .cleared
  | evict => exact .evicted

theorem Populated.attempt {result : Except RegistryError LeaseRegistry} (hr : r.Populated)
    (h : ∀ r', result = .ok r' → r'.Populated) : (r.attempt result).1.Populated := by
  cases result with
  | error err => exact hr
  | ok r' => exact h r' rfl

theorem Populated.perform (hr : r.Populated) (now : Instant) (w : Write) :
    (r.perform now w).1.Populated := by
  cases w with
  | register e => exact hr.attempt fun r' h => hr.register h
  | renew e => exact hr.attempt fun r' h => hr.renew h
  | deregister key id => exact hr.attempt fun r' h => hr.deregister h
  | clear => exact r.populated_clear
  | evict => exact r.populated_evict now

/-! ## Live leases -/

theorem live?_eq_some {key : ServiceKey} {id : String} {l : Lease} :
    r.live? now key id = some l ↔ r.lease? key id = some l ∧ now < l.deadline := by
  simp [live?, Option.filter_eq_some_iff, Lease.isLive]

/-- A lease that runs at some time has run before, and is the one that ran then. -/
theorem live?_of_le {t : Instant} (h : now ≤ t) (key : ServiceKey) (id : String) :
    r.live? t key id = (r.live? now key id).filter (·.isLive t) := by
  refine Option.ext fun l => ?_
  rw [live?_eq_some, Option.filter_eq_some_iff, live?_eq_some, Lease.isLive, decide_eq_true_iff]
  constructor
  · rintro ⟨hl, ht⟩
    exact ⟨⟨hl, Nat.lt_of_le_of_lt h ht⟩, ht⟩
  · rintro ⟨⟨hl, -⟩, ht⟩
    exact ⟨hl, ht⟩

/-- Eviction takes nothing that anybody could still see. -/
theorem live?_evict {t : Instant} (h : now ≤ t) (key : ServiceKey) (id : String) :
    (r.evict now).1.live? t key id = r.live? t key id := by
  refine Option.ext fun l => ?_
  rw [live?_eq_some, lease?_evict, live?_eq_some, live?_eq_some]
  constructor
  · rintro ⟨⟨hl, -⟩, ht⟩
    exact ⟨hl, ht⟩
  · rintro ⟨hl, ht⟩
    exact ⟨⟨hl, Nat.lt_of_le_of_lt h ht⟩, ht⟩

/-! ## Writes of other instances -/

/-- The write is not about the instance under the key, and takes at most what has ended. -/
def Write.Spares (key : ServiceKey) (id : String) : Write → Prop
  | .register e | .renew e => ¬e.IsOf key id
  | .deregister k i => ¬(key = k ∧ id = i)
  | .clear => False
  | .evict => True

instance (key : ServiceKey) (id : String) : (w : Write) → Decidable (w.Spares key id)
  | .register e | .renew e => inferInstanceAs (Decidable ¬e.IsOf key id)
  | .deregister k i => inferInstanceAs (Decidable ¬(key = k ∧ id = i))
  | .clear => isFalse not_false
  | .evict => isTrue trivial

theorem Write.not_spares {key : ServiceKey} {id : String} {e : Entry} (hof : e.IsOf key id)
    (hw : w = .register e ∨ w = .renew e) : ¬w.Spares key id := by
  rcases hw with rfl | rfl
  · exact fun hspares => hspares hof
  · exact fun hspares => hspares hof

theorem live?_perform_of_spares {t : Instant} {key : ServiceKey} {id : String} (h : w.Spares key id)
    (hle : now ≤ t) : (r.perform now w).1.live? t key id = r.live? t key id := by
  have hc := r.perform_change now w
  generalize r.perform now w = next at hc ⊢
  cases hc with
  | failed => rfl
  | @published _ e _ _ hw _ _ hlease =>
    have hother : ¬e.IsOf key id := by
      rcases hw with rfl | ⟨rfl, -⟩
      · exact h
      · exact h
    simp [live?, hlease, hother]
  | @renewed e _ _ _ _ _ _ hlease =>
    have hother : ¬e.IsOf key id := h
    simp [live?, hlease, hother]
  | @removed k i _ _ hlease =>
    have hother : ¬(key = k ∧ id = i) := h
    simp [live?, hlease, hother]
  | cleared => exact h.elim
  | evicted => exact live?_evict hle key id

/-! ## The invariant -/

structure Sound (r : LeaseRegistry) : Prop where
  populated : r.Populated
  /-- An instance has the lease of an entry that was published for it. -/
  isOf : ∀ key id l, r.lease? key id = some l → l.entry.IsOf key id
  sequence_lt : ∀ key id l, r.lease? key id = some l → l.sequence < r.nextSequence
  /-- No place under a key is taken twice. -/
  sequence_inj : ∀ key i j l m, r.lease? key i = some l → r.lease? key j = some m →
    l.sequence = m.sequence → i = j

theorem empty_sound : Sound empty := ⟨populated_empty, nofun, nofun, nofun⟩

theorem Sound.reorders (hs : Sound r) (h : Reorders r r') : Sound r' where
  populated := h.populated hs.populated
  isOf key id l hl := hs.isOf key id l ((h.lease? key id).trans hl)
  sequence_lt key id l hl := h.nextSequence ▸ hs.sequence_lt key id l ((h.lease? key id).trans hl)
  sequence_inj key i j l m hl hm :=
    hs.sequence_inj key i j l m ((h.lease? key i).trans hl) ((h.lease? key j).trans hm)

/-- A registry has nothing that it had not before, but for the entry written. -/
theorem Sound.publish (hs : Sound r) (hr' : r'.Populated) {e : Entry} {deadline : Instant} {n : Nat}
    (hn : n < r'.nextSequence) (hle : r.nextSequence ≤ r'.nextSequence)
    (hfree : ∀ key i l, r.lease? key i = some l → l.sequence = n → e.key = .ok key → e.instanceId = i)
    (hlease : ∀ k i, r'.lease? k i = if e.IsOf k i then some ⟨e, deadline, n⟩ else r.lease? k i) :
    Sound r' where
  populated := hr'
  isOf key id l hl := by
    rw [hlease] at hl
    split at hl
    · rename_i hof
      obtain rfl := Option.some.inj hl
      exact hof
    · exact hs.isOf key id l hl
  sequence_lt key id l hl := by
    rw [hlease] at hl
    split at hl
    · obtain rfl := Option.some.inj hl
      exact hn
    · exact Nat.lt_of_lt_of_le (hs.sequence_lt key id l hl) hle
  sequence_inj key i j l m hl hm heq := by
    rw [hlease] at hl hm
    -- the place that is written is free under its key, but for the instance itself
    split at hl <;> split at hm
    · rename_i hi hj
      exact hi.2.symm.trans hj.2
    · rename_i hi hj
      obtain rfl := Option.some.inj hl
      exact hi.2.symm.trans (hfree key j m hm heq.symm hi.1)
    · rename_i hi hj
      obtain rfl := Option.some.inj hm
      exact (hfree key i l hl heq hj.1).symm.trans hj.2
    · exact hs.sequence_inj key i j l m hl hm heq

/-- A registry has nothing that it had not before. -/
theorem Sound.sub (hs : Sound r) (hr' : r'.Populated) (hnext : r'.nextSequence = r.nextSequence)
    (hlease : ∀ k i l, r'.lease? k i = some l → r.lease? k i = some l) : Sound r' where
  populated := hr'
  isOf key id l hl := hs.isOf key id l (hlease key id l hl)
  sequence_lt key id l hl := hnext ▸ hs.sequence_lt key id l (hlease key id l hl)
  sequence_inj key i j l m hl hm :=
    hs.sequence_inj key i j l m (hlease key i l hl) (hlease key j m hm)

theorem Sound.perform (hs : Sound r) (now : Instant) (w : Write) : Sound (r.perform now w).1 := by
  have hp := hs.populated.perform now w
  have hc := r.perform_change now w
  generalize r.perform now w = next at hp hc ⊢
  cases hc with
  | failed => exact hs
  | @published _ e key r' hw hkey hnext hlease =>
    show Sound r'
    refine hs.publish hp (by omega) (by omega) (fun key i l hl heq _ => ?_) hlease
    have hlt := hs.sequence_lt key i l hl
    omega
  | @renewed e key l r' hkey hl hnext hlease =>
    show Sound r'
    -- the place of the lease that is started again is the instance's own
    obtain ⟨hstored, -⟩ := live?_eq_some.1 hl
    have hlt := hs.sequence_lt key e.instanceId l hstored
    refine hs.publish hp (by omega) (by omega) (fun k i m hm heq hk => ?_) hlease
    obtain rfl := Except.ok.inj (hkey.symm.trans hk)
    exact hs.sequence_inj key _ i l m hstored hm heq.symm
  | removed hnext hlease =>
    refine hs.sub hp hnext fun k i l hl => ?_
    rw [hlease] at hl
    split at hl
    · cases hl
    · exact hl
  | cleared => exact hs.sub hp rfl nofun
  | evicted =>
    refine hs.sub hp rfl fun k i l hl => ?_
    rw [lease?_evict, live?_eq_some] at hl
    exact hl.1

theorem Run.sound (r : Run) (n : Nat) : Sound (r.state n) := by
  induction n with
  | zero =>
    rw [r.starts]
    exact empty_sound
  | succ n ih => exact (ih.perform (r.time n) (r.write n)).reorders (r.steps n)

end LeaseRegistry

end ServiceBinding
