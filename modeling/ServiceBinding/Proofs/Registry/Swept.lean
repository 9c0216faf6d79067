import Mathlib.Data.Set.Card
import ServiceBinding.Proofs.Registry.Log
import ServiceBinding.Proofs.Registry.Reordered

/-!
# Sweeping a registry

Leases that have ended stay in a registry until they are evicted. Nobody sees whether they are: the live
part of a registry (`LivePart`) goes from write to write on its own (`livePart_perform`), everything that is
read is read off the live part (`reads_of_livePart`), and an eviction leaves it alone. So a run and the same
run with evictions put in anywhere (`Run.Swept`) have the same live parts (`Run.Swept.livePart_eq`), and
give the same answers.
-/

namespace ServiceBinding

namespace LeaseRegistry

variable {r r' : LeaseRegistry} {now t : Instant} {e : Entry} {key : ServiceKey} {id : String}

/-! ## The live part -/

/-- Who has a lease that runs, and the next place. -/
@[ext]
structure LivePart where
  lease? : ServiceKey → String → Option Lease
  nextSequence : Nat

/-- The live part of a registry at a time. -/
def livePart (r : LeaseRegistry) (now : Instant) : LivePart := ⟨r.live? now, r.nextSequence⟩

namespace LivePart

/-- An entry gets a lease in some place; one that takes no time has ended already. -/
def leased (v : LivePart) (now : Instant) (e : Entry) (sequence nextSequence : Nat) : LivePart where
  lease? key id :=
    if e.IsOf key id then (some ⟨e, now + e.lease, sequence⟩).filter (·.isLive now) else v.lease? key id
  nextSequence := nextSequence

/-- What a write makes of a live part. An entry without a key changes nothing. -/
def perform (v : LivePart) (now : Instant) : Write → LivePart
  | .register e =>
    match e.key with
    | .ok _ => v.leased now e v.nextSequence (v.nextSequence + 1)
    | .error _ => v
  | .renew e =>
    match e.key with
    | .ok key =>
      match v.lease? key e.instanceId with
      | some l => v.leased now e l.sequence v.nextSequence
      | none => v.leased now e v.nextSequence (v.nextSequence + 1)
    | .error _ => v
  | .deregister key id =>
    { v with lease? := fun k i => if k = key ∧ i = id then none else v.lease? k i }
  | .clear => { v with lease? := fun _ _ => none }
  | .evict => v

end LivePart

theorem livePart_eq_iff : r.livePart now = r'.livePart t ↔
    (∀ key id, r.live? now key id = r'.live? t key id) ∧ r.nextSequence = r'.nextSequence := by
  rw [LivePart.ext_iff, funext_iff]
  exact and_congr_left fun _ => forall_congr' fun key => funext_iff

theorem livePart_of_reorders (h : Reorders r r') (now : Instant) : r.livePart now = r'.livePart now :=
  livePart_eq_iff.2 ⟨h.live? now, h.nextSequence⟩

/-- What is live later is live now, unless it ends in between. -/
theorem livePart_of_le (h : now ≤ t) (heq : r.livePart now = r'.livePart now) :
    r.livePart t = r'.livePart t := by
  rw [livePart_eq_iff] at heq ⊢
  refine ⟨fun key id => ?_, heq.2⟩
  rw [live?_of_le h, live?_of_le h, heq.1]

/-- Eviction takes nothing that is live, then or later. -/
theorem livePart_evict (r : LeaseRegistry) (h : now ≤ t) :
    (r.evict now).1.livePart t = r.livePart t :=
  livePart_eq_iff.2 ⟨live?_evict h, rfl⟩

/-! ## Writes -/

theorem livePart_leased {sequence : Nat}
    (hlease : ∀ k i, r'.lease? k i =
      if e.IsOf k i then some ⟨e, now + e.lease, sequence⟩ else r.lease? k i) :
    r'.livePart now = (r.livePart now).leased now e sequence r'.nextSequence := by
  refine LivePart.ext (funext fun k => funext fun i => ?_) rfl
  simp only [livePart, LivePart.leased, live?, hlease]
  split <;> rfl

theorem livePart_register (h : r.register now e = .ok r') :
    r'.livePart now = (r.livePart now).leased now e r.nextSequence (r.nextSequence + 1) := by
  obtain ⟨-, hnext, hlease⟩ := register_eq_ok h
  rw [livePart_leased hlease, hnext]

/-- An instance that has a lease, running or not, can be taken back. -/
theorem exists_deregister (h : (r.lease? key id).isSome = true) :
    ∃ r', r.deregister key id = .ok r' := by
  unfold lease? at h
  cases hs : r.services.get? key with
  | none => simp [hs] at h
  | some instances =>
    have hcontains : instances.contains id = true := by simpa [hs, Table.contains] using h
    simp [deregister, hs, hcontains]

/-- The live part goes from write to write on its own. -/
theorem livePart_perform (r : LeaseRegistry) (now : Instant) (w : Write) :
    (r.perform now w).1.livePart now = (r.livePart now).perform now w := by
  cases w with
  | register e =>
    cases h : r.register now e with
    | error err => simp only [perform, attempt, h, LivePart.perform, register_eq_error.1 h]
    | ok r' =>
      obtain ⟨⟨key, hkey⟩, -, -⟩ := register_eq_ok h
      simp only [perform, attempt, h, LivePart.perform, hkey]
      exact livePart_register h
  | renew e =>
    cases h : r.renew now e with
    | error err => simp only [perform, attempt, h, LivePart.perform, renew_eq_error.1 h]
    | ok r' =>
      rcases renew_eq_ok h with ⟨key, l, hkey, hl, hnext, hlease⟩ | ⟨⟨key, hkey, hl⟩, hregister⟩
      · have hlive : (r.livePart now).lease? key e.instanceId = some l := hl
        simp only [perform, attempt, h, LivePart.perform, hkey, hlive]
        exact (livePart_leased hlease).trans (by rw [hnext]; rfl)
      · have hlive : (r.livePart now).lease? key e.instanceId = none := hl
        simp only [perform, attempt, h, LivePart.perform, hkey, hlive]
        exact livePart_register hregister
  | deregister key id =>
    cases h : r.deregister key id with
    | error err =>
      -- there was nothing to take back, live or not
      have hnone : r.lease? key id = none := by
        cases hstored : r.lease? key id with
        | none => rfl
        | some l =>
          obtain ⟨r', hok⟩ := exists_deregister (by rw [hstored]; rfl)
          rw [h] at hok
          cases hok
      simp only [perform, attempt, h, LivePart.perform]
      refine LivePart.ext (funext fun k => funext fun i => ?_) rfl
      simp only [livePart, live?]
      split
      · next hof => simp [hof, hnone]
      · rfl
    | ok r' =>
      obtain ⟨-, hnext, hlease⟩ := deregister_eq_ok h
      simp only [perform, attempt, h, LivePart.perform]
      refine LivePart.ext (funext fun k => funext fun i => ?_) hnext
      simp only [livePart, live?, hlease]
      split <;> rfl
  | clear => rfl
  | evict => exact livePart_evict r (Nat.le_refl now)

/-- What comes of a write, if an instance that is to be taken back is there. -/
def Write.outcome : Write → Except RegistryError Unit
  | .register e | .renew e => e.key.map fun _ => ()
  | .deregister .. | .clear | .evict => .ok ()

theorem perform_outcome {w : Write}
    (hthere : ∀ key id, w = .deregister key id → (r.lease? key id).isSome = true) :
    (r.perform now w).2 = w.outcome := by
  cases w with
  | register e =>
    cases h : r.register now e with
    | error err => simp [perform, attempt, h, Write.outcome, register_eq_error.1 h, Except.map]
    | ok r' =>
      obtain ⟨⟨key, hkey⟩, -, -⟩ := register_eq_ok h
      simp [perform, attempt, h, Write.outcome, hkey, Except.map]
  | renew e =>
    cases h : r.renew now e with
    | error err => simp [perform, attempt, h, Write.outcome, renew_eq_error.1 h, Except.map]
    | ok r' =>
      have hkey : ∃ key, e.key = .ok key := by
        rcases renew_eq_ok h with ⟨key, _, hkey, _⟩ | ⟨⟨key, hkey, _⟩, _⟩
        · exact ⟨key, hkey⟩
        · exact ⟨key, hkey⟩
      obtain ⟨key, hkey⟩ := hkey
      simp [perform, attempt, h, Write.outcome, hkey, Except.map]
  | deregister key id =>
    obtain ⟨r', h⟩ := exists_deregister (hthere key id rfl)
    simp only [perform, attempt, h, Write.outcome]
  | clear | evict => rfl

/-! ## Readings -/

/-- Whatever is read at a time is read off the live part. -/
theorem reads_of_livePart (hs : Sound r) (hs' : Sound r') (h : r.livePart t = r'.livePart t) :
    (∀ key, r.lookup t key = r'.lookup t key) ∧ (∀ key, r.list t key = r'.list t key) ∧
      r.count t = r'.count t := by
  obtain ⟨hlive, -⟩ := livePart_eq_iff.1 h
  have hlist : ∀ key, r.list t key = r'.list t key := fun key => by
    rw [list_eq, list_eq, listed_congr hs hs' (hlive key)]
  refine ⟨fun key => lookup_congr hs hs' (hlive key), hlist, ?_⟩
  rw [count_eq, count_eq]
  exact finsum_congr fun key => congrArg List.length (hlist key)

/-! ## What an eviction finds -/

/-- The leases of some kind, each named by its key and its instance. -/
def namesOf (r : LeaseRegistry) (p : Lease → Bool) : List (ServiceKey × String) :=
  r.services.entries.flatMap fun s => (s.2.entries.filter fun kv => p kv.2).map fun kv => (s.1, kv.1)

theorem mem_namesOf {p : Lease → Bool} {name : ServiceKey × String} :
    name ∈ r.namesOf p ↔ ∃ l, r.lease? name.1 name.2 = some l ∧ p l = true := by
  obtain ⟨key, id⟩ := name
  simp only [namesOf, List.mem_flatMap, List.mem_map, List.mem_filter, lease?, Prod.mk.injEq]
  constructor
  · rintro ⟨⟨_, instances⟩, hinstances, ⟨_, l⟩, ⟨hl, hp⟩, rfl, rfl⟩
    exact ⟨l, by rw [Table.mem_entries.1 hinstances]; exact Table.mem_entries.1 hl, hp⟩
  · rintro ⟨l, hl, hp⟩
    obtain ⟨instances, hinstances, hl⟩ := Option.bind_eq_some_iff.1 hl
    rw [← Table.mem_entries] at hinstances hl
    exact ⟨⟨key, instances⟩, hinstances, ⟨id, l⟩, ⟨hl, hp⟩, rfl, rfl⟩

theorem nodup_namesOf (r : LeaseRegistry) (p : Lease → Bool) : (r.namesOf p).Nodup := by
  refine List.nodup_flatMap.2 ⟨fun s _ => ?_, ?_⟩
  · have hids : ((s.2.entries.filter fun kv => p kv.2).map Prod.fst).Nodup :=
      s.2.nodup.sublist (List.filter_sublist.map _)
    rw [show (fun kv : String × Lease => (s.1, kv.1)) = Prod.mk s.1 ∘ Prod.fst from rfl, ← List.map_map]
    exact hids.map (Prod.mk_right_injective s.1)
  · refine (List.pairwise_map.1 r.services.nodup).imp fun {s s'} hne name hname hname' => hne ?_
    obtain ⟨_, -, rfl⟩ := List.mem_map.1 hname
    obtain ⟨_, -, heq⟩ := List.mem_map.1 hname'
    exact (congrArg Prod.fst heq).symm

theorem length_namesOf (r : LeaseRegistry) (p : Lease → Bool) :
    (r.namesOf p).length =
      (r.services.values.flatMap fun instances => instances.values.filter p).length := by
  simp only [namesOf, Table.values, List.length_flatMap, List.map_map, List.length_map,
    List.filter_map, Function.comp_def]

/-- The instances whose leases have ended and are still stored, each under its key. -/
def ended (r : LeaseRegistry) (now : Instant) : Set (ServiceKey × String) :=
  {name | ∃ l, r.lease? name.1 name.2 = some l ∧ l.deadline ≤ now}

/-- An eviction counts those whose leases have ended. -/
theorem encard_ended (r : LeaseRegistry) (now : Instant) : (r.ended now).encard = (r.evict now).2 := by
  have hset : r.ended now = ((r.namesOf fun l => !l.isLive now).toFinset : Set (ServiceKey × String)) := by
    ext name
    simp [ended, mem_namesOf, Lease.isLive]
  rw [hset, Set.encard_coe_eq_coe_finsetCard, List.toFinset_card_of_nodup (r.nodup_namesOf _),
    length_namesOf]
  rfl

/-! ## Runs -/

/-- The run makes the steps of another one, and evictions in between. -/
structure Run.Swept (s r : Run) (pos : Nat → Nat) : Prop where
  mono : StrictMono pos
  time : ∀ k, r.time (pos k) = s.time k
  write : ∀ k, r.write (pos k) = s.write k
  evicts : ∀ n, (∀ k, pos k ≠ n) → r.write n = .evict

variable {s r : Run} {pos : Nat → Nat}

theorem Run.livePart_succ (r : Run) (n : Nat) :
    (r.state (n + 1)).livePart (r.time n) =
      ((r.state n).livePart (r.time n)).perform (r.time n) (r.write n) :=
  (livePart_of_reorders (r.steps n) _).symm.trans (livePart_perform _ _ _)

/-- Both runs have the same live part at every time that they have reached. -/
theorem Run.Swept.livePart_eq (h : s.Swept r pos) {k n : Nat} (hkn : Trace.Between pos k n) :
    ∀ t, (∀ m < n, r.time m ≤ t) → (r.state n).livePart t = (s.state k).livePart t := by
  refine Trace.Between.induction h.mono
    (motive := fun k n => ∀ t, (∀ m < n, r.time m ≤ t) → (r.state n).livePart t = (s.state k).livePart t)
    ?_ (fun k hk t ht => ?_) (fun k n hput hn t ht => ?_) hkn
  · intro t _
    rw [r.starts, s.starts]
  · have hbefore := hk (s.time k) fun m hm => h.time k ▸ r.mono (Nat.le_of_lt hm)
    have hnow : s.time k ≤ t := h.time k ▸ ht (pos k) (Nat.lt_succ_self _)
    have hr := r.livePart_succ (pos k)
    rw [h.time, h.write, hbefore, ← s.livePart_succ k] at hr
    exact livePart_of_le hnow hr
  · have hbefore := hn t fun m hm => ht m (Nat.lt_succ_of_lt hm)
    have hstep := r.steps n
    rw [h.evicts n hput] at hstep
    rw [← livePart_of_reorders hstep, ← hbefore]
    exact livePart_evict (r.state n) (ht n (Nat.lt_succ_self n))

theorem Run.Swept.livePart_at (h : s.Swept r pos) (k : Nat) :
    (r.state (pos k)).livePart (s.time k) = (s.state k).livePart (s.time k) :=
  h.livePart_eq (Trace.between_pos h.mono k) _ fun _ hm => h.time k ▸ r.mono (Nat.le_of_lt hm)

/-- **Evictions are unseen.** Put into a run anywhere they change nothing that is read later, and no result
of a write but that of taking back an instance whose lease has ended. An eviction counts the leases that
have ended, and leaves no key without instances. -/
theorem Run.sweeps_unseen (h : s.Swept r pos) :
    (∀ k n t, Trace.Between pos k n → (∀ m < n, r.time m ≤ t) →
      (∀ key, (r.state n).lookup t key = (s.state k).lookup t key) ∧
      (∀ key, (r.state n).list t key = (s.state k).list t key) ∧
      (r.state n).count t = (s.state k).count t) ∧
    (∀ k, (∀ key id, s.write k = .deregister key id →
        ((s.state k).live? (s.time k) key id).isSome = true) → r.result (pos k) = s.result k) ∧
    ∀ n t, ((r.state n).ended t).encard = ((r.state n).evict t).2 ∧
      ((r.state n).evict t).1.Populated := by
  refine ⟨fun k n t hkn ht => ?_, fun k hthere => ?_, fun n t => ?_⟩
  · exact reads_of_livePart (r.sound n) (s.sound k) (h.livePart_eq hkn t ht)
  · have hlive := (livePart_eq_iff.1 (h.livePart_at k)).1
    have hstored {r : LeaseRegistry} {key : ServiceKey} {id : String}
        (hl : (r.live? (s.time k) key id).isSome = true) : (r.lease? key id).isSome = true := by
      obtain ⟨l, hl⟩ := Option.isSome_iff_exists.1 hl
      rw [(live?_eq_some.1 hl).1]
      rfl
    rw [result, result, h.time, h.write, perform_outcome fun key id hw => hstored (hthere key id hw),
      perform_outcome fun key id hw => hstored (hlive key id ▸ hthere key id hw)]
  · exact ⟨encard_ended _ t, populated_evict _ t⟩

namespace Sample

/-- Two instances are registered. One is renewed when its lease has ended, the other is taken back. -/
def leftRun : Run :=
  .ofSteps [(0, .register (entry "a" 10)), (0, .register (entry "b" 1)), (3, .renew (entry "b" 5)),
    (0, .deregister ⟨"Menu", none⟩ "a")]

/-- The same, and the lease that has ended is evicted before it is renewed. -/
def sweptRun : Run :=
  .ofSteps [(0, .register (entry "a" 10)), (0, .register (entry "b" 1)), (2, .evict),
    (1, .renew (entry "b" 5)), (0, .deregister ⟨"Menu", none⟩ "a")]

/-- The eviction is put in at step 2. -/
def sweptPos (k : Nat) : Nat := if k < 2 then k else k + 1

theorem swept_sweptRun : leftRun.Swept sweptRun sweptPos where
  mono := strictMono_nat_of_lt_succ fun k => by
    unfold sweptPos
    split <;> split <;> omega
  time
    | 0 | 1 | 2 | 3 | _ + 4 => rfl
  write
    | 0 | 1 | 2 | 3 | _ + 4 => rfl
  evicts
    | 0, h => absurd rfl (h 0)
    | 1, h => absurd rfl (h 1)
    | 2, _ => rfl
    | n + 3, h => absurd rfl (h (n + 2))

end Sample

theorem Run.sweeps_unseen_sweptRun :
    Sample.leftRun.Swept Sample.sweptRun Sample.sweptPos ∧ Trace.Between Sample.sweptPos 3 4 ∧
      (Sample.sweptRun.state 4).lookup 3 ⟨"Menu", none⟩ =
        some { Sample.entry "b" 5 with expiresAt := some 8 } ∧
      (Sample.sweptRun.state 4).count 3 = 2 ∧
      Sample.sweptRun.result 4 = .ok () ∧
      ((Sample.sweptRun.state 2).ended 2).encard = 1 := by
  have hbetween : Trace.Between Sample.sweptPos 3 4 := ⟨by decide, by decide⟩
  obtain ⟨hreads, hresult, hended⟩ := sweeps_unseen Sample.swept_sweptRun
  obtain ⟨hlookup, -, hcount⟩ := hreads 3 4 3 hbetween (by decide)
  have hthere : ∀ key id, Sample.leftRun.write 3 = .deregister key id →
      ((Sample.leftRun.state 3).live? (Sample.leftRun.time 3) key id).isSome = true := by
    intro key id hw
    cases hw
    decide
  have hone : ((Sample.sweptRun.state 2).evict 2).2 = 1 := by decide
  refine ⟨Sample.swept_sweptRun, hbetween, (hlookup _).trans (by decide), hcount.trans (by decide),
    (hresult 3 hthere).trans rfl, (hended 2 2).1.trans ?_⟩
  rw [hone]
  rfl

end LeaseRegistry

end ServiceBinding
