import Mathlib.Algebra.BigOperators.Finprod
import ServiceBinding.Proofs.Registry.Sound

/-!
# What is read of a registry

The live leases of a key have a place each, and are listed from the last place to the first
(`Sound.listed_pairwise`). So what is listed depends on the leases alone, whatever the order of the
tables (`listed_congr`); a look-up finds what is listed first (`Sound.lookup_eq_head?`), and the count
is that of all lists together (`count_eq`).
-/

namespace ServiceBinding

namespace Lease

theorem latest?_eq_none {ls : List Lease} : latest? ls = none ↔ ls = [] := by
  cases ls with
  | nil => simp [latest?]
  | cons l rest =>
    simp only [latest?, reduceCtorEq, iff_false]
    split
    · split <;> simp
    · simp

/-- The lease registered last is one of them, and none was registered later. -/
theorem latest?_eq_some {ls : List Lease} {m : Lease} (h : latest? ls = some m) :
    m ∈ ls ∧ ∀ l ∈ ls, l.sequence ≤ m.sequence := by
  induction ls generalizing m with
  | nil => cases h
  | cons l rest ih =>
    simp only [latest?] at h
    split at h
    · rename_i k hk
      obtain ⟨hmem, hmax⟩ := ih hk
      split at h
      · rename_i hlt
        obtain rfl := Option.some.inj h
        refine ⟨List.mem_cons_self, fun x hx => ?_⟩
        rcases List.mem_cons.1 hx with rfl | hx
        · exact Nat.le_refl _
        · exact Nat.le_of_lt (Nat.lt_of_le_of_lt (hmax x hx) hlt)
      · rename_i hlt
        obtain rfl := Option.some.inj h
        refine ⟨List.mem_cons_of_mem _ hmem, fun x hx => ?_⟩
        rcases List.mem_cons.1 hx with rfl | hx
        · exact Nat.le_of_not_lt hlt
        · exact hmax x hx
    · rename_i hnone
      obtain rfl := Option.some.inj h
      rw [latest?_eq_none.1 hnone]
      simp

end Lease

namespace LeaseRegistry

variable {r r' : LeaseRegistry} {now t : Instant} {key : ServiceKey}

/-! ## Lists -/

/-- The live leases of a key, the one registered last first. -/
def listed (r : LeaseRegistry) (now : Instant) (key : ServiceKey) : List Lease :=
  (r.liveLeases now key).mergeSort fun a b => b.sequence ≤ a.sequence

theorem list_eq (r : LeaseRegistry) (now : Instant) (key : ServiceKey) :
    r.list now key = (r.listed now key).map Lease.snapshot := rfl

theorem mem_listed {l : Lease} : l ∈ r.listed now key ↔ ∃ id, r.live? now key id = some l := by
  rw [listed, List.mem_mergeSort, mem_liveLeases]

theorem Sound.leasesOf_pairwise (hs : Sound r) (key : ServiceKey) :
    (r.leasesOf key).Pairwise fun a b => a.sequence ≠ b.sequence := by
  unfold leasesOf
  cases h : r.services.get? key with
  | none => exact .nil
  | some instances =>
    have hlease {i : String} {l : Lease} (hm : (i, l) ∈ instances.entries) :
        r.lease? key i = some l := by
      simpa [lease?, h] using Table.mem_entries.1 hm
    refine List.pairwise_map.2 ((List.pairwise_map.1 instances.nodup).imp_of_mem ?_)
    rintro ⟨i, l⟩ ⟨j, m⟩ hl hm hne heq
    exact hne (hs.sequence_inj key i j l m (hlease hl) (hlease hm) heq)

/-- Of two leases that are listed, the first was registered later. -/
theorem Sound.listed_pairwise (hs : Sound r) (now : Instant) (key : ServiceKey) :
    (r.listed now key).Pairwise fun a b => b.sequence < a.sequence := by
  have hsorted : (r.listed now key).Pairwise fun a b => b.sequence ≤ a.sequence := by
    have htrans (a b c : Lease) (hab : decide (b.sequence ≤ a.sequence))
        (hbc : decide (c.sequence ≤ b.sequence)) : decide (c.sequence ≤ a.sequence) := by
      rw [decide_eq_true_iff] at hab hbc ⊢
      omega
    have htotal (a b : Lease) : decide (b.sequence ≤ a.sequence) || decide (a.sequence ≤ b.sequence) := by
      rw [Bool.or_eq_true, decide_eq_true_iff, decide_eq_true_iff]
      omega
    have h := List.pairwise_mergeSort htrans htotal (r.liveLeases now key)
    exact h.imp fun hab => of_decide_eq_true hab
  have hne : (r.listed now key).Pairwise fun a b => a.sequence ≠ b.sequence := by
    have hlive := (hs.leasesOf_pairwise key).filter (·.isLive now)
    exact (List.mergeSort_perm _ _).symm.pairwise hlive fun hab => hab.symm
  exact (hsorted.and hne).imp fun ⟨hle, hab⟩ => Nat.lt_of_le_of_ne hle hab.symm

theorem eq_of_sorted {ls ls' : List Lease}
    (h : ls.Pairwise fun a b => b.sequence < a.sequence)
    (h' : ls'.Pairwise fun a b => b.sequence < a.sequence) (hmem : ∀ l, l ∈ ls ↔ l ∈ ls') :
    ls = ls' := by
  have hnodup {ls : List Lease} (hls : ls.Pairwise fun a b => b.sequence < a.sequence) :
      ls.Nodup := hls.imp fun hab => by
    rintro rfl
    exact Nat.lt_irrefl _ hab
  have hperm := (List.perm_ext_iff_of_nodup (hnodup h) (hnodup h')).2 hmem
  exact hperm.eq_of_pairwise (fun a b _ _ hab hba => absurd hab (by omega)) h h'

/-- What is listed depends on the live leases alone. -/
theorem listed_congr (hs : Sound r) (hs' : Sound r')
    (h : ∀ id, r.live? now key id = r'.live? t key id) : r.listed now key = r'.listed t key :=
  eq_of_sorted (hs.listed_pairwise now key) (hs'.listed_pairwise t key) fun l => by
    simp only [mem_listed, h]

/-- As time passes, leases leave the list and the others keep their order. -/
theorem Sound.listed_of_le (hs : Sound r) (h : now ≤ t) (key : ServiceKey) :
    r.listed t key = (r.listed now key).filter (·.isLive t) := by
  refine eq_of_sorted (hs.listed_pairwise t key) ((hs.listed_pairwise now key).filter _) fun l => ?_
  simp only [List.mem_filter, mem_listed, live?_of_le h, Option.filter_eq_some_iff]
  constructor
  · rintro ⟨id, hl, ht⟩
    exact ⟨⟨id, hl⟩, ht⟩
  · rintro ⟨⟨id, hl⟩, ht⟩
    exact ⟨id, hl, ht⟩

/-- Of an instance that entry is listed which it has a live lease for, and no other one. -/
theorem Sound.filter_list (hs : Sound r) (now : Instant) (key : ServiceKey) (id : String) :
    (r.list now key).filter (·.instanceId = id) = ((r.live? now key id).map Lease.snapshot).toList := by
  have hlisted : (r.listed now key).filter (fun l => l.snapshot.instanceId = id) =
      (r.live? now key id).toList := by
    have hsingle : (r.live? now key id).toList.Pairwise fun a b => b.sequence < a.sequence := by
      cases r.live? now key id with
      | none => exact .nil
      | some l => exact List.pairwise_singleton _ _
    refine eq_of_sorted ((hs.listed_pairwise now key).filter _) hsingle fun l => ?_
    rw [List.mem_filter, mem_listed, decide_eq_true_iff, Option.mem_toList]
    constructor
    · rintro ⟨⟨i, hl⟩, hid⟩
      obtain rfl : i = id := (hs.isOf key i l (live?_eq_some.1 hl).1).2.symm.trans hid
      exact hl
    · intro hl
      exact ⟨⟨id, hl⟩, (hs.isOf key id l (live?_eq_some.1 hl).1).2⟩
  rw [list_eq, List.filter_map]
  refine (congrArg (List.map Lease.snapshot) hlisted).trans ?_
  cases r.live? now key id with
  | none => rfl
  | some l => rfl

/-- Of two live instances the one in the later place is listed first. -/
theorem Sound.filter_list_pair (hs : Sound r) {i j : String} {l m : Lease} (hij : i ≠ j)
    (hl : r.live? t key i = some l) (hm : r.live? t key j = some m) :
    ((r.list t key).map Entry.instanceId).filter (fun id => id = i ∨ id = j) =
      if m.sequence < l.sequence then [i, j] else [j, i] := by
  have hid {k : String} {x : Lease} (hx : r.live? t key k = some x) : x.snapshot.instanceId = k :=
    (hs.isOf key k x (live?_eq_some.1 hx).1).2
  have hne : l.sequence ≠ m.sequence := fun heq =>
    hij (hs.sequence_inj key i j l m (live?_eq_some.1 hl).1 (live?_eq_some.1 hm).1 heq)
  let ofPair (x : Lease) : Bool := x.snapshot.instanceId = i ∨ x.snapshot.instanceId = j
  -- exactly the leases of the two instances pass
  have hmem (x : Lease) : x ∈ (r.listed t key).filter ofPair ↔ x = l ∨ x = m := by
    rw [List.mem_filter, mem_listed, decide_eq_true_iff]
    constructor
    · rintro ⟨⟨k, hx⟩, hk⟩
      rw [hid hx] at hk
      rcases hk with rfl | rfl
      · exact .inl (Option.some.inj (hx.symm.trans hl))
      · exact .inr (Option.some.inj (hx.symm.trans hm))
    · rintro (rfl | rfl)
      · exact ⟨⟨i, hl⟩, .inl (hid hl)⟩
      · exact ⟨⟨j, hm⟩, .inr (hid hm)⟩
  have hsorted := (hs.listed_pairwise t key).filter ofPair
  rw [list_eq, List.map_map, List.filter_map]
  split
  · rename_i hlt
    have hpair : [l, m].Pairwise fun a b => b.sequence < a.sequence := by simpa using hlt
    have heq : (r.listed t key).filter ofPair = [l, m] :=
      eq_of_sorted hsorted hpair fun x => (hmem x).trans (by simp)
    refine (congrArg (List.map _) heq).trans ?_
    simp [hid hl, hid hm]
  · rename_i hlt
    have hpair : [m, l].Pairwise fun a b => b.sequence < a.sequence := by
      have : l.sequence < m.sequence := by omega
      simpa using this
    have heq : (r.listed t key).filter ofPair = [m, l] :=
      eq_of_sorted hsorted hpair fun x => (hmem x).trans (by simp [or_comm])
    refine (congrArg (List.map _) heq).trans ?_
    simp [hid hl, hid hm]

/-! ## Look-ups -/

/-- A look-up finds what is listed first. -/
theorem Sound.lookup_eq_head? (hs : Sound r) (now : Instant) (key : ServiceKey) :
    r.lookup now key = (r.list now key).head? := by
  rw [lookup, list_eq, List.head?_map]
  congr 1
  have hmem (l : Lease) : l ∈ r.listed now key ↔ l ∈ r.liveLeases now key := List.mem_mergeSort
  cases hlatest : Lease.latest? (r.liveLeases now key) with
  | none =>
    have hnil := Lease.latest?_eq_none.1 hlatest
    have hempty : r.listed now key = [] := by
      rw [List.eq_nil_iff_forall_not_mem]
      intro l hl
      simp [hmem, hnil] at hl
    rw [hempty]
    rfl
  | some m =>
    obtain ⟨hm, hmax⟩ := Lease.latest?_eq_some hlatest
    have hpairwise := hs.listed_pairwise now key
    rw [← hmem] at hm
    cases hlisted : r.listed now key with
    | nil => simp [hlisted] at hm
    | cons first rest =>
      rw [hlisted] at hm hpairwise
      rcases List.mem_cons.1 hm with rfl | hm
      · rfl
      · -- the first one would have been registered after the last one
        have hlt := List.rel_of_pairwise_cons hpairwise hm
        have hle := hmax first ((hmem first).1 (hlisted ▸ List.mem_cons_self))
        omega

theorem lookup_congr (hs : Sound r) (hs' : Sound r')
    (h : ∀ id, r.live? now key id = r'.live? t key id) : r.lookup now key = r'.lookup t key := by
  rw [hs.lookup_eq_head?, hs'.lookup_eq_head?, list_eq, list_eq, listed_congr hs hs' h]

/-- What a look-up finds shows the end of its lease. -/
theorem expiresAt_of_lookup {e : Entry} (h : r.lookup now key = some e) : ∃ d, e.expiresAt = some d := by
  obtain ⟨l, -, rfl⟩ := Option.map_eq_some_iff.1 h
  exact ⟨l.deadline, rfl⟩

/-- What a look-up finds stays what it finds until its lease ends. -/
theorem Sound.lookup_of_le (hs : Sound r) (h : now ≤ t) {e : Entry} (he : r.lookup now key = some e)
    {d : Instant} (hd : e.expiresAt = some d) (ht : t < d) : r.lookup t key = some e := by
  rw [hs.lookup_eq_head?, list_eq] at he ⊢
  rw [hs.listed_of_le h]
  cases hlisted : r.listed now key with
  | nil => simp [hlisted] at he
  | cons first rest =>
    rw [hlisted] at he
    obtain rfl := Option.some.inj he
    obtain rfl := Option.some.inj hd
    have hlive : first.isLive t = true := decide_eq_true ht
    simp [hlive]

/-! ## Counts -/

/-- Under a key that is not kept there is no lease. -/
theorem leasesOf_eq_nil (h : key ∉ r.services.keys) : r.leasesOf key = [] := by
  rw [Table.mem_keys, Bool.not_eq_true, Option.isSome_eq_false_iff, Option.isNone_iff_eq_none] at h
  simp [leasesOf, h]

private theorem support_subset (r : LeaseRegistry) (p : Lease → Bool) :
    (Function.support fun key => ((r.leasesOf key).filter p).length) ⊆
      r.services.keys.toFinset := by
  intro key hkey
  by_contra hout
  rw [List.coe_toFinset, Set.mem_ofPred_eq] at hout
  simp [leasesOf_eq_nil hout] at hkey

/-- The leases of some kind are counted by going through all tables. -/
theorem length_filter (r : LeaseRegistry) (p : Lease → Bool) :
    (r.services.values.flatMap fun instances => instances.values.filter p).length =
      ∑ᶠ key, ((r.leasesOf key).filter p).length := by
  have hlength : ∀ kv ∈ r.services.entries,
      (kv.2.values.filter p).length = ((r.leasesOf kv.1).filter p).length := by
    rintro ⟨key, instances⟩ hm
    simp [leasesOf, Table.mem_entries.1 hm]
  have hnodup : r.services.keys.Nodup := r.services.nodup
  rw [finsum_eq_sum_of_support_subset _ (r.support_subset p), List.sum_toFinset _ hnodup]
  simp only [Table.values, List.length_flatMap, List.map_map, Table.keys]
  exact congrArg List.sum (List.map_congr_left hlength)

theorem length_list (r : LeaseRegistry) (now : Instant) (key : ServiceKey) :
    (r.list now key).length = ((r.leasesOf key).filter (·.isLive now)).length := by
  simp [list, liveLeases]

/-- Only finitely many keys have entries that are listed. -/
theorem finite_listed (r : LeaseRegistry) (now : Instant) :
    (Function.support fun key => (r.list now key).length).Finite := by
  simp only [length_list]
  exact (Finset.finite_toSet _).subset (r.support_subset (·.isLive now))

/-- The count is that of all lists together. -/
theorem count_eq (r : LeaseRegistry) (now : Instant) :
    r.count now = ∑ᶠ key, (r.list now key).length := by
  simp only [length_list]
  exact r.length_filter (·.isLive now)

end LeaseRegistry

end ServiceBinding
