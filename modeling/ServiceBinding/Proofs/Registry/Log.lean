import ServiceBinding.Proofs.Registry.Listed

/-!
# The log of a registry

What a registry answers is told by the writes that were carried out: of each instance the last one counts
(`Log.last?`), and its lease must still run. An instance keeps the place it got when it was last published
anew (`Log.place`). The registry and its log agree on the live leases and on their order (`Tells`); every
write keeps that (`Tells.perform`), and with the invariant of `Sound` it decides every reading
(`answers_of_log`).
-/

namespace ServiceBinding

namespace LeaseRegistry

/-! ## Logs -/

/-- The writes that were carried out, the last one first, each with its instant. -/
abbrev Log := List (Instant × Write)

namespace Log

variable {key : ServiceKey} {id : String} {log : Log}

/-- The entry published last for an instance, and when, unless it was removed since. -/
def last? (key : ServiceKey) (id : String) : Log → Option (Instant × Entry)
  | [] => none
  | (s, .register e) :: log => if e.IsOf key id then some (s, e) else last? key id log
  | (s, .renew e) :: log => if e.IsOf key id then some (s, e) else last? key id log
  | (_, .deregister k i) :: log => if k = key ∧ i = id then none else last? key id log
  | (_, .clear) :: _ => none
  | (_, .evict) :: log => last? key id log

/-- The same, while the lease of that entry runs. -/
def live? (log : Log) (t : Instant) (key : ServiceKey) (id : String) : Option (Instant × Entry) :=
  (log.last? key id).filter fun x => decide (t < x.1 + x.2.lease)

/-- The entry as it is read, with the end of its lease. -/
def shown? (log : Log) (t : Instant) (key : ServiceKey) (id : String) : Option Entry :=
  (log.live? t key id).map fun x => { x.2 with expiresAt := some (x.1 + x.2.lease) }

/-- Whether a write, on top of the log, publishes the instance anew: a renewal does so only of an entry
that is not live. -/
def Fresh (log : Log) (s : Instant) (key : ServiceKey) (id : String) : Write → Prop
  | .register e => e.IsOf key id
  | .renew e => e.IsOf key id ∧ log.live? s key id = none
  | .deregister _ _ | .clear | .evict => False

instance (log : Log) (s : Instant) (key : ServiceKey) (id : String) (w : Write) :
    Decidable (Fresh log s key id w) := by
  cases w <;> unfold Fresh <;> infer_instance

/-- When the instance was last published anew, counted from the first write of the log. -/
def place (key : ServiceKey) (id : String) : Log → Nat
  | [] => 0
  | (s, w) :: log => if Fresh log s key id w then log.length + 1 else place key id log

theorem place_le (key : ServiceKey) (id : String) (log : Log) : log.place key id ≤ log.length := by
  induction log with
  | nil => exact Nat.le_refl _
  | cons x log ih =>
    simp only [place, List.length_cons]
    split
    · exact Nat.le_refl _
    · omega

theorem live?_of_le {now t : Instant} (h : now ≤ t) :
    log.live? t key id = (log.live? now key id).filter fun x => decide (t < x.1 + x.2.lease) := by
  refine Option.ext fun x => ?_
  simp only [live?, Option.filter_eq_some_iff, decide_eq_true_iff]
  constructor
  · rintro ⟨hx, ht⟩
    exact ⟨⟨hx, Nat.lt_of_le_of_lt h ht⟩, ht⟩
  · rintro ⟨⟨hx, -⟩, ht⟩
    exact ⟨hx, ht⟩

/-- The log after a write, which is noted only if it was carried out. -/
def note (log : Log) (now : Instant) (w : Write) : Except RegistryError Unit → Log
  | .ok _ => (now, w) :: log
  | .error _ => log

variable {now : Instant} {w : Write} {e : Entry}

theorem last?_publish (hw : w = .register e ∨ w = .renew e) (key : ServiceKey) (id : String) :
    last? key id ((now, w) :: log) = if e.IsOf key id then some (now, e) else last? key id log := by
  rcases hw with rfl | rfl <;> rfl

/-- A write of an entry leaves every other instance in its place. -/
theorem place_of_not_isOf (hw : w = .register e ∨ w = .renew e) (h : ¬e.IsOf key id) :
    place key id ((now, w) :: log) = place key id log := by
  rcases hw with rfl | rfl <;> simp [place, Fresh, h]

end Log

/-! ## A registry and its log -/

section

variable {r r' : LeaseRegistry} {log : Log} {now t : Instant} {w : Write}

/-- The registry has the live leases of its log, in the order of their places. -/
structure Tells (r : LeaseRegistry) (log : Log) (now : Instant) : Prop where
  live : ∀ key id, (r.live? now key id).map (fun l => (l.entry, l.deadline)) =
    (log.live? now key id).map fun x => (x.2, x.1 + x.2.lease)
  order : ∀ key i j l m, r.live? now key i = some l → r.live? now key j = some m →
    (l.sequence < m.sequence ↔ log.place key i < log.place key j)

theorem empty_tells : Tells empty [] now := ⟨fun _ _ => rfl, nofun⟩

theorem Tells.later (h : Tells r log now) (hle : now ≤ t) : Tells r log t where
  live key id := by
    have hlive := h.live key id
    rw [live?_of_le hle, Log.live?_of_le hle]
    cases hl : r.live? now key id with
    | none =>
      have hnone : log.live? now key id = none := by simpa [hl] using hlive.symm
      rw [hnone]
      rfl
    | some l =>
      obtain ⟨x, hx, hxl⟩ : ∃ x, log.live? now key id = some x ∧
          (x.2, x.1 + x.2.lease) = (l.entry, l.deadline) := by
        simpa [hl] using hlive.symm
      obtain ⟨hentry, hdeadline⟩ := Prod.mk.inj hxl
      rw [hentry] at hdeadline
      by_cases ht : t < l.deadline
      · simp [hx, Option.filter_some, Lease.isLive, hentry, hdeadline, ht]
      · simp [hx, Option.filter_some, Lease.isLive, hentry, hdeadline, ht]
  order key i j l m hl hm := by
    rw [live?_of_le hle, Option.filter_eq_some_iff] at hl hm
    exact h.order key i j l m hl.1 hm.1

theorem Tells.reorders (h : Tells r log now) (hr : Reorders r r') : Tells r' log now where
  live key id := hr.live? now key id ▸ h.live key id
  order key i j l m hl hm :=
    h.order key i j l m ((hr.live? now key i).trans hl) ((hr.live? now key j).trans hm)

/-- An entry is written, to a place that is the same in both; nothing else changes. -/
theorem Tells.publish (h : Tells r log now) {e : Entry} {n p : Nat}
    (hlease : ∀ k i, r'.lease? k i = if e.IsOf k i then some ⟨e, now + e.lease, n⟩ else r.lease? k i)
    (hw : w = .register e ∨ w = .renew e)
    (hp : ∀ k i, e.IsOf k i → Log.place k i ((now, w) :: log) = p)
    (horder : ∀ k i j m, e.IsOf k i → i ≠ j → r.live? now k j = some m →
      (n < m.sequence ↔ p < log.place k j) ∧ (m.sequence < n ↔ log.place k j < p)) :
    Tells r' ((now, w) :: log) now where
  live k i := by
    by_cases hof : e.IsOf k i
    · by_cases hlive : now < now + e.lease
      · simp [LeaseRegistry.live?, Log.live?, hlease, Log.last?_publish hw, hof, Option.filter_some,
          Lease.isLive, hlive]
      · simp [LeaseRegistry.live?, Log.live?, hlease, Log.last?_publish hw, hof, Option.filter_some,
          Lease.isLive, hlive]
    · have hlive := h.live k i
      simp only [LeaseRegistry.live?, Log.live?] at hlive
      simp [LeaseRegistry.live?, Log.live?, hlease, Log.last?_publish hw, hof, hlive]
  order k i j l m hl hm := by
    rw [live?_eq_some, hlease] at hl hm
    -- of the two instances, either, both or none may be the one that is written
    by_cases hi : e.IsOf k i <;> by_cases hj : e.IsOf k j
    · obtain rfl : i = j := hi.2.symm.trans hj.2
      simp [Option.some.inj (hl.1.symm.trans hm.1)]
    · have hne : i ≠ j := fun heq => hj (heq ▸ hi)
      rw [if_pos hi] at hl
      rw [if_neg hj] at hm
      obtain rfl := Option.some.inj hl.1
      rw [hp k i hi, Log.place_of_not_isOf hw hj]
      exact (horder k i j m hi hne (live?_eq_some.2 hm)).1
    · have hne : j ≠ i := fun heq => hi (heq ▸ hj)
      rw [if_neg hi] at hl
      rw [if_pos hj] at hm
      obtain rfl := Option.some.inj hm.1
      rw [hp k j hj, Log.place_of_not_isOf hw hi]
      exact (horder k j i l hj hne (live?_eq_some.2 hl)).2
    · rw [if_neg hi] at hl
      rw [if_neg hj] at hm
      rw [Log.place_of_not_isOf hw hi, Log.place_of_not_isOf hw hj]
      exact h.order k i j l m (live?_eq_some.2 hl) (live?_eq_some.2 hm)

theorem Tells.perform (h : Tells r log now) (hs : Sound r) (w : Write) :
    Tells (r.perform now w).1 (log.note now w (r.perform now w).2) now := by
  have hc := r.perform_change now w
  generalize r.perform now w = next at hc ⊢
  cases hc with
  | failed => exact h
  | @published _ e key r' hw hkey hnext hlease =>
    have hform : w = .register e ∨ w = .renew e := hw.imp_right And.left
    refine h.publish (p := log.length + 1) hlease hform (fun k i hof => ?_) fun k i j m _ _ hm => ?_
    · -- written anew, as the registry has no live lease where the log has none
      have hfresh : Log.Fresh log now k i w := by
        rcases hw with rfl | ⟨rfl, hnone⟩
        · exact hof
        · obtain rfl := Except.ok.inj (hkey.symm.trans hof.1)
          obtain rfl := hof.2
          have hlog := h.live key e.instanceId
          rw [hnone] at hlog
          exact ⟨hof, by simpa using hlog.symm⟩
      rw [Log.place, if_pos hfresh]
    · have hlt := hs.sequence_lt k j m (live?_eq_some.1 hm).1
      have hle := Log.place_le k j log
      constructor <;> omega
  | @renewed e key l r' hkey hl hnext hlease =>
    refine h.publish (p := log.place key e.instanceId) hlease (.inr rfl) (fun k i hof => ?_)
      fun k i j m hof _ hm => ?_
    · -- the entry is live in the log as well, so there too it keeps its place
      obtain rfl := Except.ok.inj (hkey.symm.trans hof.1)
      obtain rfl := hof.2
      have hlog := h.live key e.instanceId
      rw [hl] at hlog
      have hkept : ¬Log.Fresh log now key e.instanceId (.renew e) := fun hfresh => by
        simp [hfresh.2] at hlog
      rw [Log.place, if_neg hkept]
    · obtain rfl := Except.ok.inj (hkey.symm.trans hof.1)
      exact ⟨h.order key _ j l m hl hm, h.order key j _ m l hm hl⟩
  | @removed key id r' hnext hlease =>
    refine ⟨fun k i => ?_, fun k i j l m hl hm => ?_⟩
    · have hlive := h.live k i
      by_cases hi : k = key ∧ i = id
      · obtain ⟨rfl, rfl⟩ := hi
        simp [live?, Log.live?, Log.note, Log.last?, hlease]
      · have hi' : ¬(key = k ∧ id = i) := fun h => hi ⟨h.1.symm, h.2.symm⟩
        simp only [live?, Log.live?] at hlive
        simpa [live?, Log.live?, Log.note, Log.last?, hlease, hi, hi'] using hlive
    · have hkept {i : String} {l : Lease} (hl : r'.live? now k i = some l) :
          r.live? now k i = some l := by
        rw [live?_eq_some, hlease] at hl
        split at hl
        · cases hl.1
        · exact live?_eq_some.2 hl
      exact h.order k i j l m (hkept hl) (hkept hm)
  | cleared =>
    refine ⟨fun _ _ => rfl, fun k i j l m hl => ?_⟩
    cases hl
  | evicted =>
    refine ⟨fun k i => ?_, fun k i j l m hl hm => ?_⟩
    · rw [live?_evict (Nat.le_refl now)]
      exact h.live k i
    · rw [live?_evict (Nat.le_refl now)] at hl hm
      exact h.order k i j l m hl hm

end

/-! ## Runs -/

/-- The writes of the steps before `n` that were carried out. -/
def Run.log (r : Run) : Nat → Log
  | 0 => []
  | n + 1 => (r.log n).note (r.time n) (r.write n) (r.result n)

/-- The registry and its log agree at every time the run has reached. -/
theorem Run.tells (r : Run) {n : Nat} {t : Instant} (ht : ∀ m < n, r.time m ≤ t) :
    Tells (r.state n) (r.log n) t := by
  induction n generalizing t with
  | zero =>
    rw [r.starts]
    exact empty_tells
  | succ n ih =>
    have hbefore : Tells (r.state n) (r.log n) (r.time n) :=
      ih fun m hm => r.mono (Nat.le_of_lt hm)
    have hafter := (hbefore.perform (r.sound n) (r.write n)).reorders (r.steps n)
    exact hafter.later (ht n (Nat.lt_succ_self n))

/-! ## What the log tells -/

theorem Tells.snapshot? {r : LeaseRegistry} {log : Log} {t : Instant} (h : Tells r log t)
    (key : ServiceKey) (id : String) :
    (r.live? t key id).map Lease.snapshot = log.shown? t key id := by
  have hlive := congrArg (Option.map fun x => ({ x.1 with expiresAt := some x.2 } : Entry))
    (h.live key id)
  rwa [Option.map_map, Option.map_map] at hlive

/-- **A registry refines its log.** At every time a run has reached: of each instance of a key that one
entry is listed which was published for it last, if its lease still runs, with the end of that lease, and
nothing else is listed; entries published anew later come first; a look-up finds the first entry, and the
count is that of all keys together. A write that fails changes nothing. -/
theorem Run.answers_of_log (r : Run) (n : Nat) (t : Instant) (ht : ∀ m < n, r.time m ≤ t) :
    (∀ key id, ((r.state n).list t key).filter (·.instanceId = id) =
      ((r.log n).shown? t key id).toList) ∧
    (∀ key, ((r.state n).list t key).Pairwise fun a b =>
      (r.log n).place key b.instanceId < (r.log n).place key a.instanceId) ∧
    (∀ key, (r.state n).lookup t key = ((r.state n).list t key).head?) ∧
    (Function.support fun key => ((r.state n).list t key).length).Finite ∧
    (r.state n).count t = ∑ᶠ key, ((r.state n).list t key).length ∧
    ∀ err, r.result n = .error err → ((r.state n).perform (r.time n) (r.write n)).1 = r.state n := by
  have hs := r.sound n
  have htells := r.tells ht
  refine ⟨fun key id => ?_, fun key => ?_, hs.lookup_eq_head? t, (r.state n).finite_listed t,
    (r.state n).count_eq t, fun err herr => perform_of_error herr⟩
  · rw [hs.filter_list, htells.snapshot?]
  · rw [list_eq, List.pairwise_map]
    refine (hs.listed_pairwise t key).imp_of_mem fun {a b} ha hb hlt => ?_
    have hid {l : Lease} (hl : l ∈ (r.state n).listed t key) :
        (r.state n).live? t key l.snapshot.instanceId = some l := by
      obtain ⟨id, hid⟩ := mem_listed.1 hl
      have hof : l.snapshot.instanceId = id := (hs.isOf key id l (live?_eq_some.1 hid).1).2
      rwa [hof]
    exact (htells.order key _ _ b a (hid hb) (hid ha)).1 hlt

def Sample.entry (id : String) (lease : Span) : Entry :=
  ⟨(Properties.forApi "Menu" "direct").set Properties.instanceName id, lease, none⟩

/-- Two instances are registered. When both are renewed, one is still live and the other is not. Then an
instance is taken back that is not there. -/
def Sample.leasedRun : Run :=
  .ofSteps [(0, .register (entry "a" 10)), (0, .register (entry "b" 1)), (1, .renew (entry "b" 5)),
    (0, .renew (entry "a" 10)), (0, .deregister ⟨"Menu", none⟩ "c")]

theorem Run.answers_of_log_leasedRun :
    (∀ m < 5, Sample.leasedRun.time m ≤ 2) ∧
    ((Sample.leasedRun.state 5).list 2 ⟨"Menu", none⟩).filter (·.instanceId = "a") =
      [{ Sample.entry "a" 10 with expiresAt := some 11 }] ∧
    (Sample.leasedRun.log 5).place ⟨"Menu", none⟩ "a" <
      (Sample.leasedRun.log 5).place ⟨"Menu", none⟩ "b" := by
  have ht : ∀ m < 5, Sample.leasedRun.time m ≤ 2 := by decide
  have h := Sample.leasedRun.answers_of_log 5 2 ht
  refine ⟨ht, (h.1 ⟨"Menu", none⟩ "a").trans ?_, ?_⟩
  · decide
  · decide

end LeaseRegistry

end ServiceBinding
