import ServiceBinding.Proofs.Exporters.Remembered
import ServiceBinding.Proofs.Registry.Listed

/-!
# Services that are taken back

A service that an application takes back is forgotten at once, and no later round of renewals knows it. A
round that has already begun does: it may come to the service when that is gone, and renewing what is not
there registers it. So a service may be listed again after it was taken back (`listed_after_withdrawal`),
but only if a call that had begun before was then still to write about it (`Run.Withdraws.exists_stale`).
-/

namespace ServiceBinding

namespace LeaseRegistry

variable {r : LeaseRegistry} {now t : Instant} {key : ServiceKey} {id : String} {w : Write}

theorem live?_deregister (h : (r.perform now (.deregister key id)).2 = .ok ()) (t : Instant) :
    (r.perform now (.deregister key id)).1.live? t key id = none := by
  have hc := r.perform_change now (.deregister key id)
  generalize r.perform now (.deregister key id) = next at h hc ⊢
  cases hc with
  | failed => cases h
  | published hw =>
    rcases hw with hw | ⟨hw, -⟩
    · cases hw
    · cases hw
  | removed _ hlease => simp [live?, hlease]

/-- Only an entry of the instance that is registered or renewed has it listed. -/
theorem live?_perform_of_none (hle : now ≤ t) (h : r.live? t key id = none)
    (hw : ∀ e, e.IsOf key id → w ≠ .register e ∧ w ≠ .renew e) :
    (r.perform now w).1.live? t key id = none := by
  have hc := r.perform_change now w
  generalize r.perform now w = next at hc ⊢
  cases hc with
  | failed => exact h
  | @published _ e _ _ hpublished _ _ hlease =>
    have hother : ¬e.IsOf key id := by
      intro hof
      rcases hpublished with rfl | ⟨rfl, -⟩
      · exact (hw e hof).1 rfl
      · exact (hw e hof).2 rfl
    simpa [live?, hlease, hother] using h
  | @renewed e _ _ _ _ _ _ hlease =>
    have hother : ¬e.IsOf key id := fun hof => (hw e hof).2 rfl
    simpa [live?, hlease, hother] using h
  | @removed k i _ _ hlease =>
    by_cases hk : key = k ∧ id = i
    · simp [live?, hlease, hk]
    · simpa [live?, hlease, hk] using h
  | cleared => rfl
  | evicted => exact (live?_evict hle key id).trans h

end LeaseRegistry

open LeaseRegistry (Write)

namespace Exporters

variable {ι : Type} {s s' : Exporters ι} {settings : ι → ExporterSettings} {i : ι}
  {key : ServiceKey} {op : Operation ι} {w : Write} {stale : Ticket → List Write}

/-! ## A service that is forgotten -/

/-- A service is forgotten, and what is still to be written about it are its removal and writes that are
known as stale. -/
structure Forgets (s : Exporters ι) (settings : ι → ExporterSettings) (i : ι) (key : ServiceKey)
    (stale : Ticket → List Write) : Prop where
  forgotten : (s.exporter i).exported.get? key = none
  pending : ∀ k, ∀ w ∈ s.pending k, w.Spares key (settings i).instanceId ∨
    w = .deregister key (settings i).instanceId ∨ w ∈ stale k

theorem Forgets.reorders (h : Forgets s settings i key stale) (hr : Reorders s s') :
    Forgets s' settings i key stale where
  forgotten := (hr.get? i key).symm.trans h.forgotten
  pending := hr.pending ▸ h.pending

theorem Forgets.perform [DecidableEq ι] (h : Forgets s settings i key stale) (hs : Sound s settings)
    (hop : op.Respects settings i key) (now : Instant) :
    Forgets (s.perform now op) settings i key stale where
  forgotten := (get?_perform_of_respects hop s now).trans h.forgotten
  pending k w hw := by
    rcases mem_pending_perform hw with hbefore | ⟨j, c, rfl, hwrites⟩
    · exact h.pending k w hbefore
    · rcases hs.spares_of_mem_writes hop hwrites with hspares | ⟨e, he, -⟩
      · exact .inl hspares
      · cases he.symm.trans h.forgotten

/-- Taking a service back leaves stale what was still to be written. -/
theorem forgets_withdraw [DecidableEq ι] {k : Ticket} (hs : Sound s settings) (hfree : s.pending k = [])
    (i : ι) (key : ServiceKey) (now : Instant) :
    Forgets (s.perform now (.call k i (.withdraw key))) settings i key s.pending where
  forgotten := by
    simp [Exporters.perform, beginCall, hfree, Exporter.after, Exporter.forget, Table.get?_erase]
  pending j w hw := by
    rcases mem_pending_perform hw with hbefore | ⟨i', c, hcall, hwrites⟩
    · exact .inr (.inr hbefore)
    · obtain ⟨rfl, rfl, rfl⟩ := Operation.call.inj hcall
      rcases Exporter.mem_writes hwrites with ⟨p, k', hc, -⟩ | ⟨k', hc, rfl⟩ | ⟨k', e, hc, -⟩
      · cases hc
      · obtain rfl := Exporter.Call.withdraw.inj hc
        rw [hs.configured]
        exact .inr (.inl rfl)
      · cases hc

/-! ## Runs -/

namespace Run

variable [DecidableEq ι] {r : Run ι} {a b n m : Nat} {t : Instant}

/-- In step `a` an application begins to take back a service, in step `b` its instance is removed. From `a`
to `n` nobody interferes. -/
structure Withdraws (r : Run ι) (i : ι) (key : ServiceKey) (a b n : Nat) : Prop where
  begins : ∃ k, r.operation a = .call k i (.withdraw key) ∧ (r.state a).pending k = []
  exported : (((r.state a).exporter i).exported.get? key).isSome = true
  removed : r.written? b = some (.deregister key (r.settings i).instanceId)
  ok : ((r.state b).registry.perform (r.time b) (.deregister key (r.settings i).instanceId)).2 = .ok ()
  ordered : a < b ∧ b ≤ n
  undisturbed : ∀ m, a < m → m ≤ n → (r.operation m).Respects r.settings i key

/-- In step `m` a call that had begun before step `a` writes about the instance. -/
def WritesStale (r : Run ι) (i : ι) (key : ServiceKey) (a m : Nat) : Prop :=
  ∃ k w, r.operation m = .proceed k ∧ r.written? m = some w ∧ w ∈ (r.state a).pending k ∧
    ∃ e : Entry, e.IsOf key (r.settings i).instanceId ∧ (w = .register e ∨ w = .renew e)

namespace Withdraws

theorem forgets (h : r.Withdraws i key a b n) (ham : a < m) (hm : m ≤ n + 1) :
    Forgets (r.state m) r.settings i key (r.state a).pending := by
  obtain ⟨k, hcall, hfree⟩ := h.begins
  induction m, ham using Nat.le_induction with
  | base =>
    have hbegun := forgets_withdraw (r.sound a) hfree i key (r.time a)
    rw [← hcall] at hbegun
    exact hbegun.reorders (r.steps a)
  | succ m ham ih =>
    have hop := h.undisturbed m ham (Nat.le_of_succ_le_succ hm)
    exact ((ih (Nat.le_of_succ_le hm)).perform (r.sound m) hop (r.time m)).reorders (r.steps m)

/-- Unless a stale write is made, nothing has the instance listed. -/
theorem spares_of_not_stale (h : r.Withdraws i key a b n) (ham : a < m) (hm : m ≤ n)
    (hw : r.written? m = some w) (hstale : ¬r.WritesStale i key a m) (e : Entry)
    (hof : e.IsOf key (r.settings i).instanceId) : w ≠ .register e ∧ w ≠ .renew e := by
  have hforgets := h.forgets ham (Nat.le_succ_of_le hm)
  have hop := h.undisturbed m ham hm
  have hwrites : ¬(w = .register e ∨ w = .renew e) := by
    intro hpublishes
    have hnot := Write.not_spares hof hpublishes
    cases hop' : r.operation m with
    | call | drop => simp [Run.written?, hop', Exporters.written?] at hw
    | write w' =>
      simp only [Run.written?, hop', Exporters.written?, Option.some.injEq] at hw
      rw [hop', hw] at hop
      exact hnot hop
    | proceed k =>
      have hhead : ((r.state m).pending k).head? = some w := by
        simpa [Run.written?, hop', Exporters.written?] using hw
      rcases hforgets.pending k w (List.mem_of_mem_head? hhead) with hspares | hremoves | hmem
      · exact hnot hspares
      · rcases hpublishes with rfl | rfl
        · cases hremoves
        · cases hremoves
      · exact hstale ⟨k, w, hop', hw, hmem, e, hof, hpublishes⟩
  exact not_or.1 hwrites

/-- Until a stale write is made, the instance is gone. -/
theorem live?_eq_none (h : r.Withdraws i key a b n) (hbm : b ≤ m) (hm : m ≤ n)
    (hstale : ∀ l, b < l → l ≤ m → ¬r.WritesStale i key a l) (ht : r.time m ≤ t) :
    (r.state (m + 1)).registry.live? t key (r.settings i).instanceId = none := by
  induction m, hbm using Nat.le_induction with
  | base =>
    rw [← (registry_of_written h.removed).live?]
    exact LeaseRegistry.live?_deregister h.ok t
  | succ m hbm ih =>
    have hbm' : b < m + 1 := Nat.lt_succ_of_le hbm
    have hgone := ih (Nat.le_of_succ_le hm) (fun l hbl hl => hstale l hbl (Nat.le_succ_of_le hl))
      (Nat.le_trans (r.mono (Nat.le_succ m)) ht)
    cases hw : r.written? (m + 1) with
    | none => rw [← (registry_of_not_written hw).live?, hgone]
    | some w =>
      rw [← (registry_of_written hw).live?]
      exact LeaseRegistry.live?_perform_of_none ht hgone
        (h.spares_of_not_stale (Nat.lt_trans h.ordered.1 hbm') hm hw (hstale _ hbm' (Nat.le_refl _)))

/-- An instance that is listed after it was taken back was written by a call that had begun before. -/
theorem exists_stale (h : r.Withdraws i key a b n) (ht : r.time n ≤ t) {e : Entry}
    (he : e ∈ (r.state (n + 1)).registry.list t key) (hid : e.instanceId = (r.settings i).instanceId) :
    ∃ m, b < m ∧ m ≤ n ∧ r.WritesStale i key a m := by
  by_contra hnone
  have hgone := h.live?_eq_none (t := t) h.ordered.2 (Nat.le_refl n)
    (fun l hbl hl hstale => hnone ⟨l, hbl, hl, hstale⟩) ht
  have hfilter := (r.sound (n + 1)).registry.filter_list t key (r.settings i).instanceId
  rw [hgone] at hfilter
  have hmem : e ∈ ((r.state (n + 1)).registry.list t key).filter
      (·.instanceId = (r.settings i).instanceId) := List.mem_filter.2 ⟨he, decide_eq_true hid⟩
  rw [hfilter] at hmem
  cases hmem

end Withdraws

end Run

namespace Sample

/-- An application takes its service back while it renews all that it has published. -/
def overtaken : Run Unit :=
  .ofSteps (fun _ => { instanceId := "a", lease := 10 })
    [(0, .call 0 () (.publish service)), (0, .proceed 0), (5, .call 1 () .renewAll),
      (0, .call 2 () (.withdraw menu)), (0, .proceed 2), (1, .proceed 1)]

end Sample

/-- A service is listed again after it was taken back, and stays so for a whole lease. -/
theorem listed_after_withdrawal :
    Sample.overtaken.Withdraws () Sample.menu 3 4 5 ∧
      (Sample.overtaken.state 5).pending 2 = [] ∧
      ∃ e ∈ (Sample.overtaken.state 6).registry.list 15 Sample.menu, e.instanceId = "a" := by
  refine ⟨⟨⟨2, rfl, rfl⟩, rfl, rfl, rfl, by decide, ?_⟩, rfl, ?_⟩
  · have hall : ∀ m < 6, 3 < m →
        (Sample.overtaken.operation m).Respects Sample.overtaken.settings () Sample.menu := by decide
    exact fun m hm hle => hall m (Nat.lt_succ_of_le hle) hm
  · have hlive : (Sample.overtaken.state 6).registry.live? 15 Sample.menu "a" =
        some ⟨Sample.overtaken.entryOf () Sample.service, 16, 1⟩ := rfl
    exact ⟨_, List.mem_map.2 ⟨_, LeaseRegistry.mem_listed.2 ⟨_, hlive⟩, rfl⟩, rfl⟩

end Exporters

end ServiceBinding
