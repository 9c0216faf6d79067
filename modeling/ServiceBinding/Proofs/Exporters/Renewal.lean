import ServiceBinding.Proofs.Exporters.Remembered
import ServiceBinding.Proofs.Registry.Reordered

/-!
# Renewals keep what is published

An application publishes a service, and renews it before its lease has ended, again and again. Whatever the
others do meanwhile under their own instances, the service stays listed, and stays in the place it was given
when it was published (`Run.Keeps.lives`): a renewal of a live entry moves only the end of its lease, and no
sweep takes an entry that is live. So two applications that both do this never change places, and a look-up
does not go from one to the other (`renewal_keeps`).
-/

namespace ServiceBinding

namespace LeaseRegistry

variable {r r' : LeaseRegistry} {now t d : Instant} {key : ServiceKey} {e : Entry} {place : Nat}
  {w : Write}

/-! ## A live entry -/

/-- An entry is live from now on until `d`, in its place. -/
def Lives (r : LeaseRegistry) (key : ServiceKey) (e : Entry) (place : Nat) (now d : Instant) : Prop :=
  ∀ t, now ≤ t → t < d → r.live? t key e.instanceId = some ⟨e, d, place⟩

theorem Lives.mono (h : r.Lives key e place now d) (hle : now ≤ t) : r.Lives key e place t d :=
  fun u hu => h u (Nat.le_trans hle hu)

theorem Lives.reorders (h : r.Lives key e place now d) (hr : Reorders r r') :
    r'.Lives key e place now d :=
  fun t hle ht => (hr.live? t key _).symm.trans (h t hle ht)

theorem Lives.spared (h : r.Lives key e place now d) (hw : w.Spares key e.instanceId) :
    (r.perform now w).1.Lives key e place now d :=
  fun t hle ht => (live?_perform_of_spares hw hle).trans (h t hle ht)

theorem lives_register (hkey : e.key = .ok key) (r : LeaseRegistry) (now : Instant) :
    (r.perform now (.register e)).1.Lives key e r.nextSequence now (now + e.lease) := by
  intro t _ ht
  cases h : r.register now e with
  | error err => cases hkey.symm.trans (register_eq_error.1 h)
  | ok r' =>
    obtain ⟨-, -, hlease⟩ := register_eq_ok h
    have hof : e.IsOf key e.instanceId := ⟨hkey, rfl⟩
    simp [LeaseRegistry.perform, attempt, h, live?, hlease, hof, Lease.isLive, ht]

/-- Renewing a live entry starts its lease again and leaves it its place. -/
theorem Lives.renew (hl : r.Lives key e place now d) (hlive : now < d) (hkey : e.key = .ok key) :
    (r.perform now (.renew e)).1.Lives key e place now (now + e.lease) := by
  intro t _ ht
  have hnow := hl now (Nat.le_refl now) hlive
  cases h : r.renew now e with
  | error err => cases hkey.symm.trans (renew_eq_error.1 h)
  | ok r' =>
    have hof : e.IsOf key e.instanceId := ⟨hkey, rfl⟩
    rcases renew_eq_ok h with ⟨k, l, hk, hl, -, hlease⟩ | ⟨⟨k, hk, hnone⟩, -⟩
    · obtain rfl := Except.ok.inj (hkey.symm.trans hk)
      obtain rfl := Option.some.inj (hnow.symm.trans hl)
      simp [LeaseRegistry.perform, attempt, h, live?, hlease, hof, Lease.isLive, ht]
    · obtain rfl := Except.ok.inj (hkey.symm.trans hk)
      cases hnow.symm.trans hnone

end LeaseRegistry

open LeaseRegistry (Write)

namespace Exporters

variable {ι : Type} {i : ι} {key : ServiceKey}

/-! ## Runs -/

namespace Run

variable [DecidableEq ι] {r : Run ι} {p : Properties} {a b n m : Nat} {t : Instant}

/-- In the step the entry is registered or renewed. -/
def Publishes (r : Run ι) (i : ι) (p : Properties) (n : Nat) : Prop :=
  r.written? n = some (.register (r.entryOf i p)) ∨ r.written? n = some (.renew (r.entryOf i p))

/-- In step `a` an application begins to publish a service, in step `b` it is registered. From `a` to `n`
nobody interferes, and from `b` on less than the lease passes from one publication to the next. -/
structure Keeps (r : Run ι) (i : ι) (key : ServiceKey) (p : Properties) (a b n : Nat) : Prop where
  keyed : p.key = .ok key
  begins : ∃ k, r.operation a = .call k i (.publish p) ∧ (r.state a).pending k = []
  /-- No call that began before is still to write about the service: it is published by this one and the
  renewals that follow. -/
  quiet : ∀ k, ∀ w ∈ (r.state a).pending k, w.Spares key (r.settings i).instanceId
  registered : r.written? b = some (.register (r.entryOf i p))
  ordered : a < b ∧ b ≤ n
  undisturbed : ∀ m, a < m → m ≤ n → (r.operation m).Respects r.settings i key
  prompt : ∀ m, b < m → m ≤ n → r.Publishes i p m →
    ∃ l, b ≤ l ∧ l < m ∧ r.Publishes i p l ∧ r.time m < r.time l + (r.settings i).lease

/-- A service is published in time if some of its publications are close enough. -/
theorem prompt_of_mem {ls : List Nat} (hpub : ∀ l ∈ ls, r.Publishes i p l)
    (h : ∀ m < n + 1, b < m →
      ∃ l ∈ ls, b ≤ l ∧ l < m ∧ r.time m < r.time l + (r.settings i).lease) :
    ∀ m, b < m → m ≤ n → r.Publishes i p m →
      ∃ l, b ≤ l ∧ l < m ∧ r.Publishes i p l ∧ r.time m < r.time l + (r.settings i).lease := by
  intro m hbm hm _
  obtain ⟨l, hl, hbl, hlm, ht⟩ := h m (Nat.lt_succ_of_le hm) hbm
  exact ⟨l, hbl, hlm, hpub l hl, ht⟩

namespace Keeps

theorem of_le (h : r.Keeps i key p a b n) (hbm : b ≤ m) (hmn : m ≤ n) : r.Keeps i key p a b m where
  keyed := h.keyed
  begins := h.begins
  quiet := h.quiet
  registered := h.registered
  ordered := ⟨h.ordered.1, hbm⟩
  undisturbed l hal hl := h.undisturbed l hal (Nat.le_trans hl hmn)
  prompt l hbl hl := h.prompt l hbl (Nat.le_trans hl hmn)

theorem instanceId (h : r.Keeps i key p a b n) :
    (r.entryOf i p).instanceId = (r.settings i).instanceId :=
  (r.isOf_entryOf i h.keyed).2

/-- The service is being registered, or that is over. -/
theorem registers_or (h : r.Keeps i key p a b n) : ∃ k, ∀ m, a < m → m ≤ n + 1 →
    Registers (r.state m) i key (r.entryOf i p) k ∨
      Remembers (r.state m) i key (r.entryOf i p) fun _ => False := by
  obtain ⟨k, hcall, hfree⟩ := h.begins
  refine ⟨k, fun m ham => Nat.le_induction ?_ ?_ m ham⟩
  · intro _
    have hbegun := registers_publish (r.sound a) h.keyed hfree h.quiet (r.time a)
    rw [r.entryOf_eq, ← hcall] at hbegun
    exact .inl (hbegun.reorders (r.steps a))
  · intro m ham ih hm
    have hop := h.undisturbed m ham (Nat.le_of_succ_le_succ hm)
    rcases ih (Nat.le_of_succ_le hm) with hregisters | hremembers
    · rcases hregisters.perform (r.sound m) hop (r.time m) with ⟨hnext, -⟩ | hnext
      · exact .inl (hnext.reorders (r.steps m))
      · exact .inr (hnext.reorders (r.steps m))
    · exact .inr ((hremembers.perform (r.sound m) hop (r.time m)).reorders (r.steps m))

/-- After the registration only renewals are written. -/
theorem remembers (h : r.Keeps i key p a b n) (hbm : b < m) (hm : m ≤ n + 1) :
    Remembers (r.state m) i key (r.entryOf i p) fun _ => False := by
  obtain ⟨k, hstages⟩ := h.registers_or
  obtain ⟨hab, hbn⟩ := h.ordered
  have hop := h.undisturbed b hab hbn
  induction m, hbm using Nat.le_induction with
  | base =>
    rcases hstages b hab (Nat.le_succ_of_le hbn) with hregisters | hremembers
    · rcases hregisters.perform (r.sound b) hop (r.time b) with ⟨-, hnot⟩ | hnext
      · exact absurd h.registered hnot
      · exact hnext.reorders (r.steps b)
    · exact absurd h.registered (hremembers.not_registered (r.sound b) hop fun _ _ => not_false)
  | succ m hbm ih =>
    have ham : a < m := Nat.lt_trans hab hbm
    have hop := h.undisturbed m ham (Nat.le_of_succ_le_succ hm)
    exact ((ih (Nat.le_of_succ_le hm)).perform (r.sound m) hop (r.time m)).reorders (r.steps m)

/-- The service is live in the place it was registered in, from every publication for a lease. -/
theorem lives (h : r.Keeps i key p a b n) (hbm : b ≤ m) (hm : m ≤ n) :
    ∃ d, (r.state (m + 1)).registry.Lives key (r.entryOf i p) (r.state b).registry.nextSequence
        (r.time m) d ∧
      ∀ l, b ≤ l → l ≤ m → r.Publishes i p l → r.time l + (r.settings i).lease ≤ d := by
  have hkey := (r.isOf_entryOf i h.keyed).1
  obtain ⟨hab, hbn⟩ := h.ordered
  induction m, hbm using Nat.le_induction with
  | base =>
    have hregistered := LeaseRegistry.lives_register hkey (r.state b).registry (r.time b)
    refine ⟨_, hregistered.reorders (registry_of_written h.registered), fun l hbl hlb _ => ?_⟩
    obtain rfl := Nat.le_antisymm hbl hlb
    exact Nat.le_refl _
  | succ m hbm ih =>
    obtain ⟨d, hlives, hlatest⟩ := ih (Nat.le_of_succ_le hm)
    have hnow := hlives.mono (r.mono (Nat.le_succ m))
    have hbm' : b < m + 1 := Nat.lt_succ_of_le hbm
    have hremembers := h.remembers hbm' (Nat.le_succ_of_le hm)
    have hop := h.undisturbed (m + 1) (Nat.lt_trans hab hbm') hm
    -- unless the service is published, the last publications are those of before
    have hunpublished (hnot : ¬r.Publishes i p (m + 1)) :
        ∀ l, b ≤ l → l ≤ m + 1 → r.Publishes i p l → r.time l + (r.settings i).lease ≤ d := by
      intro l hbl hl hpub
      rcases Nat.lt_or_eq_of_le hl with hl | rfl
      · exact hlatest l hbl (Nat.le_of_lt_succ hl) hpub
      · exact absurd hpub hnot
    cases hw : r.written? (m + 1) with
    | none =>
      refine ⟨d, hnow.reorders (registry_of_not_written hw), hunpublished ?_⟩
      simp [Publishes, hw]
    | some w =>
      rcases hremembers.written (r.sound (m + 1)) hop hw fun _ _ => not_false with hspares | rfl
      · refine ⟨d, (hnow.spared hspares).reorders (registry_of_written hw), hunpublished ?_⟩
        intro hpub
        rw [Publishes, hw, Option.some.injEq, Option.some.injEq] at hpub
        exact Write.not_spares ⟨hkey, rfl⟩ hpub hspares
      · obtain ⟨l, hbl, hlm, hpub, hprompt⟩ := h.prompt (m + 1) hbm' hm (.inr hw)
        have hlive : r.time (m + 1) < d :=
          Nat.lt_of_lt_of_le hprompt (hlatest l hbl (Nat.le_of_lt_succ hlm) hpub)
        refine ⟨_, (hnow.renew hlive hkey).reorders (registry_of_written hw), fun l _ hl _ => ?_⟩
        exact Nat.add_le_add_right (r.mono hl) _

/-- Two applications that keep a service published do so under instances of their own. -/
theorem instanceId_ne {j : ι} {q : Properties} {a' b' : Nat} (h : r.Keeps i key p a b n)
    (h' : r.Keeps j key q a' b' n) (hij : i ≠ j) :
    (r.settings i).instanceId ≠ (r.settings j).instanceId := by
  obtain ⟨k, hcall, -⟩ := h.begins
  obtain ⟨k', hcall', -⟩ := h'.begins
  obtain ⟨hab, hbn⟩ := h.ordered
  obtain ⟨hab', hbn'⟩ := h'.ordered
  -- whoever publishes later is one of those who leave the other alone
  rcases Nat.lt_trichotomy a a' with hlt | rfl | hlt
  · have hop := h.undisturbed a' hlt (Nat.le_trans (Nat.le_of_lt hab') hbn')
    rw [hcall'] at hop
    exact (hop.2 hij.symm).symm
  · have heq := hcall.symm.trans hcall'
    simp only [Operation.call.injEq] at heq
    exact absurd heq.2.1 hij
  · have hop := h'.undisturbed a hlt (Nat.le_trans (Nat.le_of_lt hab) hbn)
    rw [hcall] at hop
    exact hop.2 hij

end Keeps

/-! ## Readings -/

/-- What is listed at some time after step `n`. -/
def list (r : Run ι) (n : Nat) (t : Instant) (key : ServiceKey) : List Entry :=
  (r.state (n + 1)).registry.list t key

/-- What a look-up finds at some time after step `n`. -/
def lookup (r : Run ι) (n : Nat) (t : Instant) (key : ServiceKey) : Option Entry :=
  (r.state (n + 1)).registry.lookup t key

/-- The instances of two applications as they are listed. -/
def order (r : Run ι) (n : Nat) (t : Instant) (key : ServiceKey) (i j : ι) : List String :=
  ((r.list n t key).map Entry.instanceId).filter fun id =>
    id = (r.settings i).instanceId ∨ id = (r.settings j).instanceId

/-- A service is kept published, and not a whole lease has passed since it was published last. -/
structure Alive (r : Run ι) (i : ι) (key : ServiceKey) (p : Properties) (a b n : Nat) (t : Instant) :
    Prop where
  keeps : r.Keeps i key p a b n
  now : r.time n ≤ t
  leased : ∃ l, b ≤ l ∧ l ≤ n ∧ r.Publishes i p l ∧ t < r.time l + (r.settings i).lease

theorem Alive.live? (h : r.Alive i key p a b n t) : ∃ d, t < d ∧
    (r.state (n + 1)).registry.live? t key (r.settings i).instanceId =
      some ⟨r.entryOf i p, d, (r.state b).registry.nextSequence⟩ := by
  obtain ⟨l, hbl, hln, hpub, ht⟩ := h.leased
  obtain ⟨d, hlives, hlatest⟩ := h.keeps.lives h.keeps.ordered.2 (Nat.le_refl n)
  have htd : t < d := Nat.lt_of_lt_of_le ht (hlatest l hbl hln hpub)
  exact ⟨d, htd, h.keeps.instanceId ▸ hlives t h.now htd⟩

theorem Alive.mem_list (h : r.Alive i key p a b n t) :
    ∃ d, t < d ∧ { r.entryOf i p with expiresAt := some d } ∈ r.list n t key := by
  obtain ⟨d, htd, hlive⟩ := h.live?
  exact ⟨d, htd, List.mem_map.2 ⟨_, LeaseRegistry.mem_listed.2 ⟨_, hlive⟩, rfl⟩⟩

/-- Two services that are kept published are listed by the places they were registered in. -/
theorem Alive.order_eq {j : ι} {q : Properties} {a' b' : Nat} (h : r.Alive i key p a b n t)
    (h' : r.Alive j key q a' b' n t) (hij : i ≠ j) :
    r.order n t key i j =
      if (r.state b').registry.nextSequence < (r.state b).registry.nextSequence then
        [(r.settings i).instanceId, (r.settings j).instanceId]
      else [(r.settings j).instanceId, (r.settings i).instanceId] := by
  obtain ⟨d, -, hlive⟩ := h.live?
  obtain ⟨d', -, hlive'⟩ := h'.live?
  have hid := h.keeps.instanceId_ne h'.keeps hij
  exact (r.sound (n + 1)).registry.filter_list_pair hid hlive hlive'

/-- Of two instances the one that a look-up finds is listed first. -/
theorem head?_order {e : Entry} {j : ι} (he : r.lookup n t key = some e)
    (hid : e.instanceId = (r.settings i).instanceId ∨ e.instanceId = (r.settings j).instanceId) :
    (r.order n t key i j).head? = some e.instanceId := by
  have hfirst : (r.list n t key).head? = some e :=
    ((r.sound (n + 1)).registry.lookup_eq_head? t key).symm.trans he
  cases hlist : r.list n t key with
  | nil => simp [hlist] at hfirst
  | cons first rest =>
    obtain rfl : first = e := by simpa [hlist] using hfirst
    simp [order, hlist, hid]

/-- A service whose application renews it in time is listed as it was published, until a lease after the last
publication; and while two applications do so their instances are listed in the same order, and look-ups do
not go from one to the other. -/
theorem renewal_keeps (r : Run ι) (key : ServiceKey) :
    (∀ i p a b n t, r.Alive i key p a b n t →
      ∃ d, t < d ∧ { r.entryOf i p with expiresAt := some d } ∈ r.list n t key) ∧
    ∀ i j p q a b a' b' m n t u, i ≠ j →
      r.Alive i key p a b m t → r.Alive j key q a' b' m t →
      r.Alive i key p a b n u → r.Alive j key q a' b' n u →
      r.order m t key i j = r.order n u key i j ∧
      ∀ e e', r.lookup m t key = some e → r.lookup n u key = some e' →
        e.instanceId = (r.settings i).instanceId → e'.instanceId ≠ (r.settings j).instanceId := by
  refine ⟨fun i p a b n t h => h.mem_list, ?_⟩
  intro i j p q a b a' b' m n t u hij hi hj hi' hj'
  have horder : r.order m t key i j = r.order n u key i j :=
    (hi.order_eq hj hij).trans (hi'.order_eq hj' hij).symm
  refine ⟨horder, fun e e' he he' hid hid' => ?_⟩
  have hhead := head?_order he (j := j) (.inl hid)
  have hhead' := head?_order he' (i := i) (.inr hid')
  rw [horder, hhead'] at hhead
  refine hi.keeps.instanceId_ne hj.keeps hij ?_
  rw [← hid, ← hid', Option.some.inj hhead]

end Run

/-! ## A run of two applications -/

namespace Sample

/-- What a third instance registers. -/
def guest : Entry := ⟨service.set Properties.instanceName "guest", 30, none⟩

/-- Two applications publish the same service, and renew it twice each. -/
def renewals : Run Bool :=
  .ofSteps (fun i => { instanceId := if i then "b" else "a", lease := 10 })
    [(0, .call 0 false (.publish service)), (0, .proceed 0), (1, .call 1 true (.publish service)),
      (0, .proceed 1), (6, .call 2 false .renewAll), (1, .call 3 true .renewAll), (1, .proceed 3),
      (0, .proceed 2), (1, .write (.register guest)), (2, .write .evict), (3, .call 4 false .renewAll),
      (1, .proceed 4), (1, .call 5 true .renewAll), (1, .proceed 5)]

theorem renewals_keep_first : renewals.Keeps false menu service 0 1 13 where
  keyed := by decide
  begins := ⟨0, rfl, rfl⟩
  quiet := fun _ _ hw => nomatch hw
  registered := rfl
  ordered := by decide
  undisturbed m hm hle := by
    have hall : ∀ m < 14, 0 < m → (renewals.operation m).Respects renewals.settings false menu := by decide
    exact hall m (Nat.lt_succ_of_le hle) hm
  prompt := by
    have hpublished : ∀ l ∈ [1, 7, 11], renewals.Publishes false service l := by
      simp only [List.forall_mem_cons, List.not_mem_nil, false_implies, implies_true, and_true]
      exact ⟨.inl rfl, .inr rfl, .inr rfl⟩
    exact Run.prompt_of_mem hpublished (by decide)

theorem renewals_keep_second : renewals.Keeps true menu service 2 3 13 where
  keyed := by decide
  begins := ⟨1, rfl, rfl⟩
  quiet := by
    intro k w hw
    match k with
    | 0 | 1 | k + 2 => cases hw
  registered := rfl
  ordered := by decide
  undisturbed m hm hle := by
    have hall : ∀ m < 14, 2 < m → (renewals.operation m).Respects renewals.settings true menu := by decide
    exact hall m (Nat.lt_succ_of_le hle) hm
  prompt := by
    have hpublished : ∀ l ∈ [3, 6, 13], renewals.Publishes true service l := by
      simp only [List.forall_mem_cons, List.not_mem_nil, false_implies, implies_true, and_true]
      exact ⟨.inl rfl, .inr rfl, .inr rfl⟩
    exact Run.prompt_of_mem hpublished (by decide)

end Sample

open Sample in
/-- Of the two applications the second is found when both have published, and is listed first still when both
have renewed twice and a guest is found. -/
theorem renewal_keeps_two :
    (∃ d, 25 < d ∧
      { renewals.entryOf false service with expiresAt := some d } ∈ renewals.list 13 25 menu) ∧
    renewals.order 3 9 menu true false = ["b", "a"] ∧
    renewals.order 3 9 menu true false = renewals.order 13 25 menu true false ∧
    ∀ e e', renewals.lookup 3 9 menu = some e → renewals.lookup 13 25 menu = some e' →
      e.instanceId = "b" → e'.instanceId ≠ "a" := by
  have hfirst : renewals.Alive false menu service 0 1 3 9 :=
    ⟨renewals_keep_first.of_le (by decide) (by decide), by decide, 1, by decide, by decide, .inl rfl,
      by decide⟩
  have hsecond : renewals.Alive true menu service 2 3 3 9 :=
    ⟨renewals_keep_second.of_le (by decide) (by decide), by decide, 3, by decide, by decide, .inl rfl,
      by decide⟩
  have hfirst' : renewals.Alive false menu service 0 1 13 25 :=
    ⟨renewals_keep_first, by decide, 11, by decide, by decide, .inr rfl, by decide⟩
  have hsecond' : renewals.Alive true menu service 2 3 13 25 :=
    ⟨renewals_keep_second, by decide, 13, by decide, by decide, .inr rfl, by decide⟩
  obtain ⟨hlisted, hpair⟩ := Run.renewal_keeps renewals menu
  obtain ⟨horder, hlookup⟩ :=
    hpair _ _ _ _ _ _ _ _ _ _ _ _ (by decide) hsecond hfirst hsecond' hfirst'
  exact ⟨hlisted _ _ _ _ _ _ hfirst', (hsecond.order_eq hfirst (by decide)).trans rfl, horder, hlookup⟩

end Exporters

end ServiceBinding
