import ServiceBinding.Proofs.Exporters.Publisher

/-!
# One round publishes everything

What an exporter remembers of a key is what was last published under it, unless that was taken back
(`Run.get?_state`), whichever of it all reached the registry. A round of renewals that reaches the registry
makes up for the difference (`renewal_round`): a renewal registers what is not there or has expired, and
nothing that is renewed can be refused.
-/

namespace ServiceBinding

open LeaseRegistry (Outage reached renewNext)

namespace Publisher

/-! ## What was last published -/

/-- The operation neither publishes the key nor takes it back. -/
def Operation.Spares (key : ServiceKey) : Operation → Prop
  | .call c _ => c.Spares key
  | .write _ => True

instance (key : ServiceKey) : (op : Operation) → Decidable (op.Spares key)
  | .call c _ => inferInstanceAs (Decidable (c.Spares key))
  | .write _ => isTrue trivial

theorem get?_perform_of_spares {op : Operation} {key : ServiceKey} (h : op.Spares key) (s : Publisher)
    (now : Instant) : (s.perform now op).exporter.exported.get? key = s.exporter.exported.get? key := by
  rw [exporter_perform]
  cases op with
  | call c outage => exact Exporter.get?_after_of_spares h s.exporter
  | write w => rfl

/-- What does not spare a key publishes it or takes it back. -/
theorem Operation.not_spares {op : Operation} {key : ServiceKey} (h : ¬op.Spares key) :
    (∃ p outage, op = .call (.publish p) outage ∧ p.key = .ok key) ∨
      ∃ outage, op = .call (.withdraw key) outage := by
  cases op with
  | call c outage =>
    cases c with
    | publish p => exact .inl ⟨p, outage, rfl, Decidable.not_not.1 h⟩
    | withdraw k =>
      obtain rfl : k = key := Decidable.not_not.1 h
      exact .inr ⟨outage, rfl⟩
    | renewAll => exact absurd trivial h
  | write w => exact absurd trivial h

namespace Run

variable {r : Run} {n m : Nat} {key : ServiceKey} {p : Properties} {e : Entry} {t : Instant}

/-- In step `m` the exporter is called to publish a service under a key. -/
def Publishes (r : Run) (key : ServiceKey) (p : Properties) (m : Nat) : Prop :=
  (∃ outage, r.operation m = .call (.publish p) outage) ∧ p.key = .ok key

/-- In step `m` the exporter is called to take back what is published under a key. -/
def Withdraws (r : Run) (key : ServiceKey) (m : Nat) : Prop :=
  ∃ outage, r.operation m = .call (.withdraw key) outage

/-- A key was published before step `n` and not taken back since. -/
def Exports (r : Run) (n : Nat) (key : ServiceKey) : Prop :=
  ∃ m p, m < n ∧ r.Publishes key p m ∧ ∀ j, m < j → j < n → ¬r.Withdraws key j

/-- A key was last published with these properties, and not taken back since. -/
def Latest (r : Run) (n : Nat) (key : ServiceKey) (p : Properties) : Prop :=
  ∃ m < n, r.Publishes key p m ∧ ∀ j, m < j → j < n → (r.operation j).Spares key

theorem Publishes.not_spares (h : r.Publishes key p m) : ¬(r.operation m).Spares key := by
  obtain ⟨⟨outage, hop⟩, hkey⟩ := h
  rw [hop]
  exact fun hspares => hspares hkey

theorem Withdraws.not_spares (h : r.Withdraws key m) : ¬(r.operation m).Spares key := by
  obtain ⟨outage, hop⟩ := h
  rw [hop]
  exact fun hspares => hspares rfl

theorem Latest.succ (h : r.Latest n key p) (hspares : (r.operation n).Spares key) :
    r.Latest (n + 1) key p := by
  obtain ⟨m, hm, hpublishes, hsince⟩ := h
  refine ⟨m, Nat.lt_succ_of_lt hm, hpublishes, fun j hmj hj => ?_⟩
  rcases Nat.lt_succ_iff_lt_or_eq.1 hj with hj | rfl
  · exact hsince j hmj hj
  · exact hspares

theorem Publishes.latest (h : r.Publishes key p n) : r.Latest (n + 1) key p :=
  ⟨n, Nat.lt_succ_self n, h, fun j hnj hj => absurd hj (by omega)⟩

/-- The last step before either publishes the key or leaves it as it was. -/
theorem Latest.cases_succ (h : r.Latest (n + 1) key p) :
    r.Publishes key p n ∨ r.Latest n key p ∧ (r.operation n).Spares key := by
  obtain ⟨m, hm, hpublishes, hsince⟩ := h
  rcases Nat.lt_succ_iff_lt_or_eq.1 hm with hm | rfl
  · exact .inr ⟨⟨m, hm, hpublishes, fun j hmj hj => hsince j hmj (Nat.lt_succ_of_lt hj)⟩,
      hsince n hm (Nat.lt_succ_self n)⟩
  · exact .inl hpublishes

theorem exports_iff : r.Exports n key ↔ ∃ p, r.Latest n key p := by
  constructor
  · rintro ⟨m, p, hm, hpublishes, hkept⟩
    -- what was published may have been published again since, so the properties may be others
    induction n, hm using Nat.le_induction with
    | base => exact ⟨p, hpublishes.latest⟩
    | succ n hm ih =>
      obtain ⟨q, hq⟩ := ih fun j hmj hj => hkept j hmj (Nat.lt_succ_of_lt hj)
      by_cases hspares : (r.operation n).Spares key
      · exact ⟨q, hq.succ hspares⟩
      · rcases Operation.not_spares hspares with ⟨q', outage, hop, hkey⟩ | hwithdraws
        · exact ⟨q', Publishes.latest ⟨⟨outage, hop⟩, hkey⟩⟩
        · exact absurd hwithdraws (hkept n hm (Nat.lt_succ_self n))
  · rintro ⟨p, m, hm, hpublishes, hsince⟩
    exact ⟨m, p, hm, hpublishes, fun j hmj hj h => h.not_spares (hsince j hmj hj)⟩

/-! ## What is remembered -/

/-- The entry that the application publishes for a service. -/
def entryOf (r : Run) (p : Properties) : Entry := Exporter.entryOf { settings := r.settings } p

theorem entryOf_eq (r : Run) (p : Properties) (n : Nat) :
    (r.state n).exporter.entryOf p = r.entryOf p := by
  simp only [entryOf, Exporter.entryOf, Exporter.stamp, r.settings_eq]

theorem isOf_entryOf (r : Run) (hkey : p.key = .ok key) : (r.entryOf p).IsOf key r.settings.instanceId :=
  ⟨(Exporter.key_entryOf _ p).trans hkey, Exporter.instanceId_entryOf _ p⟩

theorem get?_succ (r : Run) (n : Nat) (key : ServiceKey) :
    (r.state (n + 1)).exporter.exported.get? key =
      ((r.state n).perform (r.time n) (r.operation n)).exporter.exported.get? key :=
  ((r.steps n).get? key).symm

theorem get?_of_publishes (h : r.Publishes key p n) :
    (r.state (n + 1)).exporter.exported.get? key = some (r.entryOf p) := by
  obtain ⟨⟨outage, hop⟩, hkey⟩ := h
  rw [get?_succ, exporter_perform, hop]
  simp [Exporter.after_publish hkey, Table.get?_set, entryOf_eq]

theorem get?_of_withdraws (h : r.Withdraws key n) :
    (r.state (n + 1)).exporter.exported.get? key = none := by
  obtain ⟨outage, hop⟩ := h
  rw [get?_succ, exporter_perform, hop]
  simp [Exporter.after, Exporter.forget, Table.get?_erase]

/-- Whatever the registry answered, what was last published is remembered, and nothing else. -/
theorem get?_state : (r.state n).exporter.exported.get? key = some e ↔
    ∃ p, r.Latest n key p ∧ e = r.entryOf p := by
  -- a step leaves the key alone, or alone decides what is remembered of it
  induction n with
  | zero =>
    rw [r.starts]
    constructor
    · rintro ⟨⟩
    · rintro ⟨p, ⟨m, hm, -⟩, -⟩
      exact absurd hm (Nat.not_lt_zero m)
  | succ n ih =>
    by_cases hspares : (r.operation n).Spares key
    · rw [get?_succ, get?_perform_of_spares hspares, ih]
      constructor
      · rintro ⟨p, hp, rfl⟩
        exact ⟨p, hp.succ hspares, rfl⟩
      · rintro ⟨p, hp, rfl⟩
        rcases hp.cases_succ with hpublishes | ⟨hp, -⟩
        · exact absurd hspares hpublishes.not_spares
        · exact ⟨p, hp, rfl⟩
    · have hlast {p : Properties} (hp : r.Latest (n + 1) key p) : r.Publishes key p n :=
        hp.cases_succ.resolve_right fun h => hspares h.2
      rcases Operation.not_spares hspares with ⟨p, outage, hop, hkey⟩ | hwithdraws
      · have hpublishes : r.Publishes key p n := ⟨⟨outage, hop⟩, hkey⟩
        rw [get?_of_publishes hpublishes]
        constructor
        · rintro ⟨⟩
          exact ⟨p, hpublishes.latest, rfl⟩
        · rintro ⟨q, hq, rfl⟩
          rw [← get?_of_publishes hpublishes, get?_of_publishes (hlast hq)]
      · rw [get?_of_withdraws hwithdraws]
        constructor
        · rintro ⟨⟩
        · rintro ⟨q, hq, rfl⟩
          rw [← get?_of_withdraws hwithdraws, get?_of_publishes (hlast hq)]

theorem mem_keys_iff : key ∈ (r.state n).exporter.exported.keys ↔ r.Exports n key := by
  rw [Table.mem_keys, Option.isSome_iff_exists, exports_iff]
  constructor
  · rintro ⟨e, he⟩
    obtain ⟨p, hp, -⟩ := get?_state.1 he
    exact ⟨p, hp⟩
  · rintro ⟨p, hp⟩
    exact ⟨_, get?_state.2 ⟨p, hp, rfl⟩⟩

/-! ## A round -/

theorem allOf_exported (r : Run) (n : Nat) :
    LeaseRegistry.AllOf (r.state n).exporter.exported.entries r.settings.instanceId where
  nodup := (r.state n).exporter.exported.nodup
  isOf key e he := by
    obtain ⟨p, ⟨m, -, ⟨-, hkey⟩, -⟩, rfl⟩ := get?_state.1 (Table.mem_entries.1 he)
    exact r.isOf_entryOf hkey

theorem count_renewAll (r : Run) (n : Nat) (t : Instant) :
    ((r.state n).renewAll reached t).2 = (r.state n).exporter.exported.keys.length := by
  have hcount := LeaseRegistry.count_renewEach (r.allOf_exported n) ((r.state n).registry, 0) t
  rw [Nat.zero_add] at hcount
  rw [Table.keys, List.length_map]
  exact hcount

/-- What was last published is listed after the round, once, for a whole lease. -/
theorem Latest.listed (h : r.Latest n key p) (hlease : 0 < r.settings.lease) (t : Instant) :
    (((r.state n).renewAll reached t).1.registry.list t key).filter
        (·.instanceId = r.settings.instanceId) =
      [{ r.entryOf p with expiresAt := some (t + r.settings.lease) }] := by
  have hmem : (key, r.entryOf p) ∈ (r.state n).exporter.exported.entries :=
    Table.mem_entries.2 (get?_state.2 ⟨p, h, rfl⟩)
  obtain ⟨place, hlive⟩ := LeaseRegistry.live?_renewEach (r.allOf_exported n) hmem hlease
    ((r.state n).registry, 0) t
  have hsound : LeaseRegistry.Sound ((r.state n).renewAll reached t).1.registry :=
    sound_perform (r.sound n) t (.call .renewAll reached)
  rw [hsound.filter_list]
  refine (congrArg (fun l => (Option.map Lease.snapshot l).toList) hlive).trans ?_
  rfl

end Run

/-- An application cannot publish what has no API. -/
theorem publish_of_api_none {p : Properties} (h : p.api? = none) (s : Publisher) (outage : Outage)
    (now : Instant) : s.publish outage now p = (s, .error (.invalidEntry "missing API type")) := by
  have hkey : p.key = .error (.invalidEntry "missing API type") := by
    rw [Properties.key, Properties.key?, h]
    rfl
  rw [publish, Exporter.remember_of_error hkey]

/-- **A round of renewals.** The exported keys are those that were published and not taken back since,
whatever the registry answered. A round that reaches the registry renews all of them, and of each the
registry then has, under the instance of the application and for a whole lease, the service that was last
published, with the marks of the application. Properties without an API are refused, and nothing happens. -/
theorem renewal_round (r : Run) (hlease : 0 < r.settings.lease) (n : Nat) :
    ((r.state n).exporter.exported.keys.Nodup ∧
      ∀ key, (key ∈ (r.state n).exporter.exported.keys ↔ r.Exports n key) ∧
        (r.Exports n key ↔ ∃ p, r.Latest n key p)) ∧
    (∀ t, ((r.state n).renewAll reached t).2 = (r.state n).exporter.exported.keys.length ∧
      ∀ key p, r.Latest n key p → ∃ q,
        (((r.state n).renewAll reached t).1.registry.list t key).filter
            (·.instanceId = r.settings.instanceId) =
          [⟨q, r.settings.lease, some (t + r.settings.lease)⟩] ∧
        ∀ name, q.get? name =
          if name = Properties.subsystemName then some r.settings.subsystem
          else if name = Properties.instanceName then some r.settings.instanceId
          else if name = Properties.zoneName then some (r.settings.zone.getD r.settings.subsystem)
          else p.get? name) ∧
    ∀ (outage : Outage) (t : Instant) (p : Properties), p.api? = none →
      (r.state n).publish outage t p = (r.state n, .error (.invalidEntry "missing API type")) := by
  refine ⟨⟨(r.state n).exporter.exported.nodup, fun key => ⟨Run.mem_keys_iff, Run.exports_iff⟩⟩,
    fun t => ⟨r.count_renewAll n t, fun key p hlatest => ?_⟩,
    fun outage t p h => publish_of_api_none h (r.state n) outage t⟩
  exact ⟨_, hlatest.listed hlease t, Exporter.get?_stamp { settings := r.settings } p⟩

namespace Sample

def menu : ServiceKey := ⟨"Menu", none⟩

def orders : ServiceKey := ⟨"Orders", none⟩

def unavailable : Outage := fun _ => some "connection refused"

/-- A service is published twice while the registry is out of reach, and another one taken back. -/
def drift : Run :=
  .ofSteps { subsystem := "lunch", instanceId := "a", lease := 10 }
    [(0, .call (.publish (.forApi "Menu" "direct")) unavailable),
      (1, .call (.publish (.forApi "Orders" "direct")) reached),
      (1, .call (.withdraw orders) unavailable),
      (1, .call (.publish ((Properties.forApi "Menu" "direct").set "dish" "soup")) unavailable)]

theorem latest_menu : drift.Latest 4 menu ((Properties.forApi "Menu" "direct").set "dish" "soup") :=
  ⟨3, by decide, ⟨⟨unavailable, rfl⟩, rfl⟩, fun j h3 h4 => absurd h3 (by omega)⟩

end Sample

/-- The registry has never had the service that is exported, and still has the one that is not. -/
theorem renewal_round_drift :
    (Sample.drift.state 4).registry.live? 5 Sample.menu "a" = none ∧
    ((Sample.drift.state 4).registry.live? 5 Sample.orders "a").isSome = true ∧
    ((Sample.drift.state 4).renewAll reached 5).2 = 1 ∧
    ∃ q, (((Sample.drift.state 4).renewAll reached 5).1.registry.list 5 Sample.menu).filter
        (·.instanceId = "a") = [⟨q, 10, some 15⟩] ∧
      q.get? "dish" = some "soup" ∧ q.get? Properties.zoneName = some "lunch" := by
  obtain ⟨-, hround, -⟩ := renewal_round Sample.drift (by decide) 4
  obtain ⟨hcount, hlisted⟩ := hround 5
  obtain ⟨q, hq, hget⟩ := hlisted Sample.menu _ Sample.latest_menu
  refine ⟨rfl, rfl, hcount, q, hq, ?_, ?_⟩
  · rw [hget]
    rfl
  · rw [hget]
    rfl

end Publisher

end ServiceBinding
