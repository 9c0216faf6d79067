import ServiceBinding.Proofs.Exporters.Run

/-!
# What an application remembers of a service

An operation leaves a service alone if its application neither publishes it again nor takes it back, and if
nobody else writes under its instance (`Operation.Respects`). As long as all do, the application remembers
what it has published, and what its calls have still to write about the service are renewals
(`Remembers.perform`), apart from the registration with which it is published (`Registers.perform`).
-/

namespace ServiceBinding

open LeaseRegistry (Write)

namespace Exporter

/-- A call that neither publishes the key again nor takes it back. -/
def Call.Spares (key : ServiceKey) : Call → Prop
  | .publish p => p.key ≠ .ok key
  | .withdraw k => k ≠ key
  | .renewAll => True

instance (key : ServiceKey) : (c : Call) → Decidable (c.Spares key)
  | .publish p => inferInstanceAs (Decidable (p.key ≠ .ok key))
  | .withdraw k => inferInstanceAs (Decidable (k ≠ key))
  | .renewAll => isTrue trivial

theorem get?_after_of_spares {c : Call} {key : ServiceKey} (h : c.Spares key) (x : Exporter) :
    (x.after c).exported.get? key = x.exported.get? key := by
  cases c with
  | publish p =>
    cases hkey : p.key with
    | error err => rw [(refused_publish hkey).2]
    | ok k =>
      have hne : k ≠ key := fun heq => h (hkey.trans (congrArg Except.ok heq))
      rw [after_publish hkey]
      simp [Table.get?_set, hne.symm]
  | withdraw k =>
    have hne : k ≠ key := h
    simp [after, forget, Table.get?_erase, hne.symm]
  | renewAll => rfl

end Exporter

namespace Exporters

variable {ι : Type} {s s' : Exporters ι} {settings : ι → ExporterSettings} {i : ι} {key : ServiceKey}
  {e : Entry} {op : Operation ι} {k : Ticket} {w : Write} {isOpen : Ticket → Prop}

/-! ## Operations that leave a service alone -/

/-- Who owns the instance neither publishes the key again nor takes it back, and nobody else writes
anything about the instance under the key. -/
def Operation.Respects (settings : ι → ExporterSettings) (i : ι) (key : ServiceKey) :
    Operation ι → Prop
  | .call _ j c => (j = i → c.Spares key) ∧ (j ≠ i → (settings j).instanceId ≠ (settings i).instanceId)
  | .proceed _ | .drop _ => True
  | .write w => w.Spares key (settings i).instanceId

instance [DecidableEq ι] (settings : ι → ExporterSettings) (i : ι) (key : ServiceKey) :
    (op : Operation ι) → Decidable (op.Respects settings i key)
  | .call _ j c => inferInstanceAs (Decidable ((j = i → c.Spares key) ∧ (j ≠ i → _)))
  | .proceed _ | .drop _ => isTrue trivial
  | .write w => inferInstanceAs (Decidable (w.Spares key (settings i).instanceId))

/-- Of what such a call writes only the renewal of what is remembered is about the instance under the
key. -/
theorem Sound.spares_of_mem_writes (hs : Sound s settings) {j : ι} {c : Exporter.Call}
    (h : (Operation.call k j c).Respects settings i key) (hw : w ∈ (s.exporter j).writes c) :
    w.Spares key (settings i).instanceId ∨
      ∃ e, (s.exporter i).exported.get? key = some e ∧ w = .renew e := by
  by_cases hj : j = i
  · subst hj
    have hc := h.1 rfl
    rcases Exporter.mem_writes hw with ⟨p, k', rfl, hkey, rfl⟩ | ⟨k', rfl, rfl⟩ | ⟨k', e, rfl, he, rfl⟩
    · refine .inl fun hof => hc ?_
      exact (Exporter.key_entryOf _ p).symm.trans hof.1
    · exact .inl fun heq => hc heq.1.symm
    · by_cases heq : k' = key
      · subst heq
        exact .inr ⟨e, he, rfl⟩
      · refine .inl fun hof => heq ?_
        exact Except.ok.inj ((hs.exported j k' e he).1.symm.trans hof.1)
  · have hid := h.2 hj
    refine .inl ?_
    rcases Exporter.mem_writes hw with ⟨p, k', -, hkey, rfl⟩ | ⟨k', -, rfl⟩ | ⟨k', e, -, he, rfl⟩
    · exact fun hof => hid ((hs.isOf_entryOf j hkey).2.symm.trans hof.2)
    · rw [hs.configured]
      exact fun heq => hid heq.2.symm
    · exact fun hof => hid ((hs.exported j k' e he).2.symm.trans hof.2)

theorem get?_perform_of_respects [DecidableEq ι] (h : op.Respects settings i key) (s : Exporters ι)
    (now : Instant) :
    ((s.perform now op).exporter i).exported.get? key = (s.exporter i).exported.get? key := by
  rcases exporter_perform s now op i with heq | ⟨k, c, rfl, heq⟩
  · rw [heq]
  · rw [heq, Exporter.get?_after_of_spares (h.1 rfl)]

/-! ## A service that is remembered -/

/-- A service is remembered, and what is still to be written about it are its renewals, but for the calls
that are left open. -/
structure Remembers (s : Exporters ι) (i : ι) (key : ServiceKey) (e : Entry) (isOpen : Ticket → Prop) :
    Prop where
  exported : (s.exporter i).exported.get? key = some e
  pending : ∀ k, ¬isOpen k → ∀ w ∈ s.pending k, w.Spares key e.instanceId ∨ w = .renew e

namespace Remembers

theorem reorders (h : Remembers s i key e isOpen) (hr : Reorders s s') : Remembers s' i key e isOpen where
  exported := (hr.get? i key).symm.trans h.exported
  pending := hr.pending ▸ h.pending

theorem perform [DecidableEq ι] (h : Remembers s i key e isOpen) (hs : Sound s settings)
    (hop : op.Respects settings i key) (now : Instant) : Remembers (s.perform now op) i key e isOpen where
  exported := (get?_perform_of_respects hop s now).trans h.exported
  pending k hk w hw := by
    rcases mem_pending_perform hw with hbefore | ⟨j, c, rfl, hwrites⟩
    · exact h.pending k hk w hbefore
    · rw [(hs.exported i key e h.exported).2]
      rcases hs.spares_of_mem_writes hop hwrites with hspares | ⟨e', he', rfl⟩
      · exact .inl hspares
      · obtain rfl := Option.some.inj (h.exported.symm.trans he')
        exact .inr rfl

/-- What is written leaves the service alone, or renews it. -/
theorem written (h : Remembers s i key e isOpen) (hs : Sound s settings)
    (hop : op.Respects settings i key) (hw : s.written? op = some w)
    (hclosed : ∀ k, op = .proceed k → ¬isOpen k) : w.Spares key e.instanceId ∨ w = .renew e := by
  cases op with
  | call | drop => cases hw
  | proceed k => exact h.pending k (hclosed k rfl) w (List.mem_of_mem_head? hw)
  | write w' =>
    obtain rfl := Option.some.inj hw
    rw [(hs.exported i key e h.exported).2]
    exact .inl hop

/-- A call that has nothing more to write need not be left open. -/
theorem close (h : Remembers s i key e (· = k)) (hk : s.pending k = []) :
    Remembers s i key e fun _ => False where
  exported := h.exported
  pending j _ w hw := by
    by_cases hj : j = k
    · subst hj
      simp [hk] at hw
    · exact h.pending j hj w hw

theorem not_registered (h : Remembers s i key e isOpen) (hs : Sound s settings)
    (hop : op.Respects settings i key) (hclosed : ∀ k, op = .proceed k → ¬isOpen k) :
    s.written? op ≠ some (.register e) := by
  intro hw
  rcases h.written hs hop hw hclosed with hspares | heq
  · exact Write.not_spares ⟨(hs.exported i key e h.exported).1, rfl⟩ (.inl rfl) hspares
  · cases heq

end Remembers

/-- A call has still to register the service, and otherwise the service is left alone. -/
structure Registers (s : Exporters ι) (i : ι) (key : ServiceKey) (e : Entry) (k : Ticket) : Prop
    extends Remembers s i key e (· = k) where
  registers : s.pending k = [.register e]

theorem Registers.reorders (h : Registers s i key e k) (hr : Reorders s s') : Registers s' i key e k where
  toRemembers := h.toRemembers.reorders hr
  registers := hr.pending ▸ h.registers

theorem registers_publish [DecidableEq ι] (hs : Sound s settings) {p : Properties} (hkey : p.key = .ok key)
    (hfree : s.pending k = []) (hquiet : ∀ j, ∀ w ∈ s.pending j, w.Spares key (settings i).instanceId)
    (now : Instant) :
    Registers (s.perform now (.call k i (.publish p))) i key ((s.exporter i).entryOf p) k where
  exported := by
    simp [Exporters.perform, beginCall, hfree, Exporter.after_publish hkey, Table.get?_set]
  pending j hj w hw := by
    rw [(hs.isOf_entryOf i hkey).2]
    simp only [Exporters.perform, beginCall, hfree, Function.update_of_ne hj] at hw
    exact .inl (hquiet j w hw)
  registers := by
    simp [Exporters.perform, beginCall, hfree, Exporter.writes_publish hkey]

/-- The call stays about to register the service until it does, or is dropped. -/
theorem Registers.perform [DecidableEq ι] (h : Registers s i key e k) (hs : Sound s settings)
    (hop : op.Respects settings i key) (now : Instant) :
    (Registers (s.perform now op) i key e k ∧ s.written? op ≠ some (.register e)) ∨
      Remembers (s.perform now op) i key e fun _ => False := by
  have hnext := h.toRemembers.perform hs hop now
  rcases pending_perform_of_single h.registers now op with ⟨hk, hne⟩ | hk
  · refine .inl ⟨⟨hnext, hk⟩, h.toRemembers.not_registered hs hop ?_⟩
    rintro j rfl rfl
    exact hne rfl
  · exact .inr (hnext.close hk)

end Exporters

end ServiceBinding
