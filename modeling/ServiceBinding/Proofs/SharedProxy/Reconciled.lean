import ServiceBinding.Proofs.SharedProxy.LoneRecheck

/-!
# What a recheck is for

A recheck that nobody disturbs brings a proxy in line with the registry. The provider that the registry
names is bound if it can be, and a binding is given up only for another one or because the registry
names no provider (`Settles`). If bindings carry the properties that they were made from, that is as far
as the answers go: the same ones ask for nothing more of the proxy that a recheck leaves.
-/

namespace ServiceBinding

/-- The bindings of the direct component carry the properties that they were made from. -/
theorem Direct.bind_properties {exists? : String → Bool} {api : ApiDescriptor} {properties : Properties}
    {binding : Binding} (h : Direct.bind exists? api properties = .ok binding) :
    binding.properties = properties := by
  unfold Direct.bind at h
  split at h
  · cases h
  · split at h
    · obtain rfl := Except.ok.inj h
      rfl
    · cases h

theorem Components.resolve_of_select {cs : Components} {api : ApiDescriptor} {properties : Properties}
    {c : Component} (h : cs.select api properties = .ok c) : ∃ name, cs.resolve name = .ok c := by
  unfold Components.select at h
  split at h
  · cases h
  · rename_i name _
    split at h
    · cases h
    · rename_i c' hresolve
      split at h
      · obtain rfl := Except.ok.inj h
        exact ⟨name, hresolve⟩
      · cases h

namespace Proxy

/-- The component that an attempt binds with is one of the table. -/
theorem resolve_of_plan {p : Proxy} {cs : Components} {properties : Properties} {c : Component}
    {versioning : Option ApiDefinition} (h : p.plan cs properties = .ok (c, versioning)) :
    ∃ name, cs.resolve name = .ok c := by
  unfold plan at h
  split at h
  · cases h
  · split at h
    · cases h
    · rename_i hselect
      obtain ⟨rfl, rfl⟩ := Prod.mk.inj (Except.ok.inj h)
      exact Components.resolve_of_select hselect

namespace Surroundings

variable {w : Surroundings} {p : Proxy}

theorem CarriesProperties.attempt (hw : w.CarriesProperties) {properties : Properties}
    {binding : Binding} {versioning : Option ApiDefinition}
    (h : w.attempt p properties = .ok (binding, versioning)) : binding.properties = properties := by
  unfold Surroundings.attempt at h
  split at h
  · cases h
  · rename_i c versioning' hplan
    obtain ⟨name, hresolve⟩ := resolve_of_plan hplan
    unfold bound at h
    split at h
    · cases h
    · cases h
    · rename_i made hmade
      obtain ⟨rfl, rfl⟩ := Prod.mk.inj (Except.ok.inj h)
      exact hw name c hresolve properties made hmade

/-- What a recheck makes of a proxy, by the state it finds and what the registry answers. -/
structure Settles (w : Surroundings) (p p' : Proxy) : Prop where
  /-- Nothing mends a fatal cause. -/
  fatal : p.Fatal → p'.connection = p.connection
  /-- No answer, or a failure of the registry, says nothing. -/
  unanswered : (∀ found, w.registry ≠ some (.ok found)) → p'.connection = p.connection
  gone : w.registry = some (.ok none) → p.isBound = true →
    p'.connection = .unbound .noLiveProvider "provider no longer registered" none
  absent : w.registry = some (.ok none) → p.isBound = false → p'.connection = p.connection
  found : ∀ e, w.registry = some (.ok (some e)) → ¬ p.Fatal →
    ∀ made, w.attempt p e.properties = .ok made →
      ∃ b, p'.connection = .bound b ∧ b.binding.properties = e.properties
  /-- A binding is not given up for a provider that cannot be bound. -/
  kept : ∀ e, w.registry = some (.ok (some e)) → p.isBound = true →
    ∀ failure, w.attempt p e.properties = .error failure → p'.connection = p.connection
  failed : ∀ e, w.registry = some (.ok (some e)) → p.Mendable →
    ∀ failure, w.attempt p e.properties = .error failure → p'.connection = failure.connection

theorem CarriesProperties.settles (hw : w.CarriesProperties) {p' : Proxy}
    (h : p'.connection = w.reconciled p) : w.Settles p p' where
  fatal hf := h.trans (reconciled_of_fatal hf)
  unanswered hr := h.trans (reconciled_of_unanswered hr)
  gone hr hb := h.trans (reconciled_of_gone hr hb)
  absent hr hu := h.trans (reconciled_of_absent hr hu)
  found e hr hf made hmade := by
    have hnew (hasks : w.Asks p e) :
        ∃ b, p'.connection = .bound b ∧ b.binding.properties = e.properties :=
      ⟨⟨p.generation, made.1, made.2⟩, by rw [h, hasks.reconciled, hmade]; rfl, hw.attempt hmade⟩
    by_cases hb : p.isBound = true
    · obtain ⟨b, hc⟩ := isBound_iff.mp hb
      by_cases hsame : b.binding.properties = e.properties
      · exact ⟨b, by rw [h, reconciled_of_same hr hc hsame, hc], hsame⟩
      · exact hnew (.of_bound hr hc hsame)
    · exact hnew (.of_mendable hr (mendable_of_not_fatal (by simpa using hb) hf))
  kept e hr hb failure hfailed := h.trans (reconciled_of_kept hr hb hfailed)
  failed e hr hm failure hfailed := h.trans (reconciled_of_failed hr hm hfailed)

/-- A failed attempt fails again, and is remembered as it was. -/
theorem reconciled_of_failure {e : Entry} {failure : BindFailure}
    (hr : w.registry = some (.ok (some e))) (hc : p.connection = failure.connection)
    (hfailed : w.attempt p e.properties = .error failure) : w.reconciled p = p.connection := by
  cases failure with
  | transient reason message =>
    rw [hc]
    exact reconciled_of_failed hr ⟨reason, message, hc⟩ hfailed
  | fatal cause => exact reconciled_of_fatal ⟨_, _, cause, hc⟩

/-- A proxy that has been reconciled with an answer needs nothing more by the same answer. -/
theorem CarriesProperties.reconciled_of_reconciled (hw : w.CarriesProperties) {p' : Proxy}
    (h : p'.connection = w.reconciled p) (hdescriptor : p'.descriptor = p.descriptor) :
    w.reconciled p' = p'.connection := by
  have hsettles := hw.settles h
  by_cases hanswered : ∀ found, w.registry ≠ some (.ok found)
  · exact reconciled_of_unanswered hanswered
  by_cases hf : p.Fatal
  · exact reconciled_of_fatal (hf.congr (hsettles.fatal hf))
  obtain ⟨found, hr⟩ : ∃ found, w.registry = some (.ok found) := by simpa using hanswered
  cases found with
  | none =>
    refine reconciled_of_absent hr ?_
    cases hb : p.isBound with
    | true => simp only [isBound, hsettles.gone hr hb]
    | false => rw [← hb, isBound_congr (hsettles.absent hr hb)]
  | some e =>
    have hattempt := w.attempt_congr e.properties hdescriptor
    cases hmade : w.attempt p e.properties with
    | ok made =>
      obtain ⟨b, hc, hsame⟩ := hsettles.found e hr hf made hmade
      exact reconciled_of_same hr hc hsame
    | error failure =>
      rw [hmade] at hattempt
      cases hb : p.isBound with
      | true =>
        refine reconciled_of_kept hr ?_ hattempt
        rw [← hb, isBound_congr (hsettles.kept e hr hb failure hmade)]
      | false =>
        exact reconciled_of_failure hr
          (hsettles.failed e hr (mendable_of_not_fatal hb hf) failure hmade) hattempt

/-- Nor is its binding replaced by another one that is alike. -/
theorem Reconciles.generation_of_reconciled (hw : w.CarriesProperties) {p' p'' : Proxy}
    (h : w.Reconciles p p') (h' : w.Reconciles p' p'') (hb : p'.isBound = true) :
    p''.generation = p'.generation := by
  rcases h'.generation with hkept | ⟨e, hasks, hmakes⟩
  · exact hkept
  · have hsettles := hw.settles h.connection
    have hf : ¬ p.Fatal := fun hf => hasks.not_fatal (hf.congr (hsettles.fatal hf))
    obtain ⟨made, hmade⟩ := hmakes hb
    rw [w.attempt_congr e.properties h.descriptor] at hmade
    obtain ⟨b, hc, hsame⟩ := hsettles.found e hasks.named hf made hmade
    exact absurd hsame (hasks.changed b hc)

/-- A recheck that nobody disturbs brings a proxy in line with the registry, and a second one by the
same answers leaves it as it is: with the same status, which is read off the connection, and with the
very same binding if there is one, since no attempt is applied that could have made another. -/
theorem recheck_reconciles (w : Surroundings) (hw : w.CarriesProperties) (p : Proxy)
    (hline : p.line = []) (t : Ticket) (now : Instant) :
    (∃ p', w.Rechecks t now p p') ∧
      ∀ p', w.Rechecks t now p p' → w.Settles p p' ∧
        ∀ t' now', (∃ p'', w.Rechecks t' now' p' p'') ∧
          ∀ p'', w.Rechecks t' now' p' p'' → p''.connection = p'.connection ∧
            (p'.isBound = true → p''.generation = p'.generation) := by
  obtain ⟨hends, hbrings⟩ := brings_reconciled (w := w) (t := t) hline now
  refine ⟨hends, fun p' hfirst => ?_⟩
  have hreconciled := hbrings p' hfirst
  refine ⟨hw.settles hreconciled.connection, fun t' now' => ?_⟩
  obtain ⟨hends', hbrings'⟩ := brings_reconciled (w := w) (t := t') hreconciled.line now'
  refine ⟨hends', fun p'' hsecond => ?_⟩
  have hreconciled' := hbrings' p'' hsecond
  refine ⟨?_, hreconciled.generation_of_reconciled hw hreconciled'⟩
  rw [hreconciled'.connection]
  exact hw.reconciled_of_reconciled hreconciled.connection hreconciled.descriptor

end Surroundings

end Proxy

namespace SharedProxy

namespace Sample

/-- The registry names a provider, and the direct component binds to it. -/
def oneProvider : Proxy.Surroundings where
  components := components
  registry := some (.ok (some (entry "one")))
  component _ properties := some (Direct.bind (· = "one") finder properties)

theorem oneProvider_carriesProperties : oneProvider.CarriesProperties :=
  fun _ _ _ _ _ h => Direct.bind_properties (Option.some.inj h)

/-- A proxy that nobody has used. -/
def unused : Proxy := { descriptor := finder, settings := {} }

end Sample

theorem recheck_reconciles_oneProvider :
    Sample.oneProvider.CarriesProperties ∧ Sample.unused.line = [] ∧
      ∃ p' b, Sample.oneProvider.Rechecks 0 0 Sample.unused p' ∧ p'.connection = .bound b ∧
        b.binding.properties = (Sample.entry "one").properties ∧
        ∀ p'', Sample.oneProvider.Rechecks 1 40 p' p'' → p''.connection = .bound b := by
  obtain ⟨⟨p', hfirst⟩, hrechecks⟩ := Proxy.Surroundings.recheck_reconciles Sample.oneProvider
    Sample.oneProvider_carriesProperties Sample.unused rfl 0 0
  obtain ⟨hsettles, hagain⟩ := hrechecks p' hfirst
  have hmendable : Sample.unused.Mendable := ⟨_, _, rfl⟩
  obtain ⟨b, hc, hproperties⟩ := hsettles.found (Sample.entry "one") rfl hmendable.not_fatal
    (Sample.binding "one", none) rfl
  refine ⟨Sample.oneProvider_carriesProperties, rfl, p', b, hfirst, hc, hproperties, ?_⟩
  intro p'' hsecond
  exact ((hagain 1 40).2 p'' hsecond).1.trans hc

end SharedProxy

end ServiceBinding
