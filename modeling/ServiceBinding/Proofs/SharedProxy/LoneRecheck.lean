import ServiceBinding.Proofs.SharedProxy.Move

/-!
# The way of a recheck that nobody disturbs

A recheck that has a proxy to itself goes through its pieces one after the other, at any times, and what
becomes of the proxy is decided by what the registry and the components answer (`Surroundings`).
`Surroundings.GoesOn` is that way. What holds of all its ends is shown piece by piece, from the last one
to the first (`Surroundings.Brings`): the recheck comes to an end, and there the connection is the one
that `Surroundings.reconciled` reads off the connection before and the answers (`brings_reconciled`).
-/

namespace ServiceBinding

/-- What an unbound proxy remembers of a failed attempt. -/
def BindFailure.connection : BindFailure → Connection
  | .transient reason message => .unbound reason message none
  | .fatal e => .unbound .notBound e.message (some e)

namespace Proxy

/-- The connection after an attempt of a recheck. -/
def connectionAfter (p : Proxy) (r : Except BindFailure (Binding × Option ApiDefinition)) : Connection :=
  match r, p.connection with
  | .ok (binding, versioning), _ => .bound ⟨p.generation, binding, versioning⟩
  | .error _, .bound b => .bound b
  | .error failure, .unbound .. => failure.connection

/-- How the registry and the components answer a proxy; `none` stands for an answer that does not come in
time. -/
structure Surroundings where
  components : Components
  registry : Option (Except RegistryError (Option Entry))
  component : Component → Properties → Option (Except BindError Binding)

namespace Surroundings

variable (w : Surroundings)

/-- The bindings of the components carry the properties that they were made from. -/
def CarriesProperties : Prop :=
  ∀ name c, w.components.resolve name = .ok c →
    ∀ properties binding, w.component c properties = some (.ok binding) → binding.properties = properties

/-- What a component makes of properties. -/
def bound (c : Component) (properties : Properties) (versioning : Option ApiDefinition) :
    Except BindFailure (Binding × Option ApiDefinition) :=
  match w.component c properties with
  | none => .error .bindTimeout
  | some (.error e) => .error (.ofError e)
  | some (.ok binding) => .ok (binding, versioning)

/-- What an attempt to bind by properties brings. -/
def attempt (p : Proxy) (properties : Properties) :
    Except BindFailure (Binding × Option ApiDefinition) :=
  match p.plan w.components properties with
  | .error failure => .error failure
  | .ok (c, versioning) => w.bound c properties versioning

/-- An attempt depends on what the proxy is for, and on nothing else of it. -/
theorem attempt_congr {p p' : Proxy} (properties : Properties) (h : p'.descriptor = p.descriptor) :
    w.attempt p' properties = w.attempt p properties := by
  simp only [attempt, plan, h]

/-- The connection that a recheck leaves. A binding is not given up for an attempt that failed. -/
def reconciled (p : Proxy) : Connection :=
  match p.connection, w.registry with
  | .bound _, some (.ok none) => .unbound .noLiveProvider "provider no longer registered" none
  | .bound b, some (.ok (some e)) =>
    if e.properties = b.binding.properties then .bound b
    else p.connectionAfter (w.attempt p e.properties)
  | .unbound _ _ none, some (.ok (some e)) => p.connectionAfter (w.attempt p e.properties)
  | seen, _ => seen

/-- The signal that lets a recheck go on from a stage. -/
def signal : Stage → Signal
  | .rechecking (.lookingUp ..) =>
    match w.registry with
    | some answer => .registry w.components answer
    | none => .deadline
  | .rechecking (.queued ..) => .turn w.components
  | .rechecking (.binding c properties ..) =>
    match w.component c properties with
    | some answer => .component answer
    | none => .deadline
  | _ => .recheck

/-- A recheck that nobody disturbs goes on from a stage to its end, and leaves the last proxy. -/
inductive GoesOn (t : Ticket) : Instant → Proxy → Stage → Proxy → Prop
  | ended {now p result} : GoesOn t now p (.ended result) p
  | next {now now' p p' p'' stage stage'} (hle : now ≤ now')
      (hnext : p.advance now' t stage (w.signal stage) = some (p', stage'))
      (rest : GoesOn t now' p' stage' p'') : GoesOn t now p stage p''

/-- A recheck that nobody disturbs, from its beginning at `now` or later to its end. -/
def Rechecks (t : Ticket) (now : Instant) (p p' : Proxy) : Prop := w.GoesOn t now p .unstarted p'

/-- From a stage on a recheck comes to an end, whenever it goes on, and every proxy that it can leave
satisfies `Q`. -/
def Brings (t : Ticket) (p : Proxy) (stage : Stage) (Q : Proxy → Prop) : Prop :=
  ∀ now, (∃ p', w.GoesOn t now p stage p') ∧ ∀ p', w.GoesOn t now p stage p' → Q p'

end Surroundings

/-! ## The pieces -/

section Pieces

variable {w : Surroundings} {p : Proxy} {now : Instant} {t : Ticket} {properties : Properties}

/-- Whatever an attempt has brought, the recheck that made it is over. -/
theorem followRecheck_concludeRecheck (p : Proxy) (now : Instant) (t : Ticket)
    (r : Except BindFailure (Binding × Option ApiDefinition)) :
    followRecheck (p.concludeRecheck now t r) = ((p.concludeRecheck now t r).1, .ended none) := by
  unfold concludeRecheck
  split <;> rfl

/-- A failed attempt is put down only if there is no binding. -/
theorem concludeRecheck_connection (p : Proxy) (now : Instant) (t : Ticket)
    (r : Except BindFailure (Binding × Option ApiDefinition)) :
    (p.concludeRecheck now t r).1.connection = p.connectionAfter r := by
  cases r with
  | ok made => rfl
  | error failure =>
    cases hc : p.connection with
    | bound b => simp [concludeRecheck, connectionAfter, hc]
    | unbound reason message fatal =>
      cases failure <;> simp [concludeRecheck, connectionAfter, hc, apply, BindFailure.connection]

theorem concludeRecheck_line (p : Proxy) (now : Instant) (t : Ticket)
    (r : Except BindFailure (Binding × Option ApiDefinition)) :
    (p.concludeRecheck now t r).1.line = p.line.erase t := by
  unfold concludeRecheck
  split <;> simp

theorem concludeRecheck_descriptor (p : Proxy) (now : Instant) (t : Ticket)
    (r : Except BindFailure (Binding × Option ApiDefinition)) :
    (p.concludeRecheck now t r).1.descriptor = p.descriptor := by
  unfold concludeRecheck
  split
  · rfl
  · exact apply_descriptor _ _ _

/-- A recheck that waits for a component goes on in time, with what the component makes of the
properties. -/
theorem advance_binding {c : Component} {versioning : Option ApiDefinition} {deadline : Instant} :
    p.advance now t (.rechecking (.binding c properties versioning deadline))
        (w.signal (.rechecking (.binding c properties versioning deadline))) =
      if w.component c properties = none ∧ now < deadline then none
      else some ((p.concludeRecheck now t (w.bound c properties versioning)).1, .ended none) := by
  rw [← followRecheck_concludeRecheck]
  cases ha : w.component c properties with
  | none =>
    by_cases hd : deadline ≤ now
    · simp [Surroundings.signal, Surroundings.bound, ha, advance, advanceRecheck, Recheck.deadline?,
        recheckTimedOut, hd, Nat.not_lt.mpr hd]
    · simp [Surroundings.signal, ha, advance, advanceRecheck, Recheck.deadline?, hd, Nat.lt_of_not_le hd]
  | some answer =>
    cases answer <;> simp [Surroundings.signal, Surroundings.bound, ha, advance, advanceRecheck,
      recheckBindEnded]

/-- A recheck that waits for the registry goes on in time. What is no answer ends it. -/
theorem advance_lookingUp {observed : Nat} {seen : Connection} {deadline : Instant} :
    p.advance now t (.rechecking (.lookingUp observed seen deadline))
        (w.signal (.rechecking (.lookingUp observed seen deadline))) =
      match w.registry with
      | some answer => some (followRecheck (p.recheckLookedUp t observed seen answer))
      | none => if deadline ≤ now then some (p, .ended none) else none := by
  cases ha : w.registry with
  | none => simp [Surroundings.signal, ha, advance, advanceRecheck, Recheck.deadline?, recheckTimedOut,
      followRecheck]
  | some answer => simp [Surroundings.signal, ha, advance, advanceRecheck]

end Pieces

/-! ## Coming to an end -/

namespace Surroundings

variable {w : Surroundings} {p : Proxy} {t : Ticket} {Q : Proxy → Prop}

theorem brings_ended {result : Option (Except InvocationError Json.Value)} (hQ : Q p) :
    w.Brings t p (.ended result) Q := by
  intro now
  refine ⟨⟨p, .ended⟩, ?_⟩
  intro p' h
  cases h with
  | ended => exact hQ
  | next _ hnext _ => cases hnext

/-- A recheck comes to an end if it can go on at some time and comes to an end from there. -/
theorem brings_of_advance {stage : Stage} (hstage : ∀ result, stage ≠ .ended result)
    (hready : ∀ now, ∃ now', now ≤ now' ∧ ∃ next, p.advance now' t stage (w.signal stage) = some next)
    (hnext : ∀ now p' stage', p.advance now t stage (w.signal stage) = some (p', stage') →
      w.Brings t p' stage' Q) : w.Brings t p stage Q := by
  intro now
  constructor
  · obtain ⟨now', hle, ⟨p₁, stage₁⟩, h⟩ := hready now
    obtain ⟨p', hrest⟩ := (hnext now' p₁ stage₁ h now').1
    exact ⟨p', .next hle h hrest⟩
  · intro p' hgoes
    cases hgoes with
    | ended => exact absurd rfl (hstage _)
    | next _ h hrest => exact (hnext _ _ _ h _).2 p' hrest

theorem brings_binding {c : Component} {properties : Properties} {versioning : Option ApiDefinition}
    {deadline : Instant}
    (hQ : ∀ now, Q (p.concludeRecheck now t (w.bound c properties versioning)).1) :
    w.Brings t p (.rechecking (.binding c properties versioning deadline)) Q := by
  refine brings_of_advance (fun _ => nofun) ?_ ?_
  · intro now
    -- at the deadline the recheck goes on even without an answer
    have hlate : ¬ max now deadline < deadline := Nat.not_lt.mpr (Nat.le_max_right now deadline)
    exact ⟨max now deadline, Nat.le_max_left _ _, _, advance_binding.trans (if_neg fun h => hlate h.2)⟩
  · intro now p' stage' h
    rw [advance_binding] at h
    split at h
    · cases h
    · obtain ⟨rfl, rfl⟩ := Prod.mk.inj (Option.some.inj h)
      exact brings_ended (hQ now)

/-- In its turn, and if no attempt was applied meanwhile, a recheck makes its own. -/
theorem brings_queued {properties : Properties} (hturn : p.hasTurn t = true)
    (hQ : ∀ now, Q (p.concludeRecheck now t (w.attempt p properties)).1) :
    w.Brings t p (.rechecking (.queued p.generation properties)) Q := by
  have hadvance (now : Instant) :
      p.advance now t (.rechecking (.queued p.generation properties)) (.turn w.components) =
        some (followRecheck (p.recheckTurn now t w.components p.generation properties)) :=
    if_pos hturn
  refine brings_of_advance (fun _ => nofun) ?_ ?_
  · intro now
    exact ⟨now, Nat.le_refl _, _, hadvance now⟩
  · intro now p' stage' h
    have hnext := Option.some.inj ((hadvance now).symm.trans h)
    unfold recheckTurn at hnext
    -- the generation is still the one that the recheck has seen
    rw [if_neg (fun h => h rfl)] at hnext
    cases hplan : p.plan w.components properties with
    | error failure =>
      have hattempt : w.attempt p properties = .error failure := by rw [attempt, hplan]
      rw [hplan, followRecheck_concludeRecheck, ← hattempt] at hnext
      obtain ⟨rfl, rfl⟩ := Prod.mk.inj hnext
      exact brings_ended (hQ now)
    | ok planned =>
      obtain ⟨c, versioning⟩ := planned
      have hattempt : w.attempt p properties = w.bound c properties versioning := by
        rw [attempt, hplan]
      rw [hplan] at hnext
      obtain ⟨rfl, rfl⟩ := Prod.mk.inj hnext
      apply brings_binding
      intro now'
      rw [← hattempt]
      exact hQ now'

/-! ## What the answers ask for -/

section Reconciled

variable {e : Entry} {failure : BindFailure}

/-- Without the registry's answer everything stays as it is. -/
theorem reconciled_of_unanswered (h : ∀ found, w.registry ≠ some (.ok found)) :
    w.reconciled p = p.connection := by
  unfold reconciled
  split
  · exact absurd ‹w.registry = _› (h _)
  · exact absurd ‹w.registry = _› (h _)
  · exact absurd ‹w.registry = _› (h _)
  · rfl

theorem reconciled_of_fatal (hf : p.Fatal) : w.reconciled p = p.connection := by
  obtain ⟨reason, message, e, hc⟩ := hf
  simp only [reconciled, hc]

theorem reconciled_of_absent (hr : w.registry = some (.ok none)) (hu : p.isBound = false) :
    w.reconciled p = p.connection := by
  cases hc : p.connection with
  | bound b => simp [isBound, hc] at hu
  | unbound reason message fatal => simp only [reconciled, hc, hr]

theorem reconciled_of_gone (hr : w.registry = some (.ok none)) (hb : p.isBound = true) :
    w.reconciled p = .unbound .noLiveProvider "provider no longer registered" none := by
  obtain ⟨b, hc⟩ := isBound_iff.mp hb
  simp only [reconciled, hc, hr]

/-- The provider that the registry names is the one that the proxy is bound to. -/
theorem reconciled_of_same {b : Bound} (hr : w.registry = some (.ok (some e)))
    (hc : p.connection = .bound b) (hsame : b.binding.properties = e.properties) :
    w.reconciled p = p.connection := by
  simp only [reconciled, hc, hr, if_pos hsame.symm]

/-- The registry names a provider to which the proxy is not bound and could be. -/
structure Asks (w : Surroundings) (p : Proxy) (e : Entry) : Prop where
  named : w.registry = some (.ok (some e))
  not_fatal : ¬ p.Fatal
  changed : ∀ b, p.connection = .bound b → b.binding.properties ≠ e.properties

theorem Asks.of_mendable (hr : w.registry = some (.ok (some e))) (hm : p.Mendable) : w.Asks p e :=
  ⟨hr, hm.not_fatal, fun b hb => by simp [Mendable, hb] at hm⟩

theorem Asks.of_bound {b : Bound} (hr : w.registry = some (.ok (some e)))
    (hc : p.connection = .bound b) (hchanged : b.binding.properties ≠ e.properties) : w.Asks p e where
  named := hr
  not_fatal := by simp [Fatal, hc]
  changed c h := Connection.bound.inj (hc.symm.trans h) ▸ hchanged

theorem Asks.reconciled (h : w.Asks p e) :
    w.reconciled p = p.connectionAfter (w.attempt p e.properties) := by
  cases hc : p.connection with
  | bound b => simp only [Surroundings.reconciled, hc, h.named, if_neg (h.changed b hc).symm]
  | unbound reason message fatal =>
    cases fatal with
    | none => simp only [Surroundings.reconciled, hc, h.named]
    | some cause => exact absurd ⟨reason, message, cause, hc⟩ h.not_fatal

/-- A binding is not given up for a provider that cannot be bound. -/
theorem reconciled_of_kept (hr : w.registry = some (.ok (some e))) (hb : p.isBound = true)
    (hfailed : w.attempt p e.properties = .error failure) : w.reconciled p = p.connection := by
  obtain ⟨b, hc⟩ := isBound_iff.mp hb
  by_cases hsame : b.binding.properties = e.properties
  · exact reconciled_of_same hr hc hsame
  · rw [(Asks.of_bound hr hc hsame).reconciled, hfailed, hc]
    simp only [connectionAfter, hc]

theorem reconciled_of_failed (hr : w.registry = some (.ok (some e))) (hm : p.Mendable)
    (hfailed : w.attempt p e.properties = .error failure) :
    w.reconciled p = failure.connection := by
  rw [(Asks.of_mendable hr hm).reconciled, hfailed]
  obtain ⟨reason, message, hc⟩ := hm
  simp only [connectionAfter, hc]

end Reconciled

/-! ## From the beginning to the end -/

/-- What is known of the proxy that a recheck of `p` leaves. -/
structure Reconciles (w : Surroundings) (p p' : Proxy) : Prop where
  connection : p'.connection = w.reconciled p
  line : p'.line = []
  descriptor : p'.descriptor = p.descriptor
  /-- An attempt is applied only where one is asked for, and to a binding only if it gives another. -/
  generation : p'.generation = p.generation ∨
    ∃ e, w.Asks p e ∧ (p.isBound = true → ∃ made, w.attempt p e.properties = .ok made)

/-- The proxy while a recheck of `p` waits: all that has changed is the line. -/
structure Awaits (p p₁ : Proxy) (line : List Ticket) : Prop where
  connection : p₁.connection = p.connection
  generation : p₁.generation = p.generation
  descriptor : p₁.descriptor = p.descriptor
  line : p₁.line = line

variable {p₁ : Proxy}

/-- A recheck that finds nothing to do leaves the proxy reconciled, if nothing is to be done. -/
theorem Awaits.kept (h : Awaits p p₁ []) (hsame : w.reconciled p = p.connection) :
    w.Reconciles p p₁ :=
  ⟨h.connection.trans hsame.symm, h.line, h.descriptor, .inl h.generation⟩

theorem Awaits.lineUp (h : Awaits p p₁ []) : Awaits p (p₁.lineUp t) [t] :=
  ⟨h.connection, h.generation, h.descriptor, by rw [lineUp_line, h.line, List.nil_append]⟩

/-- The attempt of a recheck leaves the proxy reconciled, if an attempt is asked for. -/
theorem Awaits.concludeRecheck {e : Entry} (h : Awaits p p₁ [t]) (hasks : w.Asks p e) (now : Instant) :
    w.Reconciles p (p₁.concludeRecheck now t (w.attempt p₁ e.properties)).1 where
  connection := by
    rw [concludeRecheck_connection, w.attempt_congr e.properties h.descriptor, hasks.reconciled]
    simp only [connectionAfter, h.connection, h.generation]
  line := by rw [concludeRecheck_line, h.line, List.erase_cons_head]
  descriptor := by rw [concludeRecheck_descriptor, h.descriptor]
  generation := by
    rw [w.attempt_congr e.properties h.descriptor]
    -- only a binding outlives an attempt that is not applied
    cases hmade : w.attempt p e.properties with
    | ok made => exact .inr ⟨e, hasks, fun _ => ⟨made, hmade⟩⟩
    | error failure =>
      cases hc : p.connection with
      | bound b => exact .inl (by simp [Proxy.concludeRecheck, h.connection, hc, h.generation])
      | unbound reason message fatal => exact .inr ⟨e, hasks, fun hb => by simp [isBound, hc] at hb⟩

theorem Awaits.brings_queued {e : Entry} (h : Awaits p p₁ [t]) (hasks : w.Asks p e) :
    w.Brings t p₁ (.rechecking (.queued p.generation e.properties)) (w.Reconciles p) := by
  rw [← h.generation]
  exact Surroundings.brings_queued (by rw [hasTurn, h.line]; exact decide_eq_true rfl)
    (h.concludeRecheck hasks)

/-- What the registry answers, the recheck does, and leaves the proxy reconciled. -/
theorem Awaits.brings_lookedUp {answer : Except RegistryError (Option Entry)} {p' : Proxy}
    {stage' : Stage} (hw : Awaits p p₁ []) (hfatal : ¬ p.Fatal) (hanswer : w.registry = some answer)
    (h : followRecheck (p₁.recheckLookedUp t p.generation p.connection answer) = (p', stage')) :
    w.Brings t p' stage' (w.Reconciles p) := by
  match answer, hanswer, h with
  | .error e, hanswer, h =>
    obtain ⟨rfl, rfl⟩ := Prod.mk.inj h
    exact brings_ended (hw.kept (reconciled_of_unanswered (by simp [hanswer])))
  | .ok found, hanswer, h =>
    cases hc : p.connection with
    | bound b =>
      have hb : p.isBound = true := isBound_iff.mpr ⟨b, hc⟩
      rw [hc] at h
      cases found with
      | none =>
        obtain ⟨rfl, rfl⟩ := Prod.mk.inj h
        have hdown := disconnect_eq (hw.connection.trans hc) .noLiveProvider
          "provider no longer registered"
        refine brings_ended ?_
        rw [hdown]
        exact ⟨(reconciled_of_gone hanswer hb).symm, hw.line, hw.descriptor, .inl hw.generation⟩
      | some e =>
        by_cases hsame : e.properties = b.binding.properties
        · simp only [recheckLookedUp, if_pos hsame] at h
          obtain ⟨rfl, rfl⟩ := Prod.mk.inj h
          exact brings_ended (hw.kept (reconciled_of_same hanswer hc hsame.symm))
        · simp only [recheckLookedUp, if_neg hsame] at h
          obtain ⟨rfl, rfl⟩ := Prod.mk.inj h
          exact hw.lineUp.brings_queued (.of_bound hanswer hc (Ne.symm hsame))
    | unbound reason message fatal =>
      have hu : p.isBound = false := by simp [isBound, hc]
      rw [hc] at h
      cases found with
      | none =>
        obtain ⟨rfl, rfl⟩ := Prod.mk.inj h
        exact brings_ended (hw.kept (reconciled_of_absent hanswer hu))
      | some e =>
        obtain ⟨rfl, rfl⟩ := Prod.mk.inj h
        exact hw.lineUp.brings_queued (.of_mendable hanswer (mendable_of_not_fatal hu hfatal))

/-- A recheck that has asked the registry comes to an end, whatever the answer is and if there is none. -/
theorem Awaits.brings_lookingUp {deadline : Instant} (hw : Awaits p p₁ []) (hfatal : ¬ p.Fatal) :
    w.Brings t p₁ (.rechecking (.lookingUp p.generation p.connection deadline)) (w.Reconciles p) := by
  refine brings_of_advance (fun _ => nofun) ?_ ?_
  · intro now
    refine ⟨max now deadline, Nat.le_max_left _ _, ?_⟩
    rw [advance_lookingUp]
    cases w.registry with
    | none => exact ⟨_, if_pos (Nat.le_max_right now deadline)⟩
    | some answer => exact ⟨_, rfl⟩
  · intro now p' stage' h
    rw [advance_lookingUp] at h
    cases hanswer : w.registry with
    | none =>
      simp only [hanswer] at h
      split at h
      · obtain ⟨rfl, rfl⟩ := Prod.mk.inj (Option.some.inj h)
        exact brings_ended (hw.kept (reconciled_of_unanswered (by simp [hanswer])))
      · cases h
    | some answer =>
      simp only [hanswer] at h
      exact hw.brings_lookedUp hfatal hanswer (Option.some.inj h)

/-- A recheck that finds nobody in line comes to an end, and leaves the proxy reconciled. -/
theorem brings_reconciled (hline : p.line = []) : w.Brings t p .unstarted (w.Reconciles p) := by
  refine brings_of_advance (fun _ => nofun) (fun now => ⟨now, Nat.le_refl _, _, rfl⟩) ?_
  intro now p' stage' h
  have hmove : Move p now t .unstarted .recheck (p', stage') := advance_move h
  cases hmove with
  | recheckRefused hf =>
    exact brings_ended ⟨(reconciled_of_fatal hf).symm, hline, rfl, .inl rfl⟩
  | recheckLookedUp hf =>
    have hw : Awaits p { p with lookups := p.lookups + 1 } [] := ⟨rfl, rfl, rfl, hline⟩
    exact hw.brings_lookingUp hf

end Surroundings

end Proxy

end ServiceBinding
