import ServiceBinding.Breaker.Operation

/-!
# What an operation can do to a circuit breaker

`Move` lists it, with one rule for each way an operation can come out: the guards it has passed, the
breaker it leaves and what it shows. Everything known of a step of a run is derived from
`perform_move`, without opening the operations again. `Move.change` is the list seen from the
circuit: it is opened, tried, closed, or left as it is but for an open one whose sleep window has
passed.
-/

namespace ServiceBinding

/-- Whether a call at `now` is refused. -/
def CircuitState.refuses (sleepWindow : Span) (now : Instant) : CircuitState → Bool
  | .closed => false
  | .opened since => now - since < sleepWindow
  | .halfOpen (some started) => now - started < sleepWindow
  | .halfOpen none => false

namespace Breaker

/-! ## Looking at a circuit -/

/-- Looking at a circuit changes nothing, unless it is open and its sleep window has passed. -/
theorem wake_cases (b : Breaker) (now : Instant) :
    b.wake now = b ∨
      ∃ since, b.circuit = .opened since ∧ b.settings.sleepWindow ≤ now - since ∧
        b.wake now = { b with circuit := .halfOpen none } := by
  unfold wake
  split
  · rename_i since hc
    split
    · rename_i hs
      exact .inr ⟨since, hc, hs, rfl⟩
    · exact .inl rfl
  · exact .inl rfl

@[simp] theorem wake_settings (b : Breaker) (now : Instant) :
    (b.wake now).settings = b.settings := by
  rcases b.wake_cases now with h | ⟨since, -, -, h⟩ <;> rw [h]

@[simp] theorem wake_window (b : Breaker) (now : Instant) : (b.wake now).window = b.window := by
  rcases b.wake_cases now with h | ⟨since, -, -, h⟩ <;> rw [h]

/-! ## Moves -/

/-- What an operation can make of a breaker, and what it shows. -/
inductive Move (b : Breaker) (now : Instant) : Operation → Breaker × Reading → Prop
  | admitted (hc : b.circuit = .closed) :
      Move b now .acquire
        ({ b with totalRequests := b.totalRequests + 1 }, .permission (some .normal))
  | tried (hc : b.circuit ≠ .closed)
      (hr : b.circuit.refuses b.settings.sleepWindow now = false) :
      Move b now .acquire
        ({ b with circuit := .halfOpen (some now), totalRequests := b.totalRequests + 1 },
          .permission (some .trial))
  | refused (hr : b.circuit.refuses b.settings.sleepWindow now = true) :
      Move b now .acquire
        ({ b with
            totalRequests := b.totalRequests + 1
            totalRejections := b.totalRejections + 1 },
          .permission none)
  | counted {p o} (hc : b.circuit = .closed) (ho : o ≠ .infrastructureFailure) :
      Move b now (.record p o) ({ b with window := b.window.record now o }, .nothing)
  /-- A failure that leaves the circuit closed. -/
  | endured {p} (hc : b.circuit = .closed)
      (hs : shouldOpen b.settings ((b.window.record now .infrastructureFailure).health now).2 =
        false) :
      Move b now (.record p .infrastructureFailure)
        ({ b with window := ((b.window.record now .infrastructureFailure).health now).1 }, .nothing)
  | opened {p} (hc : b.circuit = .closed)
      (hs : shouldOpen b.settings ((b.window.record now .infrastructureFailure).health now).2 =
        true) :
      Move b now (.record p .infrastructureFailure)
        ({ b with
            circuit := .opened now
            window := ((b.window.record now .infrastructureFailure).health now).1 },
          .nothing)
  /-- A trial that failed. -/
  | reopened {started} (hc : b.circuit = .halfOpen started) :
      Move b now (.record .trial .infrastructureFailure)
        ({ b with circuit := .opened now }, .nothing)
  /-- A trial that came through. -/
  | mended {started o} (hc : b.circuit = .halfOpen started) (ho : o ≠ .infrastructureFailure) :
      Move b now (.record .trial o)
        ({ b with circuit := .closed, window := b.window.reset }, .nothing)
  | ignored {p o} (hc : b.circuit ≠ .closed)
      (hp : b.circuit.phase = .halfOpen → p = .normal) : Move b now (.record p o) (b, .nothing)
  | phase : Move b now .phase (b.wake now, .phase (b.wake now).circuit.phase)
  | allowed : Move b now .allowed (b.wake now, .allowed ((b.wake now).circuit.phase ≠ .opened))
  | health : Move b now .health ((b.health now).1, .health (b.health now).2)
  | stats :
      Move b now .stats
        (((b.wake now).health now).1,
          .stats ⟨b.settings.name, (b.wake now).circuit.phase, ((b.wake now).health now).2,
            b.totalRequests, b.totalRejections⟩)
  | reset : Move b now .reset (b.reset, .nothing)
  | forcedOpen : Move b now .forceOpen (b.forceOpen now, .nothing)

section

variable (b : Breaker) (now : Instant)

theorem tryAcquire_move :
    Move b now .acquire ((b.tryAcquire now).map id .permission) := by
  obtain ⟨settings, circuit, window, requests, rejections⟩ := b
  unfold tryAcquire wake
  cases circuit with
  | closed => exact .admitted rfl
  | opened since =>
    by_cases hs : settings.sleepWindow ≤ now - since
    · simp only [hs, if_true]
      exact .tried nofun (by simpa [CircuitState.refuses] using hs)
    · simp only [hs, if_false]
      exact .refused (by simpa [CircuitState.refuses] using hs)
  | halfOpen started =>
    cases started with
    | none => exact .tried nofun rfl
    | some started =>
      by_cases hs : now - started < settings.sleepWindow
      · simp only [hs, if_true]
        exact .refused (by simpa [CircuitState.refuses] using hs)
      · simp only [hs, if_false]
        exact .tried nofun (by simpa [CircuitState.refuses] using hs)

theorem record_move (p : Permission) (o : Outcome) :
    Move b now (.record p o) (b.record now p o, .nothing) := by
  unfold record
  split
  · rename_i started hc
    split
    · exact .reopened hc
    · rename_i ho
      exact .mended hc ho
  · rename_i hc
    split
    · dsimp only
      split
      · rename_i hs
        exact .opened hc hs
      · rename_i hs
        exact .endured hc (by simpa using hs)
    · rename_i ho
      exact .counted hc ho
  · rename_i p _ _ hclosed htrial
    refine .ignored hclosed fun hp => ?_
    cases hc : b.circuit with
    | closed => exact absurd hc hclosed
    | opened since => simp [hc, CircuitState.phase] at hp
    | halfOpen started =>
      cases p with
      | normal => rfl
      | trial => exact absurd rfl (htrial started hc)

/-- Whatever an operation does is one of the moves. -/
theorem perform_move (o : Operation) : Move b now o (b.perform now o) := by
  cases o with
  | acquire => exact b.tryAcquire_move now
  | record p o => exact b.record_move now p o
  | phase => exact .phase
  | allowed => exact .allowed
  | health => exact .health
  | stats =>
    have hstats : b.perform now .stats =
        (((b.wake now).health now).1,
          .stats ⟨b.settings.name, (b.wake now).circuit.phase, ((b.wake now).health now).2,
            b.totalRequests, b.totalRejections⟩) := by
      rcases b.wake_cases now with h | ⟨since, -, -, h⟩ <;>
        simp only [perform, stats, Breaker.phase, h] <;> rfl
    rw [hstats]
    exact .stats
  | reset => exact .reset
  | forceOpen => exact .forcedOpen

end

/-! ## Changes of the circuit -/

/-- The operation opens the circuit: by hand, or by an outcome. -/
def Opening (b : Breaker) (o : Operation) (b' : Breaker) : Prop :=
  o = .forceOpen ∨ b.circuit.phase ≠ .opened ∧ b'.circuit.phase = .opened

/-- The operation closes the circuit: by hand, or by an outcome. -/
def Closing (b : Breaker) (o : Operation) (b' : Breaker) : Prop :=
  o = .reset ∨ b.circuit.phase ≠ .closed ∧ b'.circuit.phase = .closed

/-- What becomes of the circuit. -/
inductive Change (b : Breaker) (now : Instant) (o : Operation) (b' : Breaker) (reading : Reading) :
    Prop
  | opens (h : Opening b o b') (hc : b'.circuit = .opened now)
  | tries (h : reading = .permission (some .trial)) (hn : b.circuit ≠ .closed)
      (hr : b.circuit.refuses b.settings.sleepWindow now = false)
      (hc : b'.circuit = .halfOpen (some now))
  | closes (h : Closing b o b') (hc : b'.circuit = .closed)
      (hn : o = .reset ∨ b.circuit.phase = .halfOpen)
  | keeps (ho : ¬ Opening b o b') (ht : reading ≠ .permission (some .trial))
      (hl : ¬ Closing b o b') (hc : b'.circuit = b.circuit)
  /-- The sleep window has passed. -/
  | elapses (ho : ¬ Opening b o b') (ht : reading ≠ .permission (some .trial))
      (hl : ¬ Closing b o b') {since : Instant} (hs : b.circuit = .opened since)
      (hd : b.settings.sleepWindow ≤ now - since) (hc : b'.circuit = .halfOpen none)

section

variable {b b' : Breaker} {now : Instant} {o : Operation} {reading : Reading}

theorem Change.of_eq (ho : o ≠ .forceOpen) (ht : reading ≠ .permission (some .trial))
    (hl : o ≠ .reset) (hc : b'.circuit = b.circuit) : Change b now o b' reading := by
  refine .keeps ?_ ht ?_ hc
  · rintro (h | ⟨hn, h⟩)
    · exact ho h
    · exact hn (hc ▸ h)
  · rintro (h | ⟨hn, h⟩)
    · exact hl h
    · exact hn (hc ▸ h)

theorem Change.of_wake (ho : o ≠ .forceOpen) (ht : reading ≠ .permission (some .trial))
    (hl : o ≠ .reset) (hc : b'.circuit = (b.wake now).circuit) : Change b now o b' reading := by
  rcases b.wake_cases now with h | ⟨since, hs, hd, h⟩
  · exact .of_eq ho ht hl (by rw [hc, h])
  · rw [h] at hc
    refine .elapses ?_ ht ?_ hs hd hc
    · rintro (h | ⟨-, h⟩)
      · exact ho h
      · simp [hc, CircuitState.phase] at h
    · rintro (h | ⟨-, h⟩)
      · exact hl h
      · simp [hc, CircuitState.phase] at h

theorem Move.change (m : Move b now o (b', reading)) : Change b now o b' reading := by
  cases m with
  | admitted | refused | counted | endured | health | ignored => exact .of_eq nofun nofun nofun rfl
  | phase | allowed | stats => exact .of_wake nofun nofun nofun rfl
  | tried hc hr => exact .tries rfl hc hr rfl
  | opened hc => exact .opens (.inr ⟨by simp [hc, CircuitState.phase], rfl⟩) rfl
  | reopened hc => exact .opens (.inr ⟨by simp [hc, CircuitState.phase], rfl⟩) rfl
  | mended hc =>
    have hphase : b.circuit.phase = .halfOpen := by simp [hc, CircuitState.phase]
    exact .closes (.inr ⟨by simp [hphase], rfl⟩) rfl (.inr hphase)
  | reset => exact .closes (.inl rfl) rfl (.inl rfl)
  | forcedOpen => exact .opens (.inl rfl) rfl

theorem Move.settings (m : Move b now o (b', reading)) : b'.settings = b.settings := by
  cases m with
  | phase | allowed => exact b.wake_settings now
  | stats => exact b.wake_settings now
  | _ => rfl

/-- Opening leaves an open circuit. -/
theorem Move.phase_of_opening (m : Move b now o (b', reading)) (h : Opening b o b') :
    b'.circuit.phase = .opened := by
  rcases h with rfl | ⟨-, h⟩
  · cases m
    rfl
  · exact h

theorem Move.phase_of_trial (m : Move b now o (b', .permission (some .trial))) :
    b'.circuit.phase = .halfOpen := by
  cases m
  rfl

theorem Move.phase_of_closing (m : Move b now o (b', reading)) (h : Closing b o b') :
    b'.circuit.phase = .closed := by
  rcases h with rfl | ⟨-, h⟩
  · cases m
    rfl
  · exact h

/-- A call is let through, as a trial if the circuit is not closed, or refused. -/
theorem Move.permission (m : Move b now .acquire (b', reading)) :
    reading = .permission
      (if b.circuit.refuses b.settings.sleepWindow now then none
      else if b.circuit = .closed then some .normal else some .trial) := by
  cases m with
  | admitted hc => simp [hc, CircuitState.refuses]
  | tried hc hr => simp [hc, hr]
  | refused hr => simp [hr]

/-- A call is counted, and once more if it is refused. -/
theorem Move.totals_of_acquire {p : Option Permission} (m : Move b now .acquire (b', .permission p)) :
    b'.totalRequests = b.totalRequests + 1 ∧
      b'.totalRejections = b.totalRejections + if p = none then 1 else 0 := by
  cases m with
  | admitted | tried | refused => exact ⟨rfl, rfl⟩

/-- Nothing else counts as a call. -/
theorem Move.totals_of_others (m : Move b now o (b', reading)) (ho : o ≠ .acquire) :
    b'.totalRequests = b.totalRequests ∧ b'.totalRejections = b.totalRejections := by
  cases m with
  | admitted | tried | refused => exact absurd rfl ho
  | phase | allowed | stats =>
    rcases b.wake_cases now with h | ⟨since, -, -, h⟩
    · simp [Breaker.health, h]
    · simp [Breaker.health, h]
  | _ => exact ⟨rfl, rfl⟩

theorem totals_of_tryAcquire {p : Option Permission} (h : b.tryAcquire now = (b', p)) :
    b'.totalRequests = b.totalRequests + 1 ∧
      b'.totalRejections = b.totalRejections + if p = none then 1 else 0 := by
  have hmove := b.tryAcquire_move now
  rw [h] at hmove
  exact hmove.totals_of_acquire

theorem totals_of_record (b : Breaker) (now : Instant) (p : Permission) (o : Outcome) :
    (b.record now p o).totalRequests = b.totalRequests ∧
      (b.record now p o).totalRejections = b.totalRejections :=
  (b.record_move now p o).totals_of_others nofun

end

end Breaker

end ServiceBinding
