import ServiceBinding.Proofs.Breaker.Admission

/-!
# Asking whether a call would be let through

A breaker can be asked whether a call would be let through, without making one. It answers by the phase
of its circuit alone, and takes every half-open circuit for one that lets calls through. But a half-open
circuit lets one trial through and holds the next one back for a sleep window. So the answer is no promise
while a trial is under way (`Run.TrialUnderWay`), and only then: `allowed_iff_granted_or_trial`.
-/

namespace ServiceBinding

/-- Whether a trial is under way at `now` that holds the next one back. -/
def CircuitState.onTrial (sleepWindow : Span) (now : Instant) : CircuitState → Bool
  | .halfOpen (some started) => now - started < sleepWindow
  | _ => false

namespace Breaker

section

variable (b : Breaker) (now : Instant)

theorem granted_iff :
    (∃ p, (b.tryAcquire now).2 = some p) ↔
      b.circuit.refuses b.settings.sleepWindow now = false := by
  have hreading := (b.tryAcquire_move now).permission
  have hgranted : (b.tryAcquire now).2 =
      if b.circuit.refuses b.settings.sleepWindow now then none
      else if b.circuit = .closed then some .normal else some .trial :=
    Reading.permission.inj hreading
  rw [hgranted]
  cases b.circuit.refuses b.settings.sleepWindow now with
  | true => simp
  | false =>
    simp only [Bool.false_eq_true, if_false, iff_true]
    split
    · exact ⟨.normal, rfl⟩
    · exact ⟨.trial, rfl⟩

/-- Who asks is told of no trial that is under way. -/
theorem allowed_iff :
    (b.isAllowed now).2 = true ↔
      b.circuit.refuses b.settings.sleepWindow now = false ∨
        b.circuit.onTrial b.settings.sleepWindow now = true := by
  obtain ⟨settings, circuit, window, requests, rejections⟩ := b
  cases circuit with
  | closed => simp [isAllowed, phase, wake, CircuitState.phase, CircuitState.refuses]
  | opened since =>
    by_cases hover : settings.sleepWindow ≤ now - since
    · simp [isAllowed, phase, wake, hover, CircuitState.phase, CircuitState.refuses]
    · have hearly : now - since < settings.sleepWindow := Nat.lt_of_not_le hover
      simp [isAllowed, phase, wake, hover, hearly, CircuitState.phase, CircuitState.refuses,
        CircuitState.onTrial]
  | halfOpen started =>
    cases started with
    | none => simp [isAllowed, phase, wake, CircuitState.phase, CircuitState.refuses]
    | some started =>
      have hends := Nat.lt_or_ge (now - started) settings.sleepWindow
      simpa [isAllowed, phase, wake, CircuitState.phase, CircuitState.refuses,
        CircuitState.onTrial] using hends.symm

end

/-- A trial that is under way holds the next one back. -/
theorem refuses_of_onTrial {c : CircuitState} {sleepWindow : Span} {now : Instant}
    (h : c.onTrial sleepWindow now = true) : c.refuses sleepWindow now = true := by
  unfold CircuitState.onTrial at h
  split at h
  · exact h
  · cases h

namespace Run

variable {r : Run} {n : Nat} {t : Instant}

/-- A trial was granted in a step from which the sleep window lasts beyond `t`, and the circuit has been
neither opened nor closed since. -/
def TrialUnderWay (r : Run) (n : Nat) (t : Instant) : Prop :=
  ∃ m, r.Since m n ∧ (∀ k, m < k → k < n → ¬ r.Opens k) ∧ r.GrantsTrial m ∧
    t < r.time m + r.settings.sleepWindow

/-- A trial is under way if the last step granted it, or if it was before that step and the step neither
opened nor closed the circuit. -/
theorem trialUnderWay_succ :
    r.TrialUnderWay (n + 1) t ↔
      r.GrantsTrial n ∧ t < r.time n + r.settings.sleepWindow ∨
        ¬ r.Closes n ∧ ¬ r.Opens n ∧ r.TrialUnderWay n t := by
  constructor
  · rintro ⟨m, hs, hopens, htrial, ht⟩
    rcases since_succ.mp hs with rfl | ⟨hs, hcloses⟩
    · exact .inl ⟨htrial, ht⟩
    · refine .inr ⟨hcloses, hopens n hs.1 (Nat.lt_succ_self n), m, hs, ?_, htrial, ht⟩
      intro k hmk hkn
      exact hopens k hmk (Nat.lt_succ_of_lt hkn)
  · rintro (⟨htrial, ht⟩ | ⟨hcloses, hopens, m, hs, hearlier, htrial, ht⟩)
    · refine ⟨n, since_succ.mpr (.inl rfl), ?_, htrial, ht⟩
      intro k hnk hkn
      omega
    · refine ⟨m, since_succ.mpr (.inr ⟨hs, hcloses⟩), ?_, htrial, ht⟩
      intro k hmk hkn
      rcases Nat.lt_or_eq_of_le (Nat.le_of_lt_succ hkn) with hlt | rfl
      · exact hearlier k hmk hlt
      · exact hopens

/-- The state of the circuit knows whether a trial is under way. -/
theorem onTrial_iff (r : Run) (n : Nat) {t : Instant} (ht : ∀ m < n, r.time m ≤ t) :
    (r.state n).circuit.onTrial r.settings.sleepWindow t = true ↔ r.TrialUnderWay n t := by
  induction n with
  | zero =>
    refine iff_of_false Bool.false_ne_true ?_
    rintro ⟨m, hs, -⟩
    exact Nat.not_lt_zero m hs.1
  | succ n ih =>
    have hn : r.time n ≤ t := ht n (Nat.lt_succ_self n)
    have hpast := ih fun m hm => ht m (Nat.lt_succ_of_lt hm)
    rw [trialUnderWay_succ]
    cases r.change n with
    | opens h hc =>
      rw [hc]
      refine iff_of_false Bool.false_ne_true ?_
      rintro (⟨htrial, -⟩ | ⟨-, hopens, -⟩)
      · exact absurd (Opens.phase h ▸ GrantsTrial.phase htrial) nofun
      · exact hopens h
    | tries h hn' hr hc =>
      have hcloses : ¬ r.Closes n := fun hl => not_marked_of_closes hl (.inr h)
      rw [hc]
      have hlasts : t - r.time n < r.settings.sleepWindow ↔ t < r.time n + r.settings.sleepWindow :=
        Nat.sub_lt_iff_lt_add' hn
      constructor
      · intro htrial
        exact .inl ⟨h, hlasts.mp (by simpa [CircuitState.onTrial] using htrial)⟩
      · rintro (⟨-, hlt⟩ | ⟨-, -, m, hs, -, -, hlt⟩)
        · simpa [CircuitState.onTrial] using hlasts.mpr hlt
        · -- a trial before this one would have been granted earlier still
          have hearlier : r.time m ≤ r.time n := r.mono (Nat.le_of_lt hs.1)
          have hlt' : t < r.time n + r.settings.sleepWindow :=
            Nat.lt_of_lt_of_le hlt (Nat.add_le_add_right hearlier _)
          simpa [CircuitState.onTrial] using hlasts.mpr hlt'
    | closes h hc =>
      rw [hc]
      refine iff_of_false Bool.false_ne_true ?_
      rintro (⟨htrial, -⟩ | ⟨hcloses, -⟩)
      · exact not_marked_of_closes h (.inr htrial)
      · exact hcloses h
    | keeps ho htr hl hc =>
      have htrial : ¬ r.GrantsTrial n := htr
      rw [hc, hpast]
      simp only [htrial, false_and, false_or]
      exact ⟨fun h => ⟨hl, ho, h⟩, fun h => h.2.2⟩
    | elapses ho htr hl hs hd hc =>
      have htrial : ¬ r.GrantsTrial n := htr
      -- neither before nor after the circuit turns half open is a trial under way
      have hnone : ¬ r.TrialUnderWay n t := by
        rw [← hpast, hs]
        exact Bool.false_ne_true
      rw [hc]
      refine iff_of_false Bool.false_ne_true ?_
      rintro (⟨h, -⟩ | ⟨-, -, h⟩)
      · exact htrial h
      · exact hnone h

end Run

/-- What the answer is worth. In every state of a run, and at every instant from the last operation on, a
call is said to be allowed exactly if a call that is made then is let through or a trial is under way; and
while a trial is under way no call is let through. So the answer and the call agree unless a trial is
under way, and a call that is said not to be allowed is never let through. -/
theorem allowed_iff_granted_or_trial (r : Run) (n : Nat) {t : Instant} (ht : ∀ m < n, r.time m ≤ t) :
    (((r.state n).isAllowed t).2 = true ↔
      (∃ p, ((r.state n).tryAcquire t).2 = some p) ∨ r.TrialUnderWay n t) ∧
    (r.TrialUnderWay n t → ((r.state n).tryAcquire t).2 = none) := by
  have htrial := r.onTrial_iff n ht
  have hgranted := (r.state n).granted_iff t
  rw [Run.settings_state] at hgranted
  constructor
  · rw [allowed_iff, Run.settings_state, hgranted, htrial]
  · intro hunder
    have hrefuses := refuses_of_onTrial (htrial.mpr hunder)
    rw [← Option.not_isSome_iff_eq_none, Option.isSome_iff_exists, hgranted, hrefuses]
    exact Bool.noConfusion

/-- A second after a trial was granted a call is said to be allowed and is not let through. -/
theorem allowed_iff_granted_or_trial_trialRun :
    (∀ m < 2, Sample.trialRun.time m ≤ Span.ofSeconds 6) ∧
      ((Sample.trialRun.state 2).isAllowed (Span.ofSeconds 6)).2 = true ∧
      Sample.trialRun.TrialUnderWay 2 (Span.ofSeconds 6) ∧
      ((Sample.trialRun.state 2).tryAcquire (Span.ofSeconds 6)).2 = none := by
  have hpast : ∀ m < 2, Sample.trialRun.time m ≤ Span.ofSeconds 6 := by decide
  have hallowed : ((Sample.trialRun.state 2).isAllowed (Span.ofSeconds 6)).2 = true := rfl
  obtain ⟨hlaw, hrefused⟩ := allowed_iff_granted_or_trial Sample.trialRun 2 hpast
  have hunder : Sample.trialRun.TrialUnderWay 2 (Span.ofSeconds 6) := by
    refine (hlaw.mp hallowed).resolve_left ?_
    rintro ⟨p, hp⟩
    cases hp
  exact ⟨hpast, hallowed, hunder, hrefused hunder⟩

/-- The answer and the call do not agree in every state of a run. -/
theorem allowed_and_refused :
    ¬ ∀ (r : Run) (n : Nat) (t : Instant), (∀ m < n, r.time m ≤ t) →
      (((r.state n).isAllowed t).2 = true ↔ ∃ p, ((r.state n).tryAcquire t).2 = some p) := by
  intro hagree
  have hpast : ∀ m < 2, Sample.trialRun.time m ≤ Span.ofSeconds 6 := by decide
  obtain ⟨p, hp⟩ := (hagree Sample.trialRun 2 (Span.ofSeconds 6) hpast).mp rfl
  cases hp

end Breaker

end ServiceBinding
