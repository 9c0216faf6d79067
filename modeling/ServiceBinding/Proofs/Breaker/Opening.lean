import ServiceBinding.Command.Settings
import ServiceBinding.Proofs.Breaker.Counted

/-!
# When a circuit opens and closes

A closed circuit is opened by an infrastructure failure with which the window holds enough calls, and
enough failures among them. The decision is made on a percentage that is rounded down and computed in
words; as long as a hundred times the failures fit the word, it is the decision on the exact share
(`shouldOpen_iff`). Besides, a circuit is opened by hand or by a failed trial, and closed by hand or by
a trial that came through (`Move.opening_iff`, `Move.closing_iff`); it is closed with an empty window.
-/

namespace ServiceBinding

namespace Health

variable {h : Health}

/-- The percentage is exact but for its rounding, and at most a hundred. -/
theorem errorPercentage_eq (hle : h.errors ≤ h.total) (hfit : 100 * h.errors < Width.bound64) :
    h.errorPercentage = 100 * h.errors / h.total ∧ h.errorPercentage ≤ 100 := by
  rw [Nat.mul_comm] at hfit ⊢
  have hmod : h.errors * 100 % Width.bound64 = h.errors * 100 := Nat.mod_eq_of_lt hfit
  rcases Nat.eq_zero_or_pos h.total with hzero | hpos
  · simp [errorPercentage, hzero]
  · have hhundred : h.errors * 100 / h.total ≤ 100 := by
      apply Nat.div_le_of_le_mul
      exact Nat.mul_le_mul_right 100 hle
    have hword : h.errors * 100 / h.total % Width.bound32 = h.errors * 100 / h.total := by
      have hbound : 100 < Width.bound32 := by decide
      exact Nat.mod_eq_of_lt (Nat.lt_of_le_of_lt hhundred hbound)
    have hne : h.total ≠ 0 := by omega
    have heq : h.errorPercentage = h.errors * 100 / h.total := by
      rw [errorPercentage, if_neg hne, hmod, hword]
    exact ⟨heq, heq ▸ hhundred⟩

/-- Rounding the percentage down does not change how it compares with a whole number. -/
theorem le_errorPercentage_iff (hpos : 0 < h.total) (hle : h.errors ≤ h.total)
    (hfit : 100 * h.errors < Width.bound64) (threshold : Nat) :
    threshold ≤ h.errorPercentage ↔ threshold * h.total ≤ 100 * h.errors := by
  rw [(errorPercentage_eq hle hfit).1, Nat.le_div_iff_mul_le hpos]

end Health

namespace Window

/-- There are no more failures than calls. -/
theorem errors_le_total (buckets : List Bucket) :
    (counts buckets).errors ≤ (counts buckets).total := by
  rw [counts_eq]
  exact Nat.le_add_left _ _

end Window

namespace Breaker

theorem shouldOpen_iff {s : BreakerSettings} {h : Health} (hpos : 0 < h.total)
    (hle : h.errors ≤ h.total) (hfit : 100 * h.errors < Width.bound64) :
    shouldOpen s h = true ↔
      s.volumeThreshold ≤ h.total ∧ s.errorThreshold * h.total ≤ 100 * h.errors := by
  rw [← Health.le_errorPercentage_iff hpos hle hfit]
  simp [shouldOpen]

section

variable {b b' : Breaker} {now : Instant} {o : Operation} {reading : Reading}

/-- What is ignored in a half-open circuit is not the outcome of a trial. -/
theorem normal_of_ignored {p : Permission} (hp : b.circuit.phase = .halfOpen → p = .normal)
    {started : Option Instant} (h : b.circuit = .halfOpen started) : p = .normal := by
  apply hp
  rw [h]
  rfl

/-- The circuit is opened by hand, by a trial that failed, or by a failure that makes too many. -/
theorem Move.opening_iff (m : Move b now o (b', reading)) :
    Opening b o b' ↔
      o = .forceOpen ∨
      ((∃ started, b.circuit = .halfOpen started) ∧ o = .record .trial .infrastructureFailure) ∨
      (b.circuit = .closed ∧ (∃ p, o = .record p .infrastructureFailure) ∧
        shouldOpen b.settings ((b.window.record now .infrastructureFailure).health now).2 =
          true) := by
  cases m with
  | opened hc hs => simp [Opening, CircuitState.phase, hc, hs]
  | reopened hc => simp [Opening, CircuitState.phase, hc]
  | forcedOpen => simp [Opening]
  | counted hc ho | mended hc ho => simp [Opening, CircuitState.phase, hc, ho]
  | endured hc hs => simp [Opening, CircuitState.phase, hc, hs]
  | @ignored p _ hc hp =>
    simp only [Opening, reduceCtorEq, false_or, hc, false_and, or_false]
    constructor
    · rintro ⟨hn, h⟩
      exact absurd h hn
    · rintro ⟨⟨started, h⟩, heq⟩
      simp [normal_of_ignored hp h] at heq
  | admitted | refused | health | tried | reset =>
    simp [Opening, CircuitState.phase, Breaker.health, Breaker.reset]
  | phase | allowed | stats =>
    rcases b.wake_cases now with h | ⟨since, hs, -, h⟩ <;>
      simp [Opening, CircuitState.phase, Breaker.health, h]

/-- The circuit is closed by hand, or by a trial that came through. -/
theorem Move.closing_iff (m : Move b now o (b', reading)) :
    Closing b o b' ↔
      o = .reset ∨
      ((∃ started, b.circuit = .halfOpen started) ∧
        (o = .record .trial .success ∨ o = .record .trial .serviceFailure)) := by
  cases m with
  | opened hc hs => simp [Closing, CircuitState.phase, hc]
  | reopened hc => simp [Closing, CircuitState.phase]
  | forcedOpen => simp [Closing, Breaker.forceOpen, CircuitState.phase]
  | counted hc ho | endured hc ho => simp [Closing, CircuitState.phase, hc]
  | @mended _ o hc ho => cases o <;> simp_all [Closing, CircuitState.phase]
  | @ignored p _ hc hp =>
    simp only [Closing, reduceCtorEq, false_or]
    constructor
    · rintro ⟨hn, h⟩
      exact absurd h hn
    · rintro ⟨⟨started, h⟩, heq⟩
      simp [normal_of_ignored hp h] at heq
  | admitted | refused | health => simp [Closing, Breaker.health]
  | tried | reset => simp [Closing, CircuitState.phase]
  | phase | allowed | stats =>
    rcases b.wake_cases now with h | ⟨since, -, -, h⟩ <;>
      simp [Closing, CircuitState.phase, Breaker.health, h]

/-- A circuit is closed with an empty window. -/
theorem Move.buckets_of_closing (m : Move b now o (b', reading)) (h : Closing b o b') :
    b'.window.buckets = [] := by
  rcases m.closing_iff.mp h with rfl | ⟨⟨started, hc⟩, ho⟩
  · cases m
    rfl
  · rcases ho with rfl | rfl <;> cases m with
    | mended => rfl
    | counted hclosed => simp [hc] at hclosed
    | ignored _ hp => simp [hc, CircuitState.phase] at hp

end

namespace Run

variable {r : Run} {n : Nat}

/-- A failure that a closed circuit takes in is weighed against what the window then holds. -/
theorem health_of_failure (hwindow : 0 < r.settings.window) {p : Permission}
    (h : r.operation n = .record p .infrastructureFailure) (hc : (r.state n).circuit = .closed) :
    (((r.state n).window.record (r.time n) .infrastructureFailure).health (r.time n)).2 =
      { total := r.heldAfter n .success + r.heldAfter n .infrastructureFailure
        errors := r.heldAfter n .infrastructureFailure
        serviceFailures := r.heldAfter n .serviceFailure } := by
  have hlength : 0 < (r.state n).window.length := by rwa [window_length]
  have hspaced := ((r.windowed n).record (r.time n) .infrastructureFailure).spaced
  have hheld : ∀ kind, r.heldAfter n kind =
      Window.tally (((r.state n).window.record (r.time n) .infrastructureFailure).live (r.time n))
        kind := by
    intro kind
    rw [held_of_record hwindow h hc,
      Window.tally_live_record (r.windowed n).spaced hlength (r.time n)]
    rfl
  rw [Window.health_eq hspaced, Window.counts_eq]
  simp only [hheld]

/-- The decision on the percentage is the one on the exact share. -/
theorem overdue_iff (hwindow : 0 < r.settings.window) {p : Permission}
    (h : r.operation n = .record p .infrastructureFailure) (hc : (r.state n).circuit = .closed)
    (hfit : 100 * r.heldAfter n .infrastructureFailure < Width.bound64) :
    shouldOpen r.settings
        (((r.state n).window.record (r.time n) .infrastructureFailure).health (r.time n)).2 = true ↔
      r.settings.volumeThreshold ≤
          r.heldAfter n .success + r.heldAfter n .infrastructureFailure ∧
        r.settings.errorThreshold *
            (r.heldAfter n .success + r.heldAfter n .infrastructureFailure) ≤
          100 * r.heldAfter n .infrastructureFailure := by
  have hone : 0 < r.heldAfter n .infrastructureFailure := by
    have hheld := held_of_record hwindow h hc .infrastructureFailure
    simp only [if_true] at hheld
    omega
  rw [health_of_failure hwindow h hc]
  exact shouldOpen_iff (Nat.add_pos_right _ hone) (Nat.le_add_left _ _) hfit

end Run

/-- When a circuit opens and closes. A closed circuit takes every outcome into its window once, and
opens exactly if the outcome is an infrastructure failure with which the window holds enough calls and
the share of failures among them reaches the threshold. Apart from that it is opened by a failed trial
of a half-open circuit and by hand, and closed by a trial that came through and by hand, and then its
window is empty. There are never more failures than calls, so the percentage is exact but for its
rounding. -/
theorem opening_rule (r : Run) (hwindow : 0 < r.settings.window) (n : Nat) :
    (∀ p o, r.operation n = .record p o → (r.state n).circuit = .closed →
      (∀ kind, r.heldAfter n kind = r.held n kind + if kind = o then 1 else 0) ∧
      (100 * r.heldAfter n .infrastructureFailure < Width.bound64 →
        (r.Opens n ↔
          o = .infrastructureFailure ∧
          r.settings.volumeThreshold ≤
            r.heldAfter n .success + r.heldAfter n .infrastructureFailure ∧
          r.settings.errorThreshold *
              (r.heldAfter n .success + r.heldAfter n .infrastructureFailure) ≤
            100 * r.heldAfter n .infrastructureFailure))) ∧
    (¬ ((r.state n).circuit = .closed ∧ ∃ p o, r.operation n = .record p o) →
      (r.Opens n ↔ r.operation n = .forceOpen ∨
        (∃ started, (r.state n).circuit = .halfOpen started) ∧
          r.operation n = .record .trial .infrastructureFailure)) ∧
    (r.Closes n ↔ r.operation n = .reset ∨
      (∃ started, (r.state n).circuit = .halfOpen started) ∧
        (r.operation n = .record .trial .success ∨
          r.operation n = .record .trial .serviceFailure)) ∧
    (r.Closes n → (r.state (n + 1)).window.buckets = []) ∧
    ∀ t, ((r.state n).window.health t).2.errors ≤ ((r.state n).window.health t).2.total ∧
      (100 * ((r.state n).window.health t).2.errors < Width.bound64 →
        ((r.state n).window.health t).2.errorPercentage =
            100 * ((r.state n).window.health t).2.errors / ((r.state n).window.health t).2.total ∧
          ((r.state n).window.health t).2.errorPercentage ≤ 100) := by
  have hopening := (r.move n).opening_iff
  refine ⟨fun p o hop hc => ?_, fun hother => ?_, (r.move n).closing_iff,
    (r.move n).buckets_of_closing, fun t => ?_⟩
  · have hheld := Run.held_of_record hwindow hop hc
    refine ⟨hheld, fun hfit => ?_⟩
    rw [Run.Opens, hopening, hop, hc, Run.settings_state]
    constructor
    · rintro (h | ⟨⟨_, h⟩, -⟩ | ⟨-, ⟨_, h⟩, hs⟩)
      · cases h
      · cases h
      · obtain ⟨rfl, rfl⟩ := Operation.record.inj h
        exact ⟨rfl, (Run.overdue_iff hwindow hop hc hfit).mp hs⟩
    · rintro ⟨rfl, hrule⟩
      exact .inr (.inr ⟨rfl, ⟨p, rfl⟩, (Run.overdue_iff hwindow hop hc hfit).mpr hrule⟩)
  · rw [Run.Opens, hopening]
    constructor
    · rintro (h | h | ⟨hc, ⟨p, h⟩, -⟩)
      · exact .inl h
      · exact .inr h
      · exact absurd ⟨hc, p, _, h⟩ hother
    · rintro (h | h)
      · exact .inl h
      · exact .inr (.inl h)
  · have hle := Window.errors_le_total ((r.state n).window.prune t).buckets
    exact ⟨hle, Health.errorPercentage_eq hle⟩

namespace Sample

/-- A circuit that opens when two thirds of at least three calls failed, and a little more. -/
def patient : BreakerSettings :=
  .ofCommand "lunch" { volumeThreshold := 3, errorThreshold := 67 }

/-- A success and three failures, one after the other. -/
def failingRun : Run :=
  .ofSteps patient
    [(0, .record .normal .success), (0, .record .normal .infrastructureFailure),
      (0, .record .normal .infrastructureFailure), (0, .record .normal .infrastructureFailure)]

end Sample

/-- Two failures in three calls are not enough, and three in four are. -/
theorem opening_rule_failingRun :
    0 < Sample.failingRun.settings.window ∧
      (Sample.failingRun.state 2).circuit = .closed ∧
      Sample.failingRun.heldAfter 2 .infrastructureFailure = 2 ∧ ¬ Sample.failingRun.Opens 2 ∧
      (Sample.failingRun.state 3).circuit = .closed ∧
      Sample.failingRun.heldAfter 3 .infrastructureFailure = 3 ∧ Sample.failingRun.Opens 3 := by
  have hwindow : 0 < Sample.failingRun.settings.window := by decide
  have hsecond := (opening_rule Sample.failingRun hwindow 2).1 _ _ rfl rfl
  have hthird := (opening_rule Sample.failingRun hwindow 3).1 _ _ rfl rfl
  refine ⟨hwindow, rfl, rfl, fun h => ?_, rfl, rfl, (hthird.2 (by decide)).mpr (by decide)⟩
  exact absurd ((hsecond.2 (by decide)).mp h) (by decide)

end Breaker

end ServiceBinding
