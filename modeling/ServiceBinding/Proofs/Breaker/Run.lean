import Mathlib.Order.Monotone.Basic
import ServiceBinding.Proofs.Breaker.Move

/-!
# Runs of a circuit breaker

A run is any sequence of operations on a new breaker, each at its time; times do not go back. Outcomes
may be recorded in any order, for any permission, late, twice or never. What happens to the circuit
in a step is read off the step alone (`Run.Opens`, `Run.Closes`, `Run.GrantsTrial`), so that a law of
the circuit can speak of what has happened since it was last closed (`Run.Since`).
-/

namespace ServiceBinding

namespace Breaker

/-- A run of a new breaker. -/
structure Run where
  settings : BreakerSettings
  time : Nat → Instant
  operation : Nat → Operation
  mono : Monotone time

namespace Run

/-- A run given by its first operations and the time that passes before each; from then on the
circuit is only looked at. -/
def ofSteps (settings : BreakerSettings) (steps : List (Span × Operation)) : Run where
  settings := settings
  time n := (steps.take (n + 1)).foldl (fun t step => t + step.1) 0
  operation n := (steps[n]?.map Prod.snd).getD .phase
  mono := monotone_nat_of_le_succ fun n => by
    rw [List.take_add_one (i := n + 1), List.foldl_append]
    cases steps[n + 1]? with
    | none => exact Nat.le_refl _
    | some step => exact Nat.le_add_right _ _

/-- The breaker before step `n`. -/
def state (r : Run) : Nat → Breaker
  | 0 => new r.settings
  | n + 1 => ((r.state n).perform (r.time n) (r.operation n)).1

/-- What the operation of step `n` shows. -/
def reading (r : Run) (n : Nat) : Reading := ((r.state n).perform (r.time n) (r.operation n)).2

/-! ## What happens in a step -/

/-- In step `n` the circuit is opened, for the first time or again. -/
def Opens (r : Run) (n : Nat) : Prop := Opening (r.state n) (r.operation n) (r.state (n + 1))

/-- In step `n` the circuit is closed. -/
def Closes (r : Run) (n : Nat) : Prop := Closing (r.state n) (r.operation n) (r.state (n + 1))

/-- In step `n` a call is let through as a trial. -/
def GrantsTrial (r : Run) (n : Nat) : Prop := r.reading n = .permission (some .trial)

/-- Step `m` comes before `n`, and the circuit is not closed between them. -/
def Since (r : Run) (m n : Nat) : Prop := m < n ∧ ∀ k, m < k → k < n → ¬ r.Closes k

variable (r : Run) (n : Nat)

theorem move :
    Move (r.state n) (r.time n) (r.operation n) (r.state (n + 1), r.reading n) :=
  perform_move _ _ _

theorem change :
    Change (r.state n) (r.time n) (r.operation n) (r.state (n + 1)) (r.reading n) :=
  (r.move n).change

@[simp] theorem settings_state : (r.state n).settings = r.settings := by
  induction n with
  | zero => rfl
  | succ n ih => exact (r.move n).settings.trans ih

theorem reading_of_acquire (h : r.operation n = .acquire) :
    r.reading n = .permission
      (if (r.state n).circuit.refuses r.settings.sleepWindow (r.time n) then none
      else if (r.state n).circuit = .closed then some .normal else some .trial) := by
  have hm := r.move n
  rw [h] at hm
  rw [hm.permission, settings_state]

variable {r n}

theorem Opens.phase (h : r.Opens n) : (r.state (n + 1)).circuit.phase = .opened :=
  (r.move n).phase_of_opening h

theorem Closes.phase (h : r.Closes n) : (r.state (n + 1)).circuit.phase = .closed :=
  (r.move n).phase_of_closing h

theorem GrantsTrial.phase (h : r.GrantsTrial n) :
    (r.state (n + 1)).circuit.phase = .halfOpen := by
  have hm := r.move n
  rw [h] at hm
  exact hm.phase_of_trial

theorem since_succ {m : Nat} : r.Since m (n + 1) ↔ m = n ∨ r.Since m n ∧ ¬ r.Closes n := by
  constructor
  · rintro ⟨hmn, hc⟩
    rcases Nat.lt_or_eq_of_le (Nat.le_of_lt_succ hmn) with hlt | rfl
    · exact .inr ⟨⟨hlt, fun k hmk hkn => hc k hmk (Nat.lt_succ_of_lt hkn)⟩, hc n hlt (Nat.lt_succ_self n)⟩
    · exact .inl rfl
  · rintro (rfl | ⟨⟨hmn, hc⟩, hn⟩)
    · exact ⟨Nat.lt_succ_self m, fun k hmk hkm => absurd hkm (Nat.not_lt.mpr hmk)⟩
    · refine ⟨Nat.lt_succ_of_lt hmn, fun k hmk hkn => ?_⟩
      rcases Nat.lt_or_eq_of_le (Nat.le_of_lt_succ hkn) with hlt | rfl
      · exact hc k hmk hlt
      · exact hn

/-- What has happened since the circuit was last closed has happened in the last step, or before it
and the last step does not close the circuit. -/
theorem exists_since_succ {p : Nat → Prop} :
    (∃ m, r.Since m (n + 1) ∧ p m) ↔ p n ∨ ¬ r.Closes n ∧ ∃ m, r.Since m n ∧ p m := by
  constructor
  · rintro ⟨m, hs, hm⟩
    rcases since_succ.mp hs with rfl | ⟨hs, hl⟩
    · exact .inl hm
    · exact .inr ⟨hl, m, hs, hm⟩
  · rintro (hn | ⟨hl, m, hs, hm⟩)
    · exact ⟨n, since_succ.mpr (.inl rfl), hn⟩
    · exact ⟨m, since_succ.mpr (.inr ⟨hs, hl⟩), hm⟩

end Run

end Breaker

end ServiceBinding
