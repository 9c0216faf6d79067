import Mathlib.Order.Monotone.Basic
import ServiceBinding.Clock

/-!
# Runs from lists of events, and runs with steps put in

A system takes a step for an event, or cannot. A list of events that can happen one after the other
makes a run without end: when the list is over, an event follows that changes nothing.

One run may make the steps of another and further ones in between. `Between` says how far the shorter
run has come at each point of the longer one, and `Between.induction` compares the two point by point.
-/

namespace ServiceBinding

namespace Trace

variable {σ ε : Type} (step : σ → ε → Option σ)

/-- The state after the events, of which those that cannot happen are passed over. -/
def after (s : σ) (es : List ε) : σ := es.foldl (fun s e => (step s e).getD s) s

/-- Whether the events can happen one after the other. -/
def admits (s : σ) : List ε → Bool
  | [] => true
  | e :: es =>
    match step s e with
    | some s => admits s es
    | none => false

variable {step}

theorem admits_cons {s : σ} {e : ε} {es : List ε} :
    admits step s (e :: es) = true ↔ ∃ s', step s e = some s' ∧ admits step s' es = true := by
  rw [admits]
  cases step s e with
  | none => simp
  | some s' => simp

theorem after_cons {s s' : σ} {e : ε} (h : step s e = some s') (es : List ε) :
    after step s (e :: es) = after step s' es := by
  simp [after, h]

theorem step_after_take {idle : ε} (hidle : ∀ s, step s idle = some s) {s : σ} {es : List ε}
    (h : admits step s es = true) (n : Nat) :
    step (after step s (es.take n)) (es.getD n idle) = some (after step s (es.take (n + 1))) := by
  induction es generalizing s n with
  | nil => simp [after, hidle]
  | cons e es ih =>
    obtain ⟨s', hs, htail⟩ := admits_cons.1 h
    cases n with
    | zero => simp [after, hs]
    | succ n => simpa [after, hs] using ih htail n

/-! ## Times -/

/-- The instant of step `n`, of steps before each of which some time passes. -/
def clock {α : Type} (steps : List (Span × α)) (n : Nat) : Instant :=
  (steps.take (n + 1)).foldl (fun t step => t + step.1) 0

theorem clock_mono {α : Type} (steps : List (Span × α)) : Monotone (clock steps) :=
  monotone_nat_of_le_succ fun n => by
    rw [clock, clock, List.take_add_one (i := n + 1), List.foldl_append]
    cases steps[n + 1]? with
    | none => exact Nat.le_refl _
    | some step => exact Nat.le_add_right _ _

/-! ## Steps put in -/

/-- Step `k` of a shorter run is step `pos k` of a longer one: before step `n` of the longer run exactly
the first `k` steps of the shorter one are done. -/
structure Between (pos : Nat → Nat) (k n : Nat) : Prop where
  done : ∀ j < k, pos j < n
  ahead : n ≤ pos k

variable {pos : Nat → Nat}

theorem between_pos (hpos : StrictMono pos) (k : Nat) : Between pos k (pos k) :=
  ⟨fun _ hj => hpos hj, Nat.le_refl _⟩

/-- The last step of the longer run is one of the shorter run, or one put in. -/
theorem between_succ (hpos : StrictMono pos) {k n : Nat} (h : Between pos k (n + 1)) :
    (∃ j, k = j + 1 ∧ pos j = n) ∨ (∀ j, pos j ≠ n) ∧ Between pos k n := by
  by_cases hn : ∃ j, pos j = n
  · obtain ⟨j, rfl⟩ := hn
    have hjk : j < k := hpos.lt_iff_lt.mp h.ahead
    have hkj : k ≤ j + 1 := by
      by_contra hlt
      have hnext := h.done (j + 1) (Nat.lt_of_not_le hlt)
      have hstep : pos j < pos (j + 1) := hpos (Nat.lt_succ_self j)
      omega
    exact .inl ⟨j, by omega, rfl⟩
  · rw [not_exists] at hn
    refine .inr ⟨hn, fun j hj => ?_, by have := h.ahead; omega⟩
    have hdone := h.done j hj
    have hne := hn j
    omega

/-- What holds at first, and is kept by a step that both runs make and by a step that is put in, holds
at every point. -/
theorem Between.induction (hpos : StrictMono pos) {motive : Nat → Nat → Prop} (zero : motive 0 0)
    (both : ∀ k, motive k (pos k) → motive (k + 1) (pos k + 1))
    (put : ∀ k n, (∀ j, pos j ≠ n) → motive k n → motive k (n + 1)) {k n : Nat}
    (h : Between pos k n) : motive k n := by
  induction n generalizing k with
  | zero =>
    cases k with
    | zero => exact zero
    | succ k => exact absurd (h.done 0 (Nat.succ_pos k)) (Nat.not_lt_zero _)
  | succ n ih =>
    rcases between_succ hpos h with ⟨j, rfl, rfl⟩ | ⟨hput, hbefore⟩
    · exact both j (ih (between_pos hpos j))
    · exact put k n hput (ih hbefore)

end Trace

end ServiceBinding
