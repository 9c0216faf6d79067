import ServiceBinding.Command.Settings
import ServiceBinding.Proofs.Breaker.Run
import ServiceBinding.Proofs.Breaker.Thinned

/-!
# Domain failures and the circuit

A service failure is not counted among what opens a circuit. Still it can be felt, in two ways. Like
every outcome it opens a bucket if it finds none to go in, and where a bucket begins decides when the
outcomes that come to share it leave the window. And a call that ends in a service failure may have
been the trial for which another call was refused.

Without these two, domain failures leave no trace: a run is compared here with the same run in which
some of them are left out (`Run.without`).
-/

namespace ServiceBinding

namespace Breaker

namespace Run

/-! ## Runs without some of their steps -/

/-- The breaker before step `n` if the steps of `D` are left out. -/
def without (r : Run) (D : Nat → Prop) [DecidablePred D] : Nat → Breaker
  | 0 => new r.settings
  | n + 1 =>
    if D n then r.without D n else ((r.without D n).perform (r.time n) (r.operation n)).1

section

variable (r : Run) (D : Nat → Prop) [DecidablePred D]

/-- What the operation of step `n` shows if the steps of `D` are left out. -/
def readingWithout (n : Nat) : Reading :=
  ((r.without D n).perform (r.time n) (r.operation n)).2

/-- In step `n`, which is not left out, the circuit is opened if the steps of `D` are left out. -/
def OpensWithout (n : Nat) : Prop :=
  ¬ D n ∧ Opening (r.without D n) (r.operation n) (r.without D (n + 1))

end

/-! ## Outcomes and their buckets -/

section

variable (r : Run)

/-- In step `n` an outcome is counted. -/
def Counted (n : Nat) : Prop := (r.state n).Counts (r.operation n)

/-- The outcome of step `n` opens a bucket. -/
def OpensBucket (n : Nat) : Prop :=
  r.Counted n ∧
    Window.IsFull (r.state n).window.bucketLength (r.time n)
      ((r.state n).window.prune (r.time n)).buckets

/-- The outcome of step `n` is counted in the bucket that step `m` opened. -/
def SharesBucket (m n : Nat) : Prop :=
  m ≤ n ∧ r.OpensBucket m ∧ r.Counted n ∧ ∀ k, m < k → k ≤ n → ¬ r.OpensBucket k

/-- The last bucket that was opened before step `n` was opened in a step of `D`. -/
def LastLeftOut (D : Nat → Prop) (n : Nat) : Prop :=
  ∃ m < n, D m ∧ r.OpensBucket m ∧ ∀ k, m < k → k < n → ¬ r.OpensBucket k

/-- The steps of `D` belong to calls that end in a service failure: they ask to make a call, which is
no trial, or record a service failure while the circuit is closed. No outcome that stays shares a
bucket that was opened by one that goes. -/
structure DomainFailures (D : Nat → Prop) : Prop where
  step : ∀ n, D n →
    (r.operation n = .acquire ∧ ¬ r.GrantsTrial n) ∨
      ∃ p, r.operation n = .record p .serviceFailure ∧ (r.state n).circuit = .closed
  bucket : ∀ m n, D m → r.SharesBucket m n → D n

end

variable {r : Run} {D : Nat → Prop}

theorem LastLeftOut.succ {n : Nat} (h : r.LastLeftOut D n) (hn : ¬ r.OpensBucket n) :
    r.LastLeftOut D (n + 1) := by
  obtain ⟨m, hmn, hm, ho, hlast⟩ := h
  refine ⟨m, Nat.lt_succ_of_lt hmn, hm, ho, fun k hmk hkn => ?_⟩
  rcases Nat.lt_or_eq_of_le (Nat.le_of_lt_succ hkn) with hlt | rfl
  · exact hlast k hmk hlt
  · exact hn

theorem lastLeftOut_of_opensBucket {n : Nat} (hn : D n) (ho : r.OpensBucket n) :
    r.LastLeftOut D (n + 1) :=
  ⟨n, Nat.lt_succ_self n, hn, ho,
    fun _ hnk hkn => absurd hkn (Nat.not_lt.mpr (Nat.succ_le_of_lt hnk))⟩

/-- An outcome that stays does not go in a bucket opened by one that goes. -/
theorem DomainFailures.opensBucket (h : r.DomainFailures D) {n : Nat} (hn : ¬ D n)
    (hc : r.Counted n) (hl : r.LastLeftOut D n) : r.OpensBucket n := by
  by_contra ho
  obtain ⟨m, hmn, hm, hopens, hlast⟩ := hl
  refine hn (h.bucket m n hm ⟨Nat.le_of_lt hmn, hopens, hc, fun k hmk hkn => ?_⟩)
  rcases Nat.lt_or_eq_of_le hkn with hlt | rfl
  · exact hlast k hmk hlt
  · exact ho

variable [DecidablePred D]

/-- Whatever is left out, the two breakers differ in service failures only. -/
theorem DomainFailures.thinner (h : r.DomainFailures D) (n : Nat) :
    (r.state n).Thinner (r.LastLeftOut D n) (r.time n) (r.without D n) := by
  induction n with
  | zero => exact ⟨rfl, rfl, ⟨rfl, rfl, .nil, .nil, .nil⟩⟩
  | succ n ih =>
    suffices hstep : (r.state (n + 1)).Thinner (r.LastLeftOut D (n + 1)) (r.time n)
        (r.without D (n + 1)) from hstep.later (r.mono (Nat.le_succ n))
    have hkeeps (hc : ¬ r.Counted n) : r.LastLeftOut D n → r.LastLeftOut D (n + 1) :=
      fun hl => hl.succ fun ho => hc ho.1
    by_cases hD : D n
    · have hleft : r.without D (n + 1) = r.without D n := if_pos hD
      rw [hleft]
      rcases h.step n hD with ⟨hop, htrial⟩ | ⟨p, hop, hclosed⟩
      · have hstate : r.state (n + 1) = ((r.state n).perform (r.time n) .acquire).1 := by
          rw [← hop]
          rfl
        have hc : ¬ r.Counted n := by simp [Counted, Counts, hop]
        rw [GrantsTrial, reading, hop] at htrial
        rw [hstate]
        exact (ih.imp (hkeeps hc)).acquire_left htrial
      · have hstate : r.state (n + 1) = (r.state n).record (r.time n) p .serviceFailure := by
          rw [state, hop]
          rfl
        have hc : r.Counted n := ⟨⟨p, _, hop⟩, hclosed⟩
        rw [hstate]
        exact ih.record_left p hclosed
          (fun hfull => lastLeftOut_of_opensBucket hD ⟨hc, hfull⟩)
          fun hfull hl => hl.succ fun ho => hfull ho.2
    · have hstay : r.without D (n + 1) =
          ((r.without D n).perform (r.time n) (r.operation n)).1 := if_neg hD
      rw [hstay]
      exact ih.perform _ (fun hc hl => (h.opensBucket hD hc hl).2) hkeeps

end Run

/-- A run shows the same with and without its domain failures: the circuit is in the same state
throughout and opens in the same steps, and every call and every reading of the state that stays is
answered in the same way. -/
theorem domain_failures_unseen (r : Run) {D : Nat → Prop} [DecidablePred D]
    (h : r.DomainFailures D) (n : Nat) :
    (r.without D n).circuit = (r.state n).circuit ∧ (r.OpensWithout D n ↔ r.Opens n) ∧
      (¬ D n → r.operation n = .acquire ∨ r.operation n = .phase ∨ r.operation n = .allowed →
        r.readingWithout D n = r.reading n) := by
  have hn := h.thinner n
  refine ⟨hn.circuit, ?_, fun _ hop => ?_⟩
  · rw [Run.OpensWithout, Run.Opens, Opening, Opening, hn.circuit, (h.thinner (n + 1)).circuit]
    refine ⟨And.right, fun ho => ⟨fun hD => ?_, ho⟩⟩
    have hkeep : (r.state (n + 1)).circuit = (r.state n).circuit := by
      rw [← hn.circuit, ← (h.thinner (n + 1)).circuit, Run.without, if_pos hD]
    rcases ho with hforced | ⟨hclosed, hopened⟩
    · rcases h.step n hD with ⟨hop, -⟩ | ⟨p, hop, -⟩ <;> cases hop.symm.trans hforced
    · rw [hkeep] at hopened
      exact hclosed hopened
  · rw [Run.readingWithout, Run.reading]
    rcases hop with hop | hop | hop <;> rw [hop]
    · exact hn.permission
    · exact congrArg Reading.phase hn.phase
    · exact congrArg (fun p => Reading.allowed (p ≠ .opened)) hn.phase

namespace Sample

/-- A window of a second in ten buckets, and a circuit that opens when all of two calls failed. -/
def strict : BreakerSettings :=
  .ofCommand "lunch"
    { rollingWindow := Span.ofMillis 1000, volumeThreshold := 2, errorThreshold := 100 }

/-- Two service failures, one alone in its bucket and one that shares the bucket of a failure. -/
def unseenRun : Run :=
  .ofSteps strict
    [(0, .acquire), (0, .record .normal .serviceFailure),
      (Span.ofMillis 150, .acquire), (0, .record .normal .infrastructureFailure),
      (0, .acquire), (0, .record .normal .serviceFailure), (0, .acquire)]

theorem unseenRun_opensBucket : unseenRun.OpensBucket 3 := by
  refine ⟨⟨⟨.normal, _, rfl⟩, rfl⟩, fun b hb => ?_⟩
  obtain rfl := Option.some.inj hb
  decide

theorem unseenRun_domainFailures : unseenRun.DomainFailures (· ∈ [0, 1, 4, 5]) where
  step n hn := by
    simp only [List.mem_cons, List.not_mem_nil, or_false] at hn
    rcases hn with rfl | rfl | rfl | rfl
    · exact .inl ⟨rfl, nofun⟩
    · exact .inr ⟨.normal, rfl, rfl⟩
    · exact .inl ⟨rfl, nofun⟩
    · exact .inr ⟨.normal, rfl, rfl⟩
  bucket m n hm hshare := by
    obtain ⟨hmn, ⟨⟨⟨_, _, hrecord⟩, -⟩, hfull⟩, ⟨⟨_, _, hcounted⟩, -⟩, hlast⟩ := hshare
    simp only [List.mem_cons, List.not_mem_nil, or_false] at hm
    rcases hm with rfl | rfl | rfl | rfl
    · cases hrecord
    · -- the next outcome opens a bucket of its own
      rcases Nat.lt_or_ge n 3 with hn | hn
      · match n, hmn, hn with
        | 1, _, _ => decide
        | 2, _, _ => cases hcounted
      · exact absurd unseenRun_opensBucket (hlast 3 (by decide) hn)
    · cases hrecord
    · exact absurd (hfull _ rfl) (by decide)

/-- A service failure opens a bucket, into which a success falls. -/
def sharedRun : Run :=
  .ofSteps strict
    [(0, .acquire), (0, .record .normal .serviceFailure),
      (Span.ofMillis 50, .acquire), (0, .record .normal .success),
      (Span.ofMillis 70, .acquire), (0, .record .normal .infrastructureFailure),
      (Span.ofMillis 940, .acquire), (0, .record .normal .infrastructureFailure)]

/-- A call is refused for a trial that ends in a service failure, after the circuit was closed by
hand. -/
def heldRun : Run :=
  .ofSteps strict
    [(0, .forceOpen), (Span.ofSeconds 5, .acquire), (0, .acquire), (0, .reset),
      (0, .record .trial .serviceFailure)]

end Sample

theorem domain_failures_unseen_unseenRun :
    Sample.unseenRun.DomainFailures (· ∈ [0, 1, 4, 5]) ∧
      (Sample.unseenRun.without (· ∈ [0, 1, 4, 5]) 6).circuit =
        (Sample.unseenRun.state 6).circuit ∧
      Sample.unseenRun.readingWithout (· ∈ [0, 1, 4, 5]) 6 = Sample.unseenRun.reading 6 := by
  have hunseen := domain_failures_unseen Sample.unseenRun Sample.unseenRun_domainFailures 6
  exact ⟨Sample.unseenRun_domainFailures, hunseen.1, hunseen.2.2 (by decide) (.inl rfl)⟩

/-- A circuit that opens only on account of a service failure, and a call that is refused only on
account of another one. Both were recorded while the circuit was closed. -/
theorem domain_failures_felt :
    (Sample.sharedRun.operation 0 = .acquire ∧
      Sample.sharedRun.reading 0 = .permission (some .normal) ∧
      Sample.sharedRun.operation 1 = .record .normal .serviceFailure ∧
      (Sample.sharedRun.state 1).circuit = .closed ∧
      Sample.sharedRun.operation 8 = .phase ∧ Sample.sharedRun.reading 8 = .phase .opened ∧
      Sample.sharedRun.readingWithout (· ∈ [0, 1]) 8 = .phase .closed) ∧
    Sample.heldRun.operation 1 = .acquire ∧
      Sample.heldRun.reading 1 = .permission (some .trial) ∧
      Sample.heldRun.operation 4 = .record .trial .serviceFailure ∧
      (Sample.heldRun.state 4).circuit = .closed ∧
      Sample.heldRun.operation 2 = .acquire ∧ Sample.heldRun.reading 2 = .permission none ∧
      Sample.heldRun.readingWithout (· ∈ [1, 4]) 2 = .permission (some .trial) := by
  decide

end Breaker

end ServiceBinding
