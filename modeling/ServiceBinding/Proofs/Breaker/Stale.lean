import ServiceBinding.Proofs.Breaker.Admission
import ServiceBinding.Proofs.Breaker.Counted

/-!
# Outcomes of calls from before an opening

An outcome may come when the circuit has been opened since its call was let through. Permissions are
not told apart, so whether such an outcome is felt is decided by the circuit it meets: an open circuit
hears nobody and a half-open one trials only, but a circuit that has been closed again counts every
outcome, and one that has become half open again takes a trial of an earlier period for its own.

`Run.LastOpening.circuit` says which circuit the outcome meets, by what has happened since the last
opening; `stale_outcomes` is what follows for the outcome. In particular whoever reports within a
sleep window of being let through never decides a later period.
-/

namespace ServiceBinding

namespace Breaker

/-- The operation notices that the sleep window of an open circuit has passed. -/
def Operation.looks : Operation → Bool
  | .acquire | .phase | .allowed | .stats => true
  | .record .. | .health | .reset | .forceOpen => false

section

variable {b b' : Breaker} {o : Operation} {reading : Reading}

theorem wake_of_opened (now : Instant) {since : Instant} (h : b.circuit = .opened since) :
    (b.wake now).circuit =
      if b.settings.sleepWindow ≤ now - since then .halfOpen none else .opened since := by
  simp only [wake, h]
  split
  · rfl
  · exact h

/-- An open circuit becomes half open when it is looked at after its sleep window, and only then. -/
theorem Move.circuit_of_opened {now : Instant} (m : Move b now o (b', reading)) {since : Instant}
    (hs : b.circuit = .opened since) (ho : ¬ Opening b o b') (hl : ¬ Closing b o b') :
    if o.looks = true ∧ b.settings.sleepWindow ≤ now - since then b'.circuit.phase = .halfOpen
    else b'.circuit = .opened since := by
  cases m with
  | admitted hc | counted hc | endured hc | opened hc => simp [hs] at hc
  | reopened hc | mended hc => simp [hs] at hc
  | tried hc hr =>
    have hover : b.settings.sleepWindow ≤ now - since := by simpa [hs, CircuitState.refuses] using hr
    rw [if_pos ⟨rfl, hover⟩]
    rfl
  | refused hr =>
    have hearly : now - since < b.settings.sleepWindow := by
      simpa [hs, CircuitState.refuses] using hr
    rw [if_neg (fun h => absurd h.2 (Nat.not_le.mpr hearly))]
    exact hs
  | ignored | health => simpa [Operation.looks, Breaker.health] using hs
  | phase | allowed | stats =>
    have hwake := wake_of_opened now hs
    by_cases hover : b.settings.sleepWindow ≤ now - since
    · rw [if_pos hover] at hwake
      simp [Operation.looks, hover, Breaker.health, hwake, CircuitState.phase]
    · rw [if_neg hover] at hwake
      simp [hover, Breaker.health, hwake]
  | reset => exact absurd (.inl rfl) hl
  | forcedOpen => exact absurd (.inl rfl) ho

end

namespace Run

/-! ## The circuit since it was last opened -/

section

variable (r : Run)

/-- Step `m` is the last one before step `n` in which the circuit was opened. -/
structure LastOpening (m n : Nat) : Prop where
  lt : m < n
  opens : r.Opens m
  last : ∀ k, m < k → k < n → ¬ r.Opens k

/-- Between steps `m` and `n` the circuit was looked at a sleep window after step `m`. -/
def LookedAtAfter (m n : Nat) : Prop :=
  ∃ k, m < k ∧ k < n ∧ (r.operation k).looks = true ∧
    r.time m + r.settings.sleepWindow ≤ r.time k

end

variable {r : Run} {m n : Nat}

theorem lookedAtAfter_succ (h : m < n) :
    r.LookedAtAfter m (n + 1) ↔ r.LookedAtAfter m n ∨
      (r.operation n).looks = true ∧ r.time m + r.settings.sleepWindow ≤ r.time n := by
  constructor
  · rintro ⟨k, hmk, hkn, hk⟩
    rcases Nat.lt_or_eq_of_le (Nat.le_of_lt_succ hkn) with hlt | rfl
    · exact .inl ⟨k, hmk, hlt, hk⟩
    · exact .inr hk
  · rintro (⟨k, hmk, hkn, hk⟩ | hn)
    · exact ⟨k, hmk, by omega, hk⟩
    · exact ⟨n, h, by omega, hn⟩

/-- A circuit that is not closed was last opened in some step, and not closed since. -/
theorem LastOpening.since_iff (h : r.LastOpening m n) :
    r.Since m n ↔ (r.state n).circuit ≠ .closed := by
  rw [r.not_closed_iff n]
  constructor
  · intro hs
    exact ⟨m, hs, h.opens⟩
  · rintro ⟨k, hs, hk⟩
    have hkm : k ≤ m := by
      by_contra hlt
      exact h.last k (by omega) hs.1 hk
    exact ⟨h.lt, fun j hmj hjn => hs.2 j (by omega) hjn⟩

/-- The circuit that a step meets which comes after an opening, as long as it is not closed: it is
open, with the instant of the opening, until it is looked at after the sleep window. -/
theorem LastOpening.circuit (h : r.LastOpening m n) (hs : r.Since m n) :
    (r.state n).circuit = .opened (r.time m) ∧ ¬ r.LookedAtAfter m n ∨
      (r.state n).circuit.phase = .halfOpen ∧ r.LookedAtAfter m n := by
  have hmn : m + 1 ≤ n := h.lt
  induction n, hmn using Nat.le_induction with
  | base =>
    have hnone : ¬ r.LookedAtAfter m (m + 1) := by
      rintro ⟨k, hmk, hkm, -⟩
      omega
    cases r.change m with
    | opens _ hc => exact .inl ⟨hc, hnone⟩
    | tries ht _ _ _ => exact absurd (h.opens.phase.symm.trans (GrantsTrial.phase ht)) nofun
    | closes hl _ => exact absurd (.inl h.opens) (not_marked_of_closes hl)
    | keeps ho => exact absurd h.opens ho
    | elapses ho => exact absurd h.opens ho
  | succ n hmn ih =>
    have hno : ¬ r.Opens n := h.last n hmn (by omega)
    have hkept : r.Since m n ∧ ¬ r.Closes n :=
      (since_succ.mp hs).resolve_left (by omega)
    have hbefore := ih ⟨hmn, h.opens, fun k hmk hkn => h.last k hmk (by omega)⟩ hkept.1
    rw [lookedAtAfter_succ hmn]
    rcases hbefore with ⟨hc, hnone⟩ | ⟨hc, hlooked⟩
    · have hnext := (r.move n).circuit_of_opened hc hno hkept.2
      have hmono : r.time m ≤ r.time n := r.mono (by omega)
      rw [settings_state] at hnext
      split at hnext
      · rename_i hover
        exact .inr ⟨hnext, .inr ⟨hover.1, (Nat.le_sub_iff_add_le' hmono).mp hover.2⟩⟩
      · rename_i hover
        refine .inl ⟨hnext, ?_⟩
        rintro (hl | ⟨hl, ht⟩)
        · exact hnone hl
        · exact hover ⟨hl, (Nat.le_sub_iff_add_le' hmono).mpr ht⟩
    · refine .inr ⟨?_, .inl hlooked⟩
      cases r.change n with
      | opens ho _ => exact absurd ho hno
      | tries ht _ _ _ => exact GrantsTrial.phase ht
      | closes hl _ => exact absurd hl hkept.2
      | keeps _ _ _ hsame => rwa [hsame]
      | elapses _ _ _ _ _ hhalf => rw [hhalf]; rfl

/-! ## Outcomes and their calls -/

/-- The calls behind the outcomes of a run: each outcome is that of a call which was let through
before with the permission, and no call has two. -/
structure Calls (r : Run) where
  /-- The step in which the call was let through whose outcome step `n` records. -/
  start : Nat → Nat
  start_lt : ∀ n p o, r.operation n = .record p o → start n < n
  granted : ∀ n p o, r.operation n = .record p o →
    r.operation (start n) = .acquire ∧ r.reading (start n) = .permission (some p)
  once : ∀ n n' p p' o o', r.operation n = .record p o → r.operation n' = .record p' o' →
    start n = start n' → n = n'

/-- Step `n` changes neither the circuit nor what the window holds. -/
def Unfelt (r : Run) (n : Nat) : Prop :=
  (r.state (n + 1)).circuit = (r.state n).circuit ∧ ∀ kind, r.heldAfter n kind = r.held n kind

variable {p : Permission} {o : Outcome}

/-- A circuit that hears nobody, or no outcome of this kind of call, stays as it is. -/
theorem state_of_ignored (h : r.operation n = .record p o) (hc : (r.state n).circuit ≠ .closed)
    (hp : (r.state n).circuit.phase = .halfOpen → p = .normal) : r.state (n + 1) = r.state n := by
  have hm := r.move n
  rw [h] at hm
  generalize r.state (n + 1) = next, r.reading n = reading at hm ⊢
  cases hm with
  | ignored => rfl
  | counted hclosed | endured hclosed | opened hclosed => exact absurd hclosed hc
  | reopened ho | mended ho =>
    rw [ho] at hp
    cases hp rfl

/-- A half-open circuit is decided by a trial, whichever it is. -/
theorem circuit_of_trial (h : r.operation n = .record .trial o)
    (hc : (r.state n).circuit.phase = .halfOpen) :
    (r.state (n + 1)).circuit.phase ≠ .halfOpen := by
  have hm := r.move n
  rw [h] at hm
  generalize r.state (n + 1) = next, r.reading n = reading at hm ⊢
  cases hm with
  | counted hclosed | endured hclosed | opened hclosed => simp [hclosed, CircuitState.phase] at hc
  | reopened | mended => simp [CircuitState.phase]
  | ignored _ hp => cases hp hc

end Run

/-- What becomes of an outcome whose call was let through before the circuit was last opened. It
changes nothing exactly if the circuit has not been closed since the opening, and either the call was
no trial or the circuit has not been looked at since its sleep window passed. So a circuit that is not
closed ignores such an outcome if it comes within a sleep window of its call being let through. -/
theorem stale_outcomes (r : Run) (calls : r.Calls) (hwindow : 0 < r.settings.window) {m n : Nat}
    {p : Permission} {o : Outcome} (hop : r.operation n = .record p o) (hl : r.LastOpening m n)
    (hstale : calls.start n < m) :
    (r.Unfelt n ↔ r.Since m n ∧ (p = .normal ∨ ¬ r.LookedAtAfter m n)) ∧
    (r.time n < r.time (calls.start n) + r.settings.sleepWindow →
      (r.state n).circuit ≠ .closed → r.state (n + 1) = r.state n) := by
  have hunfelt (hsame : r.state (n + 1) = r.state n) : r.Unfelt n := by
    refine ⟨by rw [hsame], fun kind => ?_⟩
    rw [Run.heldAfter, hsame, Run.held]
  have hmeets (hs : r.Since m n) (hp : p = .normal ∨ ¬ r.LookedAtAfter m n) :
      r.state (n + 1) = r.state n := by
    refine Run.state_of_ignored hop (hl.since_iff.mp hs) fun hhalf => ?_
    rcases hl.circuit hs with ⟨hc, -⟩ | ⟨-, hlooked⟩
    · simp [hc, CircuitState.phase] at hhalf
    · exact hp.resolve_right fun hn => hn hlooked
  refine ⟨⟨fun hu => ?_, fun h => hunfelt (hmeets h.1 h.2)⟩, fun hprompt hc => ?_⟩
  · by_cases hclosed : (r.state n).circuit = .closed
    · -- a closed circuit counts the outcome, stale or not
      have hcounted := Run.held_of_record hwindow hop hclosed o
      have hsame := hu.2 o
      simp only [if_true] at hcounted
      omega
    · have hs := hl.since_iff.mpr hclosed
      refine ⟨hs, ?_⟩
      rcases hl.circuit hs with ⟨-, hnone⟩ | ⟨hhalf, -⟩
      · exact .inr hnone
      · cases p with
        | normal => exact .inl rfl
        | trial =>
          have hdecided := Run.circuit_of_trial hop hhalf
          rw [hu.1] at hdecided
          exact absurd hhalf hdecided
  · refine hmeets (hl.since_iff.mpr hc) (.inr ?_)
    rintro ⟨k, -, hkn, -, hover⟩
    -- the opening came after the call was let through, and a sleep window has passed since
    have hlong : r.time (calls.start n) + r.settings.sleepWindow ≤ r.time n :=
      Nat.le_trans (Nat.add_le_add_right (r.mono (Nat.le_of_lt hstale)) _)
        (Nat.le_trans hover (r.mono (Nat.le_of_lt hkn)))
    exact absurd hprompt (Nat.not_lt.mpr hlong)

namespace Sample

/-- Two calls are let through before the circuit is opened by hand. One reports while the circuit is
half open, and the other when a trial has closed it again. Then the circuit is opened twice, and the
trial of the first time reports after the second. -/
def lateRun : Run :=
  .ofSteps (.ofCommand "lunch" {})
    [(0, .acquire), (0, .acquire), (0, .forceOpen), (Span.ofSeconds 5, .acquire),
      (0, .record .normal .success), (0, .record .trial .success),
      (0, .record .normal .infrastructureFailure), (0, .forceOpen), (Span.ofSeconds 5, .acquire),
      (0, .forceOpen), (Span.ofSeconds 5, .phase), (0, .record .trial .success)]

/-- The step of the call whose outcome a step of `lateRun` records. -/
def lateStart : Nat → Nat
  | 5 => 3
  | 6 => 1
  | 11 => 8
  | _ => 0

theorem lateRun_records {n : Nat} {p : Permission} {o : Outcome}
    (h : lateRun.operation n = .record p o) : n ∈ [4, 5, 6, 11] := by
  match n, h with
  | 4, _ | 5, _ | 6, _ | 11, _ => decide

def lateCalls : lateRun.Calls where
  start := lateStart
  start_lt n p o h := by
    have hall : ∀ n ∈ [4, 5, 6, 11], lateStart n < n := by decide
    exact hall n (lateRun_records h)
  granted n p o h := by
    match n, h with
    | 4, h | 5, h | 6, h | 11, h => cases h; exact ⟨rfl, rfl⟩
  once n n' p p' o o' h h' := by
    have hall : ∀ n ∈ [4, 5, 6, 11], ∀ n' ∈ [4, 5, 6, 11],
        lateStart n = lateStart n' → n = n' := by decide
    exact hall n (lateRun_records h) n' (lateRun_records h')

theorem lateRun_lastOpening {n : Nat} (hlt : 2 < n) (hn : n ≤ 7) : lateRun.LastOpening 2 n where
  lt := hlt
  opens := .inl rfl
  last k hk hkn := by
    have hcases : k = 3 ∨ k = 4 ∨ k = 5 ∨ k = 6 := by omega
    rcases hcases with rfl | rfl | rfl | rfl <;> rintro (h | ⟨-, h⟩) <;> cases h

theorem lateRun_lastOpening_again : lateRun.LastOpening 9 11 where
  lt := by decide
  opens := .inl rfl
  last k hk hkn := by
    obtain rfl : k = 10 := by omega
    rintro (h | ⟨-, h⟩) <;> cases h

end Sample

/-- The call that reports while the circuit is half open is not heard. -/
theorem stale_outcomes_lateRun :
    0 < Sample.lateRun.settings.window ∧
      Sample.lateRun.operation 4 = .record .normal .success ∧ Sample.lateRun.LastOpening 2 4 ∧
      Sample.lateCalls.start 4 < 2 ∧ Sample.lateRun.Unfelt 4 := by
  have hwindow : 0 < Sample.lateRun.settings.window := by decide
  have hl := Sample.lateRun_lastOpening (n := 4) (by decide) (by decide)
  have hstale : Sample.lateCalls.start 4 < 2 := by decide
  have hlaw := stale_outcomes Sample.lateRun Sample.lateCalls hwindow rfl hl hstale
  exact ⟨hwindow, rfl, hl, hstale,
    hlaw.1.mpr ⟨hl.since_iff.mpr (by decide), .inl rfl⟩⟩

/-- Two outcomes that are felt though their calls were let through before the last opening: one is
counted by a circuit that has been closed again, and the other, of a trial, closes a circuit that is
half open for the second time. -/
theorem stale_outcomes_felt :
    (Sample.lateRun.operation 6 = .record .normal .infrastructureFailure ∧
      Sample.lateRun.LastOpening 2 6 ∧ Sample.lateCalls.start 6 < 2 ∧
      Sample.lateRun.held 6 .infrastructureFailure = 0 ∧
      Sample.lateRun.heldAfter 6 .infrastructureFailure = 1) ∧
    Sample.lateRun.operation 11 = .record .trial .success ∧
      Sample.lateRun.LastOpening 9 11 ∧ Sample.lateCalls.start 11 < 9 ∧
      (Sample.lateRun.state 11).circuit.phase = .halfOpen ∧
      (Sample.lateRun.state 12).circuit.phase = .closed :=
  ⟨⟨rfl, Sample.lateRun_lastOpening (by decide) (by decide), by decide, rfl, rfl⟩,
    rfl, Sample.lateRun_lastOpening_again, by decide, rfl, rfl⟩

end Breaker

end ServiceBinding
