import ServiceBinding.Command.Settings
import ServiceBinding.Proofs.Breaker.Run

/-!
# When a circuit breaker lets a call pass

The state of a circuit says whether it is open and, with it, one instant: that of the last opening or
of the last trial. `Run.refuses_iff` says what this instant stands for in a run: a call is refused
exactly if, since the circuit was last closed, it was opened or a trial was granted less than a sleep
window ago. An open circuit turns half open only when it is looked at, and trials may be reported
late, twice or never; none of this shows in the law.
-/

namespace ServiceBinding

namespace Breaker

namespace Run

variable {r : Run}

/-- Since the circuit was last closed, it was opened or a trial was granted in a step from which the
sleep window lasts beyond `t`. -/
def Blocked (r : Run) (n : Nat) (t : Instant) : Prop :=
  ∃ m, r.Since m n ∧ (r.Opens m ∨ r.GrantsTrial m) ∧ t < r.time m + r.settings.sleepWindow

theorem not_marked_of_closes {n : Nat} (h : r.Closes n) : ¬ (r.Opens n ∨ r.GrantsTrial n) := by
  rintro (ho | ht)
  · exact absurd (h.phase.symm.trans ho.phase) nofun
  · exact absurd (h.phase.symm.trans ht.phase) nofun

theorem not_blocked_of_closes {n : Nat} (h : r.Closes n) (t : Instant) : ¬ r.Blocked (n + 1) t := by
  rw [Blocked, exists_since_succ]
  rintro (⟨hmark, -⟩ | ⟨hl, -⟩)
  · exact not_marked_of_closes h hmark
  · exact hl h

/-- A step in which the circuit is opened or tried decides alone, for it is the latest. -/
theorem blocked_of_marked {n : Nat} (h : r.Opens n ∨ r.GrantsTrial n) (t : Instant) :
    r.Blocked (n + 1) t ↔ t < r.time n + r.settings.sleepWindow := by
  rw [Blocked, exists_since_succ]
  constructor
  · rintro (⟨-, ht⟩ | ⟨-, m, hs, -, ht⟩)
    · exact ht
    · exact Nat.lt_of_lt_of_le ht (Nat.add_le_add_right (r.mono (Nat.le_of_lt hs.1)) _)
  · intro ht
    exact .inl ⟨h, ht⟩

theorem blocked_of_unmarked {n : Nat} (ho : ¬ r.Opens n) (ht : ¬ r.GrantsTrial n)
    (hl : ¬ r.Closes n) (t : Instant) : r.Blocked (n + 1) t ↔ r.Blocked n t := by
  rw [Blocked, exists_since_succ]
  simp only [ho, ht, hl, or_self, false_and, false_or, not_false_eq_true, true_and, Blocked]

/-- What the state of the circuit knows of the past. -/
theorem refuses_iff (r : Run) (n : Nat) {t : Instant} (ht : ∀ m < n, r.time m ≤ t) :
    (r.state n).circuit.refuses r.settings.sleepWindow t = true ↔ r.Blocked n t := by
  induction n with
  | zero =>
    refine iff_of_false Bool.false_ne_true fun hb => ?_
    obtain ⟨m, hs, -⟩ := hb
    exact Nat.not_lt_zero m hs.1
  | succ n ih =>
    have hn : r.time n ≤ t := ht n (Nat.lt_succ_self n)
    have hpast : ∀ m < n, r.time m ≤ t := fun m hm => ht m (Nat.lt_succ_of_lt hm)
    cases r.change n with
    | opens h hc =>
      rw [blocked_of_marked (.inl h), hc]
      simpa [CircuitState.refuses] using Nat.sub_lt_iff_lt_add' hn
    | tries h _ _ hc =>
      rw [blocked_of_marked (.inr h), hc]
      simpa [CircuitState.refuses] using Nat.sub_lt_iff_lt_add' hn
    | closes h hc =>
      rw [hc]
      exact iff_of_false Bool.false_ne_true (not_blocked_of_closes h t)
    | keeps ho htr hl hc => rw [blocked_of_unmarked ho htr hl, hc, ih hpast]
    | elapses ho htr hl hs hd hc =>
      rename_i since
      -- the sleep window of the open circuit was over in this step, and is over now
      have hover : (r.state n).circuit.refuses r.settings.sleepWindow t = false := by
        rw [settings_state] at hd
        simpa [hs, CircuitState.refuses] using
          Nat.le_trans hd (Nat.sub_le_sub_right hn since)
      rw [blocked_of_unmarked ho htr hl, ← ih hpast, hover, hc]
      rfl

/-- The circuit is not closed exactly if it was opened since it was last closed. -/
theorem not_closed_iff (r : Run) (n : Nat) :
    (r.state n).circuit ≠ .closed ↔ ∃ m, r.Since m n ∧ r.Opens m := by
  induction n with
  | zero =>
    exact ⟨fun h => absurd rfl h, fun ⟨m, hs, _⟩ => absurd hs.1 (Nat.not_lt_zero m)⟩
  | succ n ih =>
    rw [exists_since_succ]
    cases r.change n with
    | opens h hc => exact iff_of_true (by simp [hc]) (.inl h)
    | tries h hn _ hc =>
      have hl : ¬ r.Closes n := fun hl => not_marked_of_closes hl (.inr h)
      exact iff_of_true (by simp [hc]) (.inr ⟨hl, ih.mp hn⟩)
    | closes h hc =>
      refine iff_of_false (fun hn => hn hc) ?_
      rintro (ho | ⟨hl, -⟩)
      · exact not_marked_of_closes h (.inl ho)
      · exact hl h
    | keeps ho _ hl hc =>
      rw [hc, ih]
      exact ⟨fun h => .inr ⟨hl, h⟩, fun h => (h.resolve_left ho).2⟩
    | elapses _ _ hl hs _ hc =>
      exact iff_of_true (by simp [hc]) (.inr ⟨hl, ih.mp (by simp [hs])⟩)

/-- An instant that is not before step `i` is early while the sleep window of step `i` lasts. -/
theorem sub_lt_of_lt {i j : Nat} (hij : i ≤ j) {since : Instant} (hs : r.time i ≤ since)
    (ht : r.time j < r.time i + r.settings.sleepWindow) :
    r.time j - since < r.settings.sleepWindow :=
  Nat.lt_of_le_of_lt (Nat.sub_le_sub_left hs _) ((Nat.sub_lt_iff_lt_add' (r.mono hij)).mpr ht)

/-- An open circuit stays open for a sleep window, unless it is closed by hand. -/
theorem Opens.opened {i j : Nat} (hi : r.Opens i) (hij : i < j)
    (hreset : ∀ k, i < k → k < j → r.operation k ≠ .reset)
    (ht : r.time j < r.time i + r.settings.sleepWindow) :
    ∃ since, r.time i ≤ since ∧ (r.state j).circuit = .opened since := by
  induction hij with
  | refl =>
    cases r.change i with
    | opens _ hc => exact ⟨_, Nat.le_refl _, hc⟩
    | tries h _ _ hc => exact absurd (hi.phase.symm.trans (GrantsTrial.phase h)) nofun
    | closes h _ => exact absurd (.inl hi) (not_marked_of_closes h)
    | keeps ho => exact absurd hi ho
    | elapses ho => exact absurd hi ho
  | step hle ih =>
    rename_i j
    have hj : r.time j < r.time i + r.settings.sleepWindow :=
      Nat.lt_of_le_of_lt (r.mono (Nat.le_succ j)) ht
    obtain ⟨since, hsince, hopen⟩ :=
      ih (fun k hik hkj => hreset k hik (Nat.lt_succ_of_lt hkj)) hj
    have hearly := sub_lt_of_lt (Nat.le_of_lt hle) hsince hj
    cases r.change j with
    | opens _ hc => exact ⟨_, r.mono (Nat.le_of_lt hle), hc⟩
    | tries _ _ hr _ => simp [hopen, CircuitState.refuses, Nat.not_le.mpr hearly] at hr
    | closes _ _ hn =>
      rcases hn with h | h
      · exact absurd h (hreset j hle (Nat.lt_succ_self j))
      · simp [hopen, CircuitState.phase] at h
    | keeps _ _ _ hc => exact ⟨since, hsince, hc.trans hopen⟩
    | elapses _ _ _ hs hd _ =>
      obtain rfl := CircuitState.opened.inj (hopen.symm.trans hs)
      rw [settings_state] at hd
      exact absurd hearly (Nat.not_lt.mpr hd)

/-! ## Calls -/

theorem refused_iff {n : Nat} (h : r.operation n = .acquire) :
    r.reading n = .permission none ↔
      (r.state n).circuit.refuses r.settings.sleepWindow (r.time n) = true := by
  rw [r.reading_of_acquire n h]
  split
  · simp_all
  · split <;> simp_all

theorem permission_of_granted {n : Nat} (h : r.operation n = .acquire) {p : Permission}
    (hp : r.reading n = .permission (some p)) :
    (p = .normal ∧ (r.state n).circuit = .closed) ∨ (p = .trial ∧ (r.state n).circuit ≠ .closed) := by
  rw [r.reading_of_acquire n h] at hp
  split at hp
  · cases hp
  · split at hp
    · rename_i hc
      cases hp
      exact .inl ⟨rfl, hc⟩
    · rename_i hc
      cases hp
      exact .inr ⟨rfl, hc⟩

end Run

/-- When a call is let through, and how. It is refused exactly if, since the circuit was last closed,
the circuit was opened or a trial was granted less than a sleep window ago; a call that passes is a
trial exactly if the circuit was opened since it was last closed. So two trials without a closing
between them are a sleep window apart, no call passes within a sleep window of an opening unless the
circuit is closed by hand, and a call that comes a sleep window after the last opening and the last
trial passes, also if no trial has reported. -/
theorem admission_law (r : Run) {n : Nat} (h : r.operation n = .acquire) :
    (r.reading n = .permission none ↔
      ∃ m, r.Since m n ∧ (r.Opens m ∨ r.GrantsTrial m) ∧
        r.time n < r.time m + r.settings.sleepWindow) ∧
    (∀ p, r.reading n = .permission (some p) →
      (p = .normal ∧ ¬ ∃ m, r.Since m n ∧ r.Opens m) ∨
        (p = .trial ∧ ∃ m, r.Since m n ∧ r.Opens m)) ∧
    (∀ m, r.Since m n → r.GrantsTrial m → r.GrantsTrial n →
      r.time m + r.settings.sleepWindow ≤ r.time n) ∧
    (∀ m < n, r.Opens m → (∀ k, m < k → k < n → r.operation k ≠ .reset) →
      r.time n < r.time m + r.settings.sleepWindow → r.reading n = .permission none) ∧
    ((∀ m < n, r.Opens m ∨ r.GrantsTrial m → r.time m + r.settings.sleepWindow ≤ r.time n) →
      ∃ p, r.reading n = .permission (some p)) := by
  have hlaw : r.reading n = .permission none ↔ r.Blocked n (r.time n) :=
    (Run.refused_iff h).trans (r.refuses_iff n fun m hm => r.mono (Nat.le_of_lt hm))
  refine ⟨hlaw, fun p hp => ?_, fun m hs hm hn => ?_, fun m hmn ho hreset ht => ?_, fun hover => ?_⟩
  · rcases Run.permission_of_granted h hp with ⟨rfl, hc⟩ | ⟨rfl, hc⟩
    · exact .inl ⟨rfl, fun ho => (r.not_closed_iff n).mpr ho hc⟩
    · exact .inr ⟨rfl, (r.not_closed_iff n).mp hc⟩
  · by_contra hlt
    have hrefused := hlaw.mpr ⟨m, hs, .inr hm, Nat.lt_of_not_le hlt⟩
    cases hn.symm.trans hrefused
  · obtain ⟨since, hsince, hopen⟩ := ho.opened hmn hreset ht
    rw [Run.refused_iff h, hopen]
    simpa [CircuitState.refuses] using Run.sub_lt_of_lt (Nat.le_of_lt hmn) hsince ht
  · rw [r.reading_of_acquire n h] at hlaw ⊢
    split
    · rename_i hr
      rw [if_pos hr] at hlaw
      obtain ⟨m, hs, hmark, hlt⟩ := hlaw.mp rfl
      exact absurd hlt (Nat.not_lt.mpr (hover m hs.1 hmark))
    · split
      · exact ⟨.normal, rfl⟩
      · exact ⟨.trial, rfl⟩

namespace Sample

/-- The circuit is opened by hand. A sleep window later a call is let through as a trial, and a
second later another one is refused. -/
def trialRun : Run :=
  .ofSteps (.ofCommand "lunch" {})
    [(0, .forceOpen), (Span.ofSeconds 5, .acquire), (Span.ofSeconds 1, .acquire)]

end Sample

theorem admission_law_trialRun :
    Sample.trialRun.operation 2 = .acquire ∧ Sample.trialRun.reading 2 = .permission none ∧
      ∃ m, Sample.trialRun.Since m 2 ∧ (Sample.trialRun.Opens m ∨ Sample.trialRun.GrantsTrial m) ∧
        Sample.trialRun.time 2 < Sample.trialRun.time m + Sample.trialRun.settings.sleepWindow := by
  have hlaw := (admission_law Sample.trialRun (n := 2) rfl).1
  have hrefused : Sample.trialRun.reading 2 = .permission none := rfl
  exact ⟨rfl, hrefused, hlaw.mp hrefused⟩

end Breaker

end ServiceBinding
