import Mathlib.Algebra.Order.Floor.Div
import Mathlib.Data.Set.Card
import ServiceBinding.Proofs.Breaker.Window
import ServiceBinding.Proofs.Trace

/-!
# What a rolling window retains

A window is driven by outcomes, readings and resets at any times that do not go back. An outcome leaves
the window together with its bucket, one window length after the bucket was opened; and a bucket takes
outcomes for one bucket length. So an outcome is counted for the length of the window less that of a
bucket, and never for longer than the window (`Run.tally_live`, `opened_record`).

The buckets opened one bucket length apart and are all younger than the window, which bounds their number.
-/

namespace ServiceBinding

namespace Window

/-! ## One outcome -/

/-- When the last bucket opened. -/
def opened (w : Window) : Instant := (w.buckets.getLast?.map Bucket.start).getD 0

section

variable {w : Window} {now t : Instant}

/-- The last bucket after an outcome was opened for it, or was not full. -/
theorem record_cases (h : Spaced w.bucketLength w.buckets) (now : Instant) (o : Outcome) :
    (w.record now o).buckets = w.live now ++ [({ start := now } : Bucket).add o] ∨
      ∃ rest b, w.live now = rest ++ [b] ∧ now < b.start + w.bucketLength ∧
        (w.record now o).buckets = rest ++ [b.add o] := by
  have hrecord : (w.record now o).buckets = addTo w.bucketLength now o (w.live now) :=
    congrArg buckets (record_eq h now o)
  rw [hrecord]
  rcases (w.live now).eq_nil_or_concat' with hnil | ⟨rest, b, hlive⟩
  · left
    rw [hnil]
    rfl
  · rw [hlive, addTo_concat]
    split
    · exact .inl rfl
    · rename_i hroom
      exact .inr ⟨rest, b, rfl, Nat.lt_of_not_le hroom, rfl⟩

theorem opened_of_buckets {rest : List Bucket} {b : Bucket} (h : w.buckets = rest ++ [b]) :
    w.opened = b.start := by
  simp [opened, h]

/-- An outcome is counted in a bucket that was opened for it, or less than a bucket length before. -/
theorem opened_record (h : Spaced w.bucketLength w.buckets) (hlength : 0 < w.bucketLength)
    (hpast : ∀ b ∈ w.buckets, b.start ≤ now) (o : Outcome) :
    (w.record now o).opened ≤ now ∧ now < (w.record now o).opened + w.bucketLength := by
  rcases record_cases h now o with hnew | ⟨rest, b, hlive, hroom, hadded⟩
  · rw [opened_of_buckets hnew, add_start]
    exact ⟨Nat.le_refl _, Nat.lt_add_of_pos_right hlength⟩
  · rw [opened_of_buckets hadded, add_start]
    have hb : b ∈ w.live now := hlive ▸ List.mem_append_right _ (List.mem_singleton_self b)
    exact ⟨hpast b (List.mem_filter.mp hb).1, hroom⟩

theorem tally_filter_concat (buckets : List Bucket) (b : Bucket) (t : Instant) (length : Span)
    (kind : Outcome) :
    tally ((buckets ++ [b]).filter fun c => t < c.start + length) kind =
      tally (buckets.filter fun c => t < c.start + length) kind +
        if t < b.start + length then b.count kind else 0 := by
  rw [List.filter_append]
  by_cases hlive : t < b.start + length
  · rw [List.filter_cons_of_pos (by simpa using hlive), List.filter_nil, tally_concat, if_pos hlive]
  · rw [List.filter_cons_of_neg (by simpa using hlive), List.filter_nil, List.append_nil, if_neg hlive,
      Nat.add_zero]

/-- An outcome is counted as long as its bucket is held, and changes no other count. -/
theorem tally_live_of_record (h : Spaced w.bucketLength w.buckets) (hle : now ≤ t) (o kind : Outcome) :
    tally ((w.record now o).live t) kind =
      tally (w.live t) kind + if t < (w.record now o).opened + w.length ∧ kind = o then 1 else 0 := by
  have hlive : (w.record now o).live t =
      (w.record now o).buckets.filter fun b => t < b.start + w.length := rfl
  have hnew : (({ start := now } : Bucket).add o).count kind = if kind = o then 1 else 0 :=
    (Bucket.count_add _ o kind).trans (by cases kind <;> exact Nat.zero_add _)
  -- a bucket that is held at `t` was held at `now`, so all is read off the buckets of `now`
  rw [hlive, ← live_live w hle]
  rcases record_cases h now o with hbuckets | ⟨rest, b, hbefore, -, hbuckets⟩
  · rw [hbuckets, opened_of_buckets hbuckets, tally_filter_concat, hnew, ite_and]
  · rw [hbefore, hbuckets, opened_of_buckets hbuckets, tally_filter_concat, tally_filter_concat,
      Bucket.count_add, add_start]
    by_cases hheld : t < b.start + w.length
    · simp only [hheld, if_true, true_and]
      omega
    · simp only [hheld, if_false, false_and]

end

/-! ## The number of buckets -/

theorem Spaced.start_add_le {bucketLength : Span} {buckets : List Bucket}
    (h : Spaced bucketLength buckets) (hpos : 0 < buckets.length) {i : Nat} (hi : i < buckets.length) :
    buckets[0].start + i * bucketLength ≤ buckets[i].start := by
  induction i with
  | zero => simp
  | succ i ih =>
    have hgap := List.pairwise_iff_getElem.mp h i (i + 1) (by omega) hi (Nat.lt_succ_self i)
    have hbefore := ih (by omega)
    calc buckets[0].start + (i + 1) * bucketLength
        = buckets[0].start + i * bucketLength + bucketLength := by rw [Nat.succ_mul, Nat.add_assoc]
      _ ≤ buckets[i].start + bucketLength := Nat.add_le_add_right hbefore _
      _ ≤ buckets[i + 1].start := hgap

/-- Buckets that are all younger than the window are no more than there are bucket lengths in it, a
broken one included. -/
theorem Spaced.length_le {bucketLength length : Span} {buckets : List Bucket}
    (h : Spaced bucketLength buckets) (hpos : 0 < bucketLength) (now : Instant)
    (hheld : ∀ b ∈ buckets, b.start ≤ now ∧ now < b.start + length) :
    buckets.length ≤ length ⌈/⌉ bucketLength := by
  rcases Nat.eq_zero_or_pos buckets.length with hnil | hsome
  · rw [hnil]
    exact Nat.zero_le _
  · -- the first bucket is younger than the window and the last one is not opened later than now
    have hlast : buckets.length - 1 < buckets.length := by omega
    have hfits : (buckets.length - 1) * bucketLength < length := by
      refine Nat.lt_of_add_lt_add_left (n := buckets[0].start) ?_
      calc buckets[0].start + (buckets.length - 1) * bucketLength
          ≤ buckets[buckets.length - 1].start := h.start_add_le hsome hlast
        _ ≤ now := (hheld _ (List.getElem_mem hlast)).1
        _ < buckets[0].start + length := (hheld _ (List.getElem_mem hsome)).2
    have hlt : buckets.length - 1 < length ⌈/⌉ bucketLength := by
      by_contra hle
      rw [Nat.not_lt, ceilDiv_le_iff_le_mul hpos, Nat.mul_comm] at hle
      exact absurd hfits (Nat.not_lt.mpr hle)
    omega

/-! ## Runs -/

/-- What is done with a window. -/
inductive Operation
  | record (o : Outcome)
  | health
  | reset
  deriving DecidableEq, Inhabited

def perform (w : Window) (now : Instant) : Operation → Window
  | .record o => w.record now o
  | .health => (w.health now).1
  | .reset => w.reset

section

variable {w : Window} {now : Instant} {op : Operation} {b : Bucket}

theorem perform_spaced (h : Spaced w.bucketLength w.buckets) (now : Instant) (op : Operation) :
    Spaced w.bucketLength (w.perform now op).buckets := by
  cases op with
  | record o =>
    rw [perform, record_eq h]
    exact (h.live now).addTo
  | health =>
    have hbuckets : (w.perform now .health).buckets = w.live now := buckets_prune h now
    rw [hbuckets]
    exact h.live now
  | reset => exact .nil

/-- Every bucket held was held before or is opened now. -/
theorem start_of_mem_perform (h : Spaced w.bucketLength w.buckets)
    (hb : b ∈ (w.perform now op).buckets) : (∃ c ∈ w.buckets, c.start = b.start) ∨ b.start = now := by
  cases op with
  | record o =>
    rw [perform, record_eq h] at hb
    rcases mem_addTo hb with hb | ⟨c, hc, rfl⟩ | rfl
    · exact .inl ⟨b, (List.mem_filter.mp hb).1, rfl⟩
    · exact .inl ⟨c, (List.mem_filter.mp hc).1, add_start.symm⟩
    · exact .inr add_start
  | health => exact .inl ⟨b, (List.dropWhile_suffix _).subset hb, rfl⟩
  | reset => cases hb

/-- Every bucket held after an operation is younger than the window. -/
theorem young_of_mem_perform (h : Spaced w.bucketLength w.buckets) (hlength : 0 < w.length)
    (hb : b ∈ (w.perform now op).buckets) : now < b.start + w.length := by
  have hyoung {buckets : List Bucket} (hb : b ∈ buckets.filter fun c => now < c.start + w.length) :
      now < b.start + w.length := by
    simpa using (List.mem_filter.mp hb).2
  cases op with
  | record o =>
    rw [perform, ← live_record h hlength] at hb
    exact hyoung hb
  | health =>
    have hbuckets : (w.perform now .health).buckets = w.live now := buckets_prune h now
    rw [hbuckets] at hb
    exact hyoung hb
  | reset => cases hb

end

/-- A run of a new window. -/
structure Run where
  /-- How long the window is, and in how many buckets it is divided. -/
  length : Span
  count : Nat
  time : Nat → Instant
  operation : Nat → Operation
  mono : Monotone time

namespace Run

/-- A run given by its first operations and the time that passes before each; from then on the window is
read again and again. -/
def ofSteps (length : Span) (count : Nat) (steps : List (Span × Operation)) : Run where
  length := length
  count := count
  time := Trace.clock steps
  operation n := (steps[n]?.map Prod.snd).getD .health
  mono := Trace.clock_mono steps

/-- The window before step `n`. -/
def state (r : Run) : Nat → Window
  | 0 => new r.length r.count
  | n + 1 => (r.state n).perform (r.time n) (r.operation n)

/-- How long a bucket takes outcomes. -/
def bucketLength (r : Run) : Span := max (r.length / r.count) (Span.ofMillis 1)

/-- In step `m`, before step `n`, an outcome of the kind was recorded, and the window was not reset
since. -/
def Recorded (r : Run) (kind : Outcome) (m n : Nat) : Prop :=
  m < n ∧ r.operation m = .record kind ∧ ∀ k, m < k → k < n → r.operation k ≠ .reset

variable (r : Run) (n : Nat)

theorem bucketLength_pos : 0 < r.bucketLength :=
  Nat.lt_of_lt_of_le (by decide) (Nat.le_max_right _ _)

@[simp] theorem state_length : (r.state n).length = r.length := by
  induction n with
  | zero => rfl
  | succ n ih =>
    rw [state, ← ih]
    cases r.operation n <;> rfl

@[simp] theorem state_bucketLength : (r.state n).bucketLength = r.bucketLength := by
  induction n with
  | zero => rfl
  | succ n ih =>
    rw [state, ← ih]
    cases r.operation n <;> rfl

theorem spaced : Spaced (r.state n).bucketLength (r.state n).buckets := by
  induction n with
  | zero => exact .nil
  | succ n ih =>
    have hnext := perform_spaced ih (r.time n) (r.operation n)
    rw [state_bucketLength] at hnext ⊢
    exact hnext

variable {r n}

theorem state_of_record {o : Outcome} (h : r.operation n = .record o) :
    r.state (n + 1) = (r.state n).record (r.time n) o := by
  rw [state, h, perform]

/-- No bucket was opened later than the last step. -/
theorem start_le {t : Instant} (ht : ∀ m < n, r.time m ≤ t) {b : Bucket}
    (hb : b ∈ (r.state n).buckets) : b.start ≤ t := by
  induction n generalizing b with
  | zero => cases hb
  | succ n ih =>
    rcases start_of_mem_perform (r.spaced n) hb with ⟨c, hc, hstart⟩ | hstart
    · exact hstart ▸ ih (fun m hm => ht m (Nat.lt_succ_of_lt hm)) hc
    · exact hstart ▸ ht n (Nat.lt_succ_self n)

theorem young (hlength : 0 < r.length) {b : Bucket} (hb : b ∈ (r.state (n + 1)).buckets) :
    r.time n < b.start + r.length := by
  rw [← r.state_length n] at hlength ⊢
  exact young_of_mem_perform (r.spaced n) hlength hb

/-! ## What is counted -/

theorem recorded_succ {kind : Outcome} {m : Nat} :
    r.Recorded kind m (n + 1) ↔
      m = n ∧ r.operation n = .record kind ∨ r.Recorded kind m n ∧ r.operation n ≠ .reset := by
  constructor
  · rintro ⟨hmn, hm, hreset⟩
    rcases Nat.lt_or_eq_of_le (Nat.le_of_lt_succ hmn) with hlt | rfl
    · exact .inr ⟨⟨hlt, hm, fun k hmk hkn => hreset k hmk (Nat.lt_succ_of_lt hkn)⟩,
        hreset n hlt (Nat.lt_succ_self n)⟩
    · exact .inl ⟨rfl, hm⟩
  · rintro (⟨rfl, hm⟩ | ⟨⟨hmn, hm, hreset⟩, hn⟩)
    · exact ⟨Nat.lt_succ_self m, hm, fun k hmk hkm => absurd hkm (Nat.not_lt.mpr hmk)⟩
    · refine ⟨Nat.lt_succ_of_lt hmn, hm, fun k hmk hkn => ?_⟩
      rcases Nat.lt_or_eq_of_le (Nat.le_of_lt_succ hkn) with hlt | rfl
      · exact hreset k hmk hlt
      · exact hn

/-- When the bucket was opened in which the outcome of step `m` was counted. -/
def home (r : Run) (m : Nat) : Instant := (r.state (m + 1)).opened

/-- The outcomes of a kind that are counted at `t`: those since the last reset whose buckets are still
in the window. -/
def retained (r : Run) (n : Nat) (t : Instant) (kind : Outcome) : Set Nat :=
  {m | r.Recorded kind m n ∧ t < r.home m + r.length}

theorem retained_finite (r : Run) (n : Nat) (t : Instant) (kind : Outcome) :
    (r.retained n t kind).Finite :=
  (Set.finite_lt_nat n).subset fun _ hm => hm.1.1

theorem retained_of_record {o kind : Outcome} (hop : r.operation n = .record o) (t : Instant) :
    r.retained (n + 1) t kind =
      if t < r.home n + r.length ∧ kind = o then insert n (r.retained n t kind)
      else r.retained n t kind := by
  have hkeeps : r.operation n ≠ .reset := by simp [hop]
  ext m
  split
  · rename_i hcounted
    constructor
    · rintro ⟨hm, ht⟩
      rcases recorded_succ.mp hm with ⟨rfl, -⟩ | ⟨hm, -⟩
      · exact .inl rfl
      · exact .inr ⟨hm, ht⟩
    · rintro (rfl | ⟨hm, ht⟩)
      · exact ⟨recorded_succ.mpr (.inl ⟨rfl, hcounted.2 ▸ hop⟩), hcounted.1⟩
      · exact ⟨recorded_succ.mpr (.inr ⟨hm, hkeeps⟩), ht⟩
  · rename_i hcounted
    constructor
    · rintro ⟨hm, ht⟩
      rcases recorded_succ.mp hm with ⟨rfl, hkind⟩ | ⟨hm, -⟩
      · exact absurd ⟨ht, Operation.record.inj (hkind.symm.trans hop)⟩ hcounted
      · exact ⟨hm, ht⟩
    · rintro ⟨hm, ht⟩
      exact ⟨recorded_succ.mpr (.inr ⟨hm, hkeeps⟩), ht⟩

theorem retained_of_health {kind : Outcome} (hop : r.operation n = .health) (t : Instant) :
    r.retained (n + 1) t kind = r.retained n t kind := by
  ext m
  simp [retained, recorded_succ, hop]

theorem retained_of_reset {kind : Outcome} (hop : r.operation n = .reset) (t : Instant) :
    r.retained (n + 1) t kind = ∅ := by
  ext m
  simp [retained, recorded_succ, hop]

/-- The window counts every outcome of a live bucket, once. -/
theorem tally_live {t : Instant} (ht : ∀ m < n, r.time m ≤ t) (kind : Outcome) :
    tally ((r.state n).live t) kind = (r.retained n t kind).ncard := by
  induction n with
  | zero =>
    have hnone : r.retained 0 t kind = ∅ :=
      Set.eq_empty_of_forall_notMem fun m hm => Nat.not_lt_zero m hm.1.1
    rw [hnone, Set.ncard_empty]
    rfl
  | succ n ih =>
    have hbefore := ih fun m hm => ht m (Nat.lt_succ_of_lt hm)
    have hn : r.time n ≤ t := ht n (Nat.lt_succ_self n)
    have hspaced := r.spaced n
    cases hop : r.operation n with
    | record o =>
      have hnew : n ∉ r.retained n t kind := fun h => Nat.lt_irrefl n h.1.1
      have hcounted := tally_live_of_record hspaced hn o kind
      rw [← state_of_record hop, state_length] at hcounted
      rw [hcounted, hbefore, retained_of_record hop, home]
      split
      · rw [Set.ncard_insert_of_notMem hnew (r.retained_finite n t kind)]
      · rfl
    | health =>
      have hkept : (r.state (n + 1)).live t = (r.state n).live t := by
        have hstate : r.state (n + 1) = { r.state n with buckets := (r.state n).live (r.time n) } := by
          rw [state, hop, ← prune_eq hspaced]
          rfl
        rw [hstate]
        exact live_live (r.state n) hn
      rw [hkept, hbefore, retained_of_health hop]
    | reset =>
      have hempty : (r.state (n + 1)).live t = [] := by
        rw [state, hop]
        rfl
      rw [hempty, retained_of_reset hop, Set.ncard_empty]
      rfl

/-- An outcome is counted in a bucket that was opened less than a bucket length before. -/
theorem home_le {m : Nat} {o : Outcome} (hop : r.operation m = .record o) :
    r.home m ≤ r.time m ∧ r.time m < r.home m + r.bucketLength := by
  have hpast : ∀ b ∈ (r.state m).buckets, b.start ≤ r.time m :=
    fun b hb => start_le (fun k hk => r.mono (Nat.le_of_lt hk)) hb
  have hlength : 0 < (r.state m).bucketLength := by
    rw [state_bucketLength]
    exact r.bucketLength_pos
  have hopened := opened_record (r.spaced m) hlength hpast o
  rwa [state_bucketLength, ← state_of_record hop] at hopened

end Run

/-- What a window counts, and how many buckets it takes. A reading counts every outcome once, and in its
kind, that was recorded since the last reset and at most the length of the window less that of a bucket
ago, and none that was recorded as long ago as the window is long. The buckets opened one after the
other, at least a bucket length apart, and after each operation there are no more of them than bucket
lengths in the window, a broken one included. -/
theorem health_retains (r : Run) (n : Nat) :
    (∀ t, (∀ m < n, r.time m ≤ t) → ∃ counted : Outcome → Finset Nat,
      ((r.state n).health t).2 =
        { total := (counted .success).card + (counted .infrastructureFailure).card
          errors := (counted .infrastructureFailure).card
          serviceFailures := (counted .serviceFailure).card } ∧
      (∀ kind, ∀ m ∈ counted kind, r.Recorded kind m n ∧ t < r.time m + r.length) ∧
      (r.bucketLength ≤ r.length → ∀ kind m, r.Recorded kind m n →
        t ≤ r.time m + (r.length - r.bucketLength) → m ∈ counted kind)) ∧
    ((r.state n).buckets.Pairwise fun b c =>
      b.start < c.start ∧ b.start + r.bucketLength ≤ c.start) ∧
    (0 < r.length → (r.state n).buckets.length ≤ r.length ⌈/⌉ r.bucketLength) := by
  have hspaced := r.spaced n
  rw [Run.state_bucketLength] at hspaced
  refine ⟨fun t ht => ?_, ?_, fun hlength => ?_⟩
  · refine ⟨fun kind => (r.retained_finite n t kind).toFinset, ?_, fun kind m hm => ?_,
      fun hfits kind m hm ht => ?_⟩
    · rw [health_eq (r.spaced n), counts_eq]
      simp only [Run.tally_live ht, Set.ncard_eq_toFinset_card _ (r.retained_finite n t _)]
    · obtain ⟨hrecorded, hheld⟩ := (Set.Finite.mem_toFinset _).mp hm
      exact ⟨hrecorded, Nat.lt_of_lt_of_le hheld
        (Nat.add_le_add_right (Run.home_le hrecorded.2.1).1 _)⟩
    · refine (Set.Finite.mem_toFinset _).mpr ⟨hm, ?_⟩
      have hhome := (Run.home_le hm.2.1).2
      calc t ≤ r.time m + (r.length - r.bucketLength) := ht
        _ < r.home m + r.bucketLength + (r.length - r.bucketLength) := Nat.add_lt_add_right hhome _
        _ = r.home m + r.length := by rw [Nat.add_assoc, Nat.add_sub_cancel' hfits]
  · refine hspaced.imp fun {b c} hgap => ⟨Nat.lt_of_lt_of_le ?_ hgap, hgap⟩
    exact Nat.lt_add_of_pos_right r.bucketLength_pos
  · cases n with
    | zero => exact Nat.zero_le _
    | succ n =>
      refine hspaced.length_le r.bucketLength_pos (r.time n) fun b hb => ?_
      exact ⟨Run.start_le (fun m hm => r.mono (Nat.le_of_lt_succ hm)) hb, Run.young hlength hb⟩

namespace Sample

/-- A success and a failure in one bucket, and a service failure in the next. -/
def mixedRun : Run :=
  .ofSteps (Span.ofMillis 1000) 4
    [(0, .record .success), (Span.ofMillis 100, .record .infrastructureFailure),
      (Span.ofMillis 200, .record .serviceFailure)]

end Sample

/-- A window length after the success the service failure is still counted, as it must be. The success is
not, and neither is the failure, which need not be and left with the bucket of the success. -/
theorem health_retains_mixedRun :
    (∀ m < 3, Sample.mixedRun.time m ≤ Span.ofMillis 1000) ∧
      ((Sample.mixedRun.state 3).health (Span.ofMillis 1000)).2 = { serviceFailures := 1 } ∧
      (∃ counted : Outcome → Finset Nat,
        ((Sample.mixedRun.state 3).health (Span.ofMillis 1000)).2 =
          { total := (counted .success).card + (counted .infrastructureFailure).card
            errors := (counted .infrastructureFailure).card
            serviceFailures := (counted .serviceFailure).card } ∧
        2 ∈ counted .serviceFailure ∧ 0 ∉ counted .success) ∧
      0 < Sample.mixedRun.length ∧ (Sample.mixedRun.state 3).buckets.length = 2 ∧
      (Sample.mixedRun.state 3).buckets.length ≤ 4 := by
  have ht : ∀ m < 3, Sample.mixedRun.time m ≤ Span.ofMillis 1000 := by decide
  have hlength : 0 < Sample.mixedRun.length := by decide
  obtain ⟨hcounts, -, hnumber⟩ := health_retains Sample.mixedRun 3
  obtain ⟨counted, hhealth, hyoung, hmust⟩ := hcounts _ ht
  have hrecorded : Sample.mixedRun.Recorded .serviceFailure 2 3 :=
    ⟨by decide, rfl, fun k hk hk' => by omega⟩
  refine ⟨ht, by decide, ⟨counted, hhealth, ?_, fun h => ?_⟩, hlength, by decide, hnumber hlength⟩
  · exact hmust (by decide) _ 2 hrecorded (by decide)
  · exact absurd (hyoung _ 0 h).2 (by decide)

end Window

end ServiceBinding
