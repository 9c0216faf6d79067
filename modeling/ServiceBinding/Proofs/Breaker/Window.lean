import Mathlib.Algebra.Ring.Nat
import Mathlib.Data.List.Basic
import Mathlib.Data.List.Induction
import ServiceBinding.Breaker.Window

/-!
# The buckets of a rolling window

Buckets open one bucket length apart (`Window.Spaced`), so that the ones which have left the window
stand first, and a window that drops them from the front drops all of them (`buckets_prune`). What a
window holds at an instant, its live buckets, is therefore the same whenever it was last pruned.
-/

namespace ServiceBinding

namespace Window

/-- Each bucket opened at least one bucket length after those before it. -/
def Spaced (bucketLength : Span) (buckets : List Bucket) : Prop :=
  buckets.Pairwise fun b c => b.start + bucketLength ≤ c.start

/-- No outcome of the instant goes in a bucket held: the last one, if any, is full. -/
def IsFull (bucketLength : Span) (now : Instant) (buckets : List Bucket) : Prop :=
  ∀ b ∈ buckets.getLast?, b.start + bucketLength ≤ now

/-- The buckets that have not left the window. -/
def live (w : Window) (now : Instant) : List Bucket :=
  w.buckets.filter fun b => now < b.start + w.length

variable {bucketLength : Span} {now : Instant} {buckets : List Bucket} {b : Bucket} {o : Outcome}

/-! ## Adding an outcome -/

theorem isFull_nil : IsFull bucketLength now [] := nofun

@[simp] theorem isFull_concat :
    IsFull bucketLength now (buckets ++ [b]) ↔ b.start + bucketLength ≤ now := by
  simp [IsFull]

theorem Spaced.concat :
    Spaced bucketLength (buckets ++ [b]) ↔
      Spaced bucketLength buckets ∧ ∀ c ∈ buckets, c.start + bucketLength ≤ b.start := by
  simp [Spaced, List.pairwise_append]

theorem addTo_concat :
    addTo bucketLength now o (buckets ++ [b]) =
      if b.start + bucketLength ≤ now then buckets ++ [b] ++ [({ start := now } : Bucket).add o]
      else buckets ++ [b.add o] := by
  induction buckets with
  | nil => simp only [addTo, List.nil_append, List.singleton_append]
  | cons c rest ih =>
    have hcons : addTo bucketLength now o (c :: (rest ++ [b])) =
        c :: addTo bucketLength now o (rest ++ [b]) := by
      cases rest <;> rfl
    rw [List.cons_append, hcons, ih]
    split <;> rfl

/-- An outcome that finds the last bucket full opens one. -/
theorem addTo_of_isFull (h : IsFull bucketLength now buckets) :
    addTo bucketLength now o buckets = buckets ++ [({ start := now } : Bucket).add o] := by
  rcases buckets.eq_nil_or_concat' with rfl | ⟨rest, b, rfl⟩
  · rfl
  · rw [addTo_concat, if_pos (isFull_concat.mp h)]

theorem addTo_of_not_isFull (h : ¬ b.start + bucketLength ≤ now) :
    addTo bucketLength now o (buckets ++ [b]) = buckets ++ [b.add o] := by
  rw [addTo_concat, if_neg h]

@[simp] theorem add_start : (b.add o).start = b.start := by
  cases o <;> rfl

/-- A bucket held after an outcome was held before, as it is or without that outcome, or is new. -/
theorem mem_addTo {c : Bucket} (h : c ∈ addTo bucketLength now o buckets) :
    c ∈ buckets ∨ (∃ b ∈ buckets, c = b.add o) ∨ c = ({ start := now } : Bucket).add o := by
  rcases buckets.eq_nil_or_concat' with rfl | ⟨rest, b, rfl⟩
  · exact .inr (.inr (List.mem_singleton.mp h))
  · rw [addTo_concat] at h
    split at h
    · rcases List.mem_append.mp h with h | h
      · exact .inl h
      · exact .inr (.inr (List.mem_singleton.mp h))
    · rcases List.mem_append.mp h with h | h
      · exact .inl (List.mem_append_left _ h)
      · exact .inr (.inl ⟨b, by simp, List.mem_singleton.mp h⟩)

theorem Spaced.start_le (h : Spaced bucketLength (buckets ++ [b])) {c : Bucket} (hc : c ∈ buckets) :
    c.start ≤ b.start :=
  Nat.le_trans (Nat.le_add_right _ _) ((Spaced.concat.mp h).2 c hc)

theorem Spaced.addTo (h : Spaced bucketLength buckets) :
    Spaced bucketLength (addTo bucketLength now o buckets) := by
  rcases buckets.eq_nil_or_concat' with rfl | ⟨rest, b, rfl⟩
  · exact List.pairwise_singleton _ _
  · rw [addTo_concat]
    obtain ⟨hrest, hb⟩ := Spaced.concat.mp h
    split
    · rename_i hfull
      refine Spaced.concat.mpr ⟨h, fun c hc => ?_⟩
      rw [add_start]
      rcases List.mem_append.mp hc with hc | hc
      · exact Nat.le_trans (hb c hc) (Nat.le_trans (Nat.le_add_right _ _) hfull)
      · rwa [List.mem_singleton.mp hc]
    · exact Spaced.concat.mpr ⟨hrest, by simpa using hb⟩

/-! ## Dropping buckets -/

/-- Dropping from the front drops every bucket that has left the window. -/
theorem buckets_prune {w : Window} (h : Spaced w.bucketLength w.buckets) (now : Instant) :
    (w.prune now).buckets = w.live now := by
  obtain ⟨length, bucketLength, buckets⟩ := w
  simp only [prune, live] at h ⊢
  induction buckets with
  | nil => rfl
  | cons b rest ih =>
    obtain ⟨hb, hrest⟩ := List.pairwise_cons.mp h
    by_cases hold : b.start + length ≤ now
    · rw [List.dropWhile_cons_of_pos (by simpa using hold),
        List.filter_cons_of_neg (by simpa using hold)]
      exact ih hrest
    · -- the first bucket is live, and the others opened later
      have hlive : ∀ c ∈ b :: rest, decide (now < c.start + length) = true := by
        intro c hc
        have hstart : b.start ≤ c.start := by
          rcases List.mem_cons.mp hc with rfl | hc
          · exact Nat.le_refl _
          · exact Nat.le_trans (Nat.le_add_right _ _) (hb c hc)
        exact decide_eq_true
          (Nat.lt_of_lt_of_le (Nat.lt_of_not_le hold) (Nat.add_le_add_right hstart _))
      rw [List.dropWhile_cons_of_neg (by simpa using hold), List.filter_eq_self.mpr hlive]

theorem Spaced.live {w : Window} (h : Spaced w.bucketLength w.buckets) (now : Instant) :
    Spaced w.bucketLength (w.live now) :=
  List.Pairwise.filter _ h

/-- The buckets that are live later are live now. -/
theorem live_live (w : Window) {t t' : Instant} (h : t ≤ t') :
    (w.live t).filter (fun b => t' < b.start + w.length) = w.live t' := by
  rw [live, List.filter_filter]
  refine List.filter_congr fun b _ => ?_
  have hlater : t' < b.start + w.length → t < b.start + w.length := Nat.lt_of_le_of_lt h
  simpa using hlater

theorem prune_eq {w : Window} (h : Spaced w.bucketLength w.buckets) (now : Instant) :
    w.prune now = { w with buckets := w.live now } := by
  rw [← buckets_prune h]
  rfl

@[simp] theorem live_prune {w : Window} (h : Spaced w.bucketLength w.buckets) (now : Instant) :
    (w.prune now).live now = w.live now := by
  rw [prune_eq h]
  exact live_live w (Nat.le_refl now)

theorem record_eq {w : Window} (h : Spaced w.bucketLength w.buckets) (now : Instant) (o : Outcome) :
    w.record now o = { w with buckets := addTo w.bucketLength now o (w.live now) } := by
  rw [record, prune_eq h]

/-- If the last bucket has left the window, so have all before it. -/
theorem Spaced.filter_eq_nil (h : Spaced bucketLength (buckets ++ [b])) {t : Instant}
    {length : Span} (hb : ¬ t < b.start + length) :
    buckets.filter (fun c => t < c.start + length) = [] := by
  refine List.filter_eq_nil_iff.mpr fun c hc => ?_
  have hle : c.start + length ≤ t :=
    Nat.le_trans (Nat.add_le_add_right (h.start_le hc) length) (Nat.le_of_not_lt hb)
  simpa using hle

/-- Right after an outcome, none of the buckets held has left a window of some length. -/
theorem live_record {w : Window} (h : Spaced w.bucketLength w.buckets) (hlength : 0 < w.length)
    (now : Instant) (o : Outcome) : (w.record now o).live now = (w.record now o).buckets := by
  have hlive : ∀ b ∈ w.live now, now < b.start + w.length := fun b hb => by
    simpa using (List.mem_filter.mp hb).2
  rw [record_eq h]
  simp only [live]
  rw [List.filter_eq_self]
  intro b hb
  simp only [decide_eq_true_eq]
  rcases mem_addTo hb with hb | ⟨c, hc, rfl⟩ | rfl
  · exact hlive b hb
  · rw [add_start]
    exact hlive c hc
  · rw [add_start]
    exact Nat.lt_add_of_pos_right hlength

/-! ## Counts -/

theorem counts_concat :
    counts (buckets ++ [b]) =
      { total := (counts buckets).total + b.successes + b.infrastructureFailures
        errors := (counts buckets).errors + b.infrastructureFailures
        serviceFailures := (counts buckets).serviceFailures + b.serviceFailures } := by
  rw [counts, List.foldl_append]
  rfl

end Window

/-- How many outcomes of a kind a bucket has counted. -/
def Bucket.count (b : Bucket) : Outcome → Nat
  | .success => b.successes
  | .serviceFailure => b.serviceFailures
  | .infrastructureFailure => b.infrastructureFailures

theorem Bucket.count_add (b : Bucket) (o kind : Outcome) :
    (b.add o).count kind = b.count kind + if kind = o then 1 else 0 := by
  cases o <;> cases kind <;> rfl

namespace Window

/-- How many outcomes of a kind the buckets have counted. -/
def tally (buckets : List Bucket) (kind : Outcome) : Nat :=
  (buckets.map fun b => b.count kind).sum

variable {bucketLength : Span} {now : Instant} {buckets : List Bucket}

theorem tally_concat (b : Bucket) (kind : Outcome) :
    tally (buckets ++ [b]) kind = tally buckets kind + b.count kind := by
  simp [tally]

/-- An outcome is counted once, in whichever bucket. -/
theorem tally_addTo (o kind : Outcome) :
    tally (addTo bucketLength now o buckets) kind =
      tally buckets kind + if kind = o then 1 else 0 := by
  have hnew : (({ start := now } : Bucket).add o).count kind = if kind = o then 1 else 0 := by
    cases o <;> cases kind <;> rfl
  rcases buckets.eq_nil_or_concat' with rfl | ⟨rest, b, rfl⟩
  · simp [addTo, tally, hnew]
  · rw [addTo_concat]
    split
    · rw [tally_concat, hnew]
    · rw [tally_concat, tally_concat, Bucket.count_add, Nat.add_assoc]

/-- An outcome is held along with those that were held when it came. -/
theorem tally_live_record {w : Window} (h : Spaced w.bucketLength w.buckets)
    (hlength : 0 < w.length) (now : Instant) (o kind : Outcome) :
    tally ((w.record now o).live now) kind =
      tally (w.live now) kind + if kind = o then 1 else 0 := by
  rw [live_record h hlength, record_eq h]
  exact tally_addTo o kind

theorem counts_eq (buckets : List Bucket) :
    counts buckets =
      { total := tally buckets .success + tally buckets .infrastructureFailure
        errors := tally buckets .infrastructureFailure
        serviceFailures := tally buckets .serviceFailure } := by
  induction buckets using List.reverseRecOn with
  | nil => rfl
  | append_singleton rest b ih =>
    rw [counts_concat, ih]
    simp only [tally_concat, Bucket.count]
    congr 1
    omega

/-- What a reading counts is in the live buckets. -/
theorem health_eq {w : Window} (h : Spaced w.bucketLength w.buckets) (now : Instant) :
    (w.health now).2 = counts (w.live now) := by
  rw [← buckets_prune h]
  rfl

end Window

end ServiceBinding
