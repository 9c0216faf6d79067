import ServiceBinding.Proofs.Breaker.Move
import ServiceBinding.Proofs.Breaker.Window

/-!
# Breakers that have missed service failures

Two breakers have seen the same, except that the second has missed service failures of a closed
circuit. Service failures open no circuit, but they open buckets, so the second window may lack
buckets in which nothing else was counted (`Window.Thinned`). An outcome that both see tells the two
apart only if it falls in a bucket that only the first has. That bucket is then the last one; the
relations name the condition under which the last bucket may be missing, and `Breaker.Thinner.record`
asks that it is full.
-/

namespace ServiceBinding

namespace Window

/-- Two buckets that differ in their service failures at most. -/
structure Alike (b c : Bucket) : Prop where
  start : c.start = b.start
  successes : c.successes = b.successes
  failures : c.infrastructureFailures = b.infrastructureFailures

theorem Alike.refl (b : Bucket) : Alike b b := ⟨rfl, rfl, rfl⟩

theorem Alike.add {b c : Bucket} (h : Alike b c) (o : Outcome) : Alike (b.add o) (c.add o) := by
  obtain ⟨hstart, hs, hf⟩ := h
  cases o <;> constructor <;> simp [Bucket.add, hstart, hs, hf]

/-- The second list of buckets is the first one without some service failures and without some
buckets that hold nothing else. If the last bucket is among these, `last` holds. -/
inductive Thinned : Prop → List Bucket → List Bucket → Prop
  | nil {last} : Thinned last [] []
  | both {last before bs cs b c} (h : Thinned before bs cs) (hb : Alike b c) :
      Thinned last (bs ++ [b]) (cs ++ [c])
  | missing {last before bs cs b} (h : Thinned before bs cs) (hs : b.successes = 0)
      (hf : b.infrastructureFailures = 0) (hlast : last) : Thinned last (bs ++ [b]) cs

namespace Thinned

variable {last last' : Prop} {bs cs : List Bucket} {bucketLength : Span} {now : Instant}

theorem imp (h : Thinned last bs cs) (hlast : last → last') : Thinned last' bs cs := by
  cases h with
  | nil => exact .nil
  | both h hb => exact .both h hb
  | missing h hs hf hl => exact .missing h hs hf (hlast hl)

theorem exists_start (h : Thinned last bs cs) {c : Bucket} (hc : c ∈ cs) :
    ∃ b ∈ bs, b.start = c.start := by
  induction h with
  | nil => cases hc
  | both h hb ih =>
    rcases List.mem_append.mp hc with hc | hc
    · obtain ⟨b, hmem, hstart⟩ := ih hc
      exact ⟨b, List.mem_append_left _ hmem, hstart⟩
    · rw [List.mem_singleton.mp hc]
      exact ⟨_, List.mem_append_right _ (List.mem_singleton_self _), hb.start.symm⟩
  | missing h hs hf hl ih =>
    obtain ⟨b, hmem, hstart⟩ := ih hc
    exact ⟨b, List.mem_append_left _ hmem, hstart⟩

theorem eq_nil (h : Thinned last [] cs) : cs = [] := by
  refine List.eq_nil_iff_forall_not_mem.mpr fun c hc => ?_
  obtain ⟨b, hb, -⟩ := h.exists_start hc
  cases hb

/-- What is dropped with time leaves nothing in one window that is not in the other. -/
theorem filter {length : Span} (h : Thinned last bs cs) (hspaced : Spaced bucketLength bs)
    (t : Instant) :
    Thinned last (bs.filter fun b => t < b.start + length)
      (cs.filter fun b => t < b.start + length) := by
  induction h with
  | nil => exact .nil
  | @both last before bs cs b c h hb ih =>
    have hrest := ih (Spaced.concat.mp hspaced).1
    simp only [List.filter_append, List.filter_singleton, hb.start]
    by_cases hlive : t < b.start + length
    · simpa only [hlive, decide_true, cond_true] using hrest.both hb
    · have hnil := hspaced.filter_eq_nil hlive
      simp only [hnil] at hrest ⊢
      simpa only [hlive, decide_false, cond_false, hrest.eq_nil, List.append_nil] using nil
  | @missing last before bs cs b h hs hf hl ih =>
    have hrest := ih (Spaced.concat.mp hspaced).1
    simp only [List.filter_append, List.filter_singleton]
    by_cases hlive : t < b.start + length
    · simpa only [hlive, decide_true, cond_true] using hrest.missing hs hf hl
    · have hnil := hspaced.filter_eq_nil hlive
      simp only [hnil] at hrest ⊢
      simpa only [hlive, decide_false, cond_false, hrest.eq_nil, List.append_nil] using nil

/-- What opens a circuit counts the same. -/
theorem counts (h : Thinned last bs cs) :
    (counts cs).total = (counts bs).total ∧ (counts cs).errors = (counts bs).errors := by
  induction h with
  | nil => exact ⟨rfl, rfl⟩
  | both h hb ih => simp only [counts_concat, hb.successes, hb.failures, ih.1, ih.2, and_self]
  | missing h hs hf hl ih => simp only [counts_concat, hs, hf, ih.1, ih.2, Nat.add_zero, and_self]

/-- An outcome that both windows see. -/
theorem addTo (h : Thinned last bs cs) (hspaced : Spaced bucketLength bs)
    (hfull : last → IsFull bucketLength now bs) (o : Outcome) :
    Thinned last' (addTo bucketLength now o bs) (addTo bucketLength now o cs) := by
  have hopened : Thinned last' (bs ++ [({ start := now } : Bucket).add o])
      (cs ++ [({ start := now } : Bucket).add o]) := h.both (.refl _)
  cases h with
  | nil => exact hopened
  | both h hb =>
    rw [addTo_concat, addTo_concat, hb.start]
    split
    · exact hopened
    · exact h.both (hb.add o)
  | missing h hs hf hl =>
    -- the missing bucket is full, and so is the last one of the second window, which is older
    have hold := hfull hl
    have hcs : IsFull bucketLength now cs := by
      intro c hc
      obtain ⟨b, hb, hstart⟩ := h.exists_start (List.mem_of_getLast? hc)
      have hgap := (Spaced.concat.mp hspaced).2 b hb
      rw [hstart] at hgap
      exact Nat.le_trans hgap (Nat.le_trans (Nat.le_add_right _ _) (isFull_concat.mp hold))
    rw [addTo_of_isFull hold, addTo_of_isFull hcs]
    exact hopened

/-- A service failure that the second window misses. -/
theorem addTo_left (h : Thinned last bs cs) (hopens : IsFull bucketLength now bs → last')
    (hkeeps : ¬ IsFull bucketLength now bs → last → last') :
    Thinned last' (Window.addTo bucketLength now .serviceFailure bs) cs := by
  by_cases hfull : IsFull bucketLength now bs
  · rw [addTo_of_isFull hfull]
    exact h.missing rfl rfl (hopens hfull)
  · cases h with
    | nil => exact absurd isFull_nil hfull
    | both h hb =>
      rw [addTo_of_not_isFull (isFull_concat.not.mp hfull)]
      exact h.both ⟨hb.start, hb.successes, hb.failures⟩
    | missing h hs hf hl =>
      rw [addTo_of_not_isFull (isFull_concat.not.mp hfull)]
      exact h.missing hs hf (hkeeps hfull hl)

end Thinned

/-- The second window is thinner than the first at an instant: it has missed service failures. -/
structure Thinner (last : Prop) (t : Instant) (w w' : Window) : Prop where
  length : w'.length = w.length
  bucketLength : w'.bucketLength = w.bucketLength
  spaced : Spaced w.bucketLength w.buckets
  spaced' : Spaced w'.bucketLength w'.buckets
  buckets : Thinned last (w.live t) (w'.live t)

namespace Thinner

variable {last last' : Prop} {t t' : Instant} {w w' : Window}

/-- Whatever buckets the windows come to hold, time drops none that matters to one alone. -/
theorem withBuckets (h : Thinner last t w w') {bs cs : List Bucket}
    (hbs : Spaced w.bucketLength bs) (hcs : Spaced w'.bucketLength cs)
    (hthinned : Thinned last' bs cs) (t' : Instant) :
    Thinner last' t' { w with buckets := bs } { w' with buckets := cs } where
  length := h.length
  bucketLength := h.bucketLength
  spaced := hbs
  spaced' := hcs
  buckets := by
    simp only [live, h.length]
    exact hthinned.filter hbs t'

theorem imp (h : Thinner last t w w') (hlast : last → last') : Thinner last' t w w' :=
  { h with buckets := h.buckets.imp hlast }

theorem later (h : Thinner last t w w') (ht : t ≤ t') : Thinner last t' w w' :=
  { h with
    buckets := by
      rw [← live_live w ht, ← live_live w' ht, h.length]
      exact h.buckets.filter (h.spaced.live t) t' }

theorem reset (h : Thinner last t w w') : Thinner last t w.reset w'.reset :=
  h.withBuckets .nil .nil .nil t

theorem prune (h : Thinner last t w w') : Thinner last t (w.prune t) (w'.prune t) := by
  rw [prune_eq h.spaced, prune_eq h.spaced']
  exact h.withBuckets (h.spaced.live t) (h.spaced'.live t) h.buckets t

theorem record (h : Thinner last t w w')
    (hfull : last → IsFull w.bucketLength t (w.prune t).buckets) (o : Outcome) :
    Thinner last' t (w.record t o) (w'.record t o) := by
  rw [buckets_prune h.spaced] at hfull
  rw [record_eq h.spaced, record_eq h.spaced']
  refine h.withBuckets (h.spaced.live t).addTo (h.spaced'.live t).addTo ?_ t
  rw [h.bucketLength]
  exact h.buckets.addTo (h.spaced.live t) hfull o

theorem record_left (h : Thinner last t w w')
    (hopens : IsFull w.bucketLength t (w.prune t).buckets → last')
    (hkeeps : ¬ IsFull w.bucketLength t (w.prune t).buckets → last → last') :
    Thinner last' t (w.record t .serviceFailure) w' := by
  rw [buckets_prune h.spaced] at hopens hkeeps
  have hleft := h.buckets.addTo_left hopens hkeeps
  have hw : Thinner last' t { w with buckets := addTo w.bucketLength t .serviceFailure (w.live t) }
      { w' with buckets := w'.live t } :=
    h.withBuckets (h.spaced.live t).addTo (h.spaced'.live t) hleft t
  rw [record_eq h.spaced]
  refine ⟨hw.length, hw.bucketLength, hw.spaced, h.spaced', ?_⟩
  rw [← live_live w' (Nat.le_refl t)]
  exact hw.buckets

end Thinner

end Window

namespace Breaker

/-- The operation records an outcome that is counted. -/
def Counts (b : Breaker) (o : Operation) : Prop :=
  (∃ p outcome, o = .record p outcome) ∧ b.circuit = .closed

/-- The second breaker is as the first, but its window is thinner; calls are not compared. -/
structure Thinner (last : Prop) (t : Instant) (b b' : Breaker) : Prop where
  settings : b'.settings = b.settings
  circuit : b'.circuit = b.circuit
  window : b.window.Thinner last t b'.window

/-- Service failures have no part in the decision to open a circuit. -/
theorem shouldOpen_congr (s : BreakerSettings) {h h' : Health} (ht : h'.total = h.total)
    (he : h'.errors = h.errors) : shouldOpen s h' = shouldOpen s h := by
  have hpercent : h'.errorPercentage = h.errorPercentage := by
    simp only [Health.errorPercentage, ht, he]
  rw [shouldOpen, shouldOpen, ht, hpercent]

namespace Thinner

variable {last last' : Prop} {t t' : Instant} {b b' : Breaker}

theorem imp (h : b.Thinner last t b') (hlast : last → last') : b.Thinner last' t b' :=
  { h with window := h.window.imp hlast }

theorem later (h : b.Thinner last t b') (ht : t ≤ t') : b.Thinner last t' b' :=
  { h with window := h.window.later ht }

theorem shouldOpen (h : b.Thinner last t b') :
    shouldOpen b'.settings (b'.window.health t).2 = shouldOpen b.settings (b.window.health t).2 := by
  have hcounts := h.window.buckets.counts
  rw [← Window.buckets_prune h.window.spaced, ← Window.buckets_prune h.window.spaced'] at hcounts
  rw [h.settings]
  exact shouldOpen_congr _ hcounts.1 hcounts.2

theorem wake (h : b.Thinner last t b') : (b.wake t).Thinner last t (b'.wake t) where
  settings := by rw [wake_settings, wake_settings, h.settings]
  circuit := by
    unfold Breaker.wake
    rw [h.circuit, h.settings]
    split
    · split
      · rfl
      · exact h.circuit
    · exact h.circuit
  window := by
    rw [wake_window, wake_window]
    exact h.window

/-- What a call is answered does not show that outcomes are missing. -/
theorem permission (h : b.Thinner last t b') :
    (b'.perform t .acquire).2 = (b.perform t .acquire).2 := by
  have hfirst : (b.perform t .acquire).2 = _ := (b.perform_move t .acquire).permission
  have hsecond : (b'.perform t .acquire).2 = _ := (b'.perform_move t .acquire).permission
  rw [hfirst, hsecond, h.settings, h.circuit]

theorem phase (h : b.Thinner last t b') : (b'.wake t).circuit.phase = (b.wake t).circuit.phase :=
  congrArg CircuitState.phase h.wake.circuit

theorem acquire (h : b.Thinner last t b') :
    (b.tryAcquire t).1.Thinner last t (b'.tryAcquire t).1 := by
  have hcounted : ({ b with totalRequests := b.totalRequests + 1 } : Breaker).Thinner last t
      { b' with totalRequests := b'.totalRequests + 1 } := ⟨h.settings, h.circuit, h.window⟩
  have hwake := hcounted.wake
  unfold tryAcquire
  dsimp only
  rw [hwake.circuit, hwake.settings]
  split
  · exact hwake
  · exact ⟨rfl, rfl, hwake.window⟩
  · split
    · exact ⟨rfl, rfl, hwake.window⟩
    · exact ⟨rfl, rfl, hwake.window⟩
  · exact ⟨rfl, rfl, hwake.window⟩

theorem health (h : b.Thinner last t b') : (b.health t).1.Thinner last t (b'.health t).1 :=
  ⟨h.settings, h.circuit, h.window.prune⟩

theorem record (h : b.Thinner last t b')
    (hfull : b.circuit = .closed → last →
      Window.IsFull b.window.bucketLength t (b.window.prune t).buckets)
    (hkeeps : b.circuit ≠ .closed → last → last') (p : Permission) (o : Outcome) :
    (b.record t p o).Thinner last' t (b'.record t p o) := by
  unfold Breaker.record
  rw [h.circuit]
  split
  · rename_i hc
    have hopen : b.circuit ≠ .closed := by simp [hc]
    have hwindow := h.window.imp (hkeeps hopen)
    split
    · exact ⟨h.settings, rfl, hwindow⟩
    · exact ⟨h.settings, rfl, hwindow.reset⟩
  · rename_i hc
    have hrecorded : ({ b with window := b.window.record t o } : Breaker).Thinner last' t
        { b' with window := b'.window.record t o } :=
      ⟨h.settings, h.circuit, h.window.record (hfull hc) o⟩
    dsimp only
    split
    · rw [hrecorded.shouldOpen]
      split
      · exact ⟨h.settings, rfl, hrecorded.window.prune⟩
      · exact ⟨h.settings, rfl, hrecorded.window.prune⟩
    · exact ⟨h.settings, rfl, hrecorded.window⟩
  · rename_i hopen _
    exact ⟨h.settings, h.circuit, h.window.imp (hkeeps hopen)⟩

/-- An operation that both breakers see. -/
theorem perform (h : b.Thinner last t b') (o : Operation)
    (hfull : b.Counts o → last →
      Window.IsFull b.window.bucketLength t (b.window.prune t).buckets)
    (hkeeps : ¬ b.Counts o → last → last') :
    (b.perform t o).1.Thinner last' t (b'.perform t o).1 := by
  cases o with
  | record p o =>
    exact h.record (fun hc => hfull ⟨⟨p, o, rfl⟩, hc⟩) (fun hc => hkeeps fun hn => hc hn.2) p o
  | acquire => exact (h.imp (hkeeps nofun)).acquire
  | phase | allowed => exact (h.imp (hkeeps nofun)).wake
  | health => exact (h.imp (hkeeps nofun)).health
  | stats => exact (h.imp (hkeeps nofun)).wake.health
  | reset => exact ⟨h.settings, rfl, (h.imp (hkeeps nofun)).window.reset⟩
  | forceOpen => exact ⟨h.settings, rfl, (h.imp (hkeeps nofun)).window⟩

/-! ## What the second breaker misses -/

theorem acquire_left (h : b.Thinner last t b')
    (htrial : (b.perform t .acquire).2 ≠ .permission (some .trial)) :
    (b.perform t .acquire).1.Thinner last t b' := by
  have hm := b.perform_move t .acquire
  generalize b.perform t .acquire = out at hm htrial ⊢
  cases hm with
  | admitted | refused => exact ⟨h.settings, h.circuit, h.window⟩
  | tried => exact absurd rfl htrial

theorem record_left (h : b.Thinner last t b') (p : Permission) (hc : b.circuit = .closed)
    (hopens : Window.IsFull b.window.bucketLength t (b.window.prune t).buckets → last')
    (hkeeps : ¬ Window.IsFull b.window.bucketLength t (b.window.prune t).buckets →
      last → last') :
    (b.record t p .serviceFailure).Thinner last' t b' := by
  have hm := b.record_move t p .serviceFailure
  generalize b.record t p .serviceFailure = out at hm ⊢
  cases hm with
  | counted => exact ⟨h.settings, h.circuit, h.window.record_left hopens hkeeps⟩
  | mended hopen => cases hc.symm.trans hopen
  | ignored hopen => exact absurd hc hopen

end Thinner

end Breaker

end ServiceBinding
