import ServiceBinding.Command.Settings
import ServiceBinding.Proofs.Breaker.Run
import ServiceBinding.Proofs.Trace

/-!
# Watching a circuit breaker

Whoever reads a breaker changes it: an open circuit whose sleep window has passed becomes half open, and
the buckets that have left the window are dropped. But any call does the same before it is decided, so a
breaker that has been read goes on as one that has not (`Watched.perform`), and nothing that either shows
tells them apart.

There is one exception. The outcome of a trial decides a half-open circuit and is not heard by an open one.
If it comes when the sleep window of an open circuit has passed, it matters whether somebody has looked.
-/

namespace ServiceBinding

/-- What a circuit is once it is looked at. -/
def CircuitState.awake (sleepWindow : Span) (now : Instant) : CircuitState → CircuitState
  | .opened since => if sleepWindow ≤ now - since then .halfOpen none else .opened since
  | c => c

namespace CircuitState

variable {sleepWindow : Span} {now t : Instant} {c : CircuitState}

@[simp] theorem awake_awake : (c.awake sleepWindow now).awake sleepWindow now = c.awake sleepWindow now := by
  cases c with
  | closed | halfOpen => rfl
  | opened since =>
    by_cases hover : sleepWindow ≤ now - since
    · simp [awake, hover]
    · simp [awake, hover]

/-- A circuit that was looked at is as it was, or as it is when it is looked at later. -/
theorem awake_of_le (h : now ≤ t) :
    c.awake sleepWindow now = c ∨ c.awake sleepWindow now = c.awake sleepWindow t := by
  cases c with
  | closed | halfOpen => exact .inl rfl
  | opened since =>
    by_cases hover : sleepWindow ≤ now - since
    · have hlater : sleepWindow ≤ t - since := Nat.le_trans hover (Nat.sub_le_sub_right h since)
      exact .inr (by simp [awake, hover, hlater])
    · exact .inl (by simp [awake, hover])

theorem awake_cases (c : CircuitState) (sleepWindow : Span) (now : Instant) :
    c.awake sleepWindow now = c ∨
      ∃ since, c = .opened since ∧ sleepWindow ≤ now - since ∧
        c.awake sleepWindow now = .halfOpen none := by
  cases c with
  | closed | halfOpen => exact .inl rfl
  | opened since =>
    by_cases hover : sleepWindow ≤ now - since
    · exact .inr ⟨since, rfl, hover, by simp [awake, hover]⟩
    · exact .inl (by simp [awake, hover])

end CircuitState

namespace Window

/-- What is dropped now would be dropped later. -/
theorem prune_prune (w : Window) {t t' : Instant} (h : t ≤ t') : (w.prune t).prune t' = w.prune t' := by
  have hdrop (buckets : List Bucket) :
      (buckets.dropWhile fun b => b.start + w.length ≤ t).dropWhile (fun b => b.start + w.length ≤ t') =
        buckets.dropWhile fun b => b.start + w.length ≤ t' := by
    induction buckets with
    | nil => rfl
    | cons b rest ih =>
      by_cases hold : b.start + w.length ≤ t
      · have hlater : b.start + w.length ≤ t' := Nat.le_trans hold h
        simpa [hold, hlater] using ih
      · simp [hold]
  exact congrArg (fun buckets => ({ w with buckets } : Window)) (hdrop w.buckets)

end Window

namespace Breaker

/-- The operation only reads the breaker. -/
def Operation.reads : Operation → Bool
  | .phase | .allowed | .health | .stats => true
  | .acquire | .record .. | .reset | .forceOpen => false

theorem wake_eq (b : Breaker) (now : Instant) :
    b.wake now = { b with circuit := b.circuit.awake b.settings.sleepWindow now } := by
  obtain ⟨settings, circuit, window, requests, rejections⟩ := b
  cases circuit with
  | closed | halfOpen => rfl
  | opened since =>
    simp only [wake, CircuitState.awake]
    split
    · rfl
    · rfl

/-- The second breaker is the first one, which somebody may have read. -/
structure Watched (now : Instant) (b b' : Breaker) : Prop where
  settings : b'.settings = b.settings
  circuit : b'.circuit = b.circuit ∨ b'.circuit = b.circuit.awake b.settings.sleepWindow now
  window : b'.window.prune now = b.window.prune now
  totalRequests : b'.totalRequests = b.totalRequests
  totalRejections : b'.totalRejections = b.totalRejections

namespace Watched

variable {now t : Instant} {b b' : Breaker}

theorem refl (now : Instant) (b : Breaker) : Watched now b b := ⟨rfl, .inl rfl, rfl, rfl, rfl⟩

theorem later (h : Watched now b b') (hle : now ≤ t) : Watched t b b' where
  settings := h.settings
  circuit := by
    rcases h.circuit with hc | hc
    · exact .inl hc
    · rw [hc]
      exact CircuitState.awake_of_le hle
  window := by rw [← b'.window.prune_prune hle, h.window, b.window.prune_prune hle]
  totalRequests := h.totalRequests
  totalRejections := h.totalRejections

/-- Once both circuits are looked at, they are the same. -/
theorem awake (h : Watched now b b') :
    b'.circuit.awake b'.settings.sleepWindow now = b.circuit.awake b.settings.sleepWindow now := by
  rw [h.settings]
  rcases h.circuit with hc | hc
  · rw [hc]
  · rw [hc, CircuitState.awake_awake]

/-! ## Readings -/

theorem look (h : Watched now b b') : Watched now b (b'.wake now) := by
  rw [wake_eq]
  exact ⟨h.settings, .inr h.awake, h.window, h.totalRequests, h.totalRejections⟩

theorem count (h : Watched now b b') : Watched now b (b'.health now).1 :=
  ⟨h.settings, h.circuit, (b'.window.prune_prune (Nat.le_refl now)).trans h.window, h.totalRequests,
    h.totalRejections⟩

/-- Whatever is read of the second breaker, it stays the first one that was read. -/
theorem read (h : Watched now b b') {o : Operation} (ho : o.reads = true) :
    Watched now b (b'.perform now o).1 := by
  cases o with
  | phase | allowed => exact h.look
  | health => exact h.count
  | stats => exact h.look.count
  | acquire | record | reset | forceOpen => cases ho

/-! ## Operations of both -/

theorem wake (h : Watched now b b') : Watched now (b.wake now) (b'.wake now) := by
  rw [wake_eq, wake_eq]
  exact ⟨h.settings, .inl h.awake, h.window, h.totalRequests, h.totalRejections⟩

theorem health (h : Watched now b b') : Watched now (b.health now).1 (b'.health now).1 where
  settings := h.settings
  circuit := h.circuit
  window := congrArg (Window.prune · now) h.window
  totalRequests := h.totalRequests
  totalRejections := h.totalRejections

theorem counts (h : Watched now b b') : (b'.health now).2 = (b.health now).2 :=
  congrArg (fun w : Window => Window.counts w.buckets) h.window

theorem phase (h : Watched now b b') : (b'.wake now).circuit.phase = (b.wake now).circuit.phase := by
  rw [wake_eq, wake_eq]
  exact congrArg CircuitState.phase h.awake

/-- A call wakes the circuit first, so it finds the same in both. -/
theorem acquire (h : Watched now b b') :
    Watched now (b.tryAcquire now).1 (b'.tryAcquire now).1 ∧
      (b'.tryAcquire now).2 = (b.tryAcquire now).2 := by
  have hcounted : Watched now { b with totalRequests := b.totalRequests + 1 }
      { b' with totalRequests := b'.totalRequests + 1 } :=
    ⟨h.settings, h.circuit, h.window, congrArg (· + 1) h.totalRequests, h.totalRejections⟩
  have hwake := hcounted.wake
  have hcircuit : (({ b' with totalRequests := b'.totalRequests + 1 } : Breaker).wake now).circuit =
      (({ b with totalRequests := b.totalRequests + 1 } : Breaker).wake now).circuit := by
    rw [wake_eq, wake_eq]
    exact hcounted.awake
  -- awake, the two differ in their windows only, which no permission depends on
  unfold tryAcquire
  generalize ({ b with totalRequests := b.totalRequests + 1 } : Breaker).wake now = x at hwake hcircuit ⊢
  generalize ({ b' with totalRequests := b'.totalRequests + 1 } : Breaker).wake now = y at hwake hcircuit ⊢
  obtain ⟨settings, circuit, window, requests, rejections⟩ := x
  obtain ⟨settings', circuit', window', requests', rejections'⟩ := y
  obtain ⟨hsettings, -, hwindow, hrequests, hrejections⟩ := hwake
  dsimp only at hsettings hcircuit hwindow hrequests hrejections ⊢
  subst hsettings hcircuit hrequests hrejections
  split
  · exact ⟨⟨rfl, .inl rfl, hwindow, rfl, rfl⟩, rfl⟩
  · exact ⟨⟨rfl, .inl rfl, hwindow, rfl, rfl⟩, rfl⟩
  · split
    · exact ⟨⟨rfl, .inl rfl, hwindow, rfl, rfl⟩, rfl⟩
    · exact ⟨⟨rfl, .inl rfl, hwindow, rfl, rfl⟩, rfl⟩
  · exact ⟨⟨rfl, .inl rfl, hwindow, rfl, rfl⟩, rfl⟩

theorem reset (h : Watched now b b') : Watched now b.reset b'.reset where
  settings := h.settings
  circuit := .inl rfl
  window := by
    show (b'.window.prune now).reset.prune now = (b.window.prune now).reset.prune now
    rw [h.window]
  totalRequests := h.totalRequests
  totalRejections := h.totalRejections

/-- An outcome is counted in what is left of the window, which is the same in both. -/
theorem record_window (h : Watched now b b') (o : Outcome) :
    b'.window.record now o = b.window.record now o :=
  congrArg (fun w : Window => { w with buckets := Window.addTo w.bucketLength now o w.buckets }) h.window

theorem record_of_circuit (h : Watched now b b') (hc : b'.circuit = b.circuit) (p : Permission)
    (o : Outcome) : Watched now (b.record now p o) (b'.record now p o) := by
  have hreset := h.reset.window
  unfold Breaker.record
  -- whatever is counted is counted in the same window, so both open or neither does
  rw [hc, h.record_window]
  split
  · split
    · exact ⟨h.settings, .inl rfl, h.window, h.totalRequests, h.totalRejections⟩
    · exact ⟨h.settings, .inl rfl, hreset, h.totalRequests, h.totalRejections⟩
  · dsimp only
    split
    · rw [h.settings]
      split
      · exact ⟨rfl, .inl rfl, rfl, h.totalRequests, h.totalRejections⟩
      · exact ⟨rfl, .inl rfl, rfl, h.totalRequests, h.totalRejections⟩
    · exact ⟨h.settings, .inl rfl, rfl, h.totalRequests, h.totalRejections⟩
  · exact h

/-- An outcome is heard by both or by none, unless it is that of a trial and the first circuit is open. -/
theorem record (h : Watched now b b') {p : Permission} (hp : p = .trial → b.circuit.phase ≠ .opened)
    (o : Outcome) : Watched now (b.record now p o) (b'.record now p o) := by
  rcases h.circuit with hc | hc
  · exact h.record_of_circuit hc p o
  · rcases b.circuit.awake_cases b.settings.sleepWindow now with hsame | ⟨since, hs, -, hhalf⟩
    · exact h.record_of_circuit (hc.trans hsame) p o
    · -- the first circuit is open and the second one half open; neither hears an ordinary call
      cases p with
      | trial => exact absurd (congrArg CircuitState.phase hs) (hp rfl)
      | normal =>
        have hfirst : b.record now .normal o = b := by simp [Breaker.record, hs]
        have hsecond : b'.record now .normal o = b' := by simp [Breaker.record, hc.trans hhalf]
        rw [hfirst, hsecond]
        exact h

/-- Whatever is done with both, the second breaker stays the first one that was read, and they show the
same. -/
theorem perform (h : Watched now b b') (o : Operation)
    (ho : ∀ outcome, o = .record .trial outcome → b.circuit.phase ≠ .opened) :
    Watched now (b.perform now o).1 (b'.perform now o).1 ∧ (b'.perform now o).2 = (b.perform now o).2 := by
  cases o with
  | acquire => exact ⟨h.acquire.1, congrArg Reading.permission h.acquire.2⟩
  | record p outcome =>
    refine ⟨h.record (fun hp => ?_) outcome, rfl⟩
    subst hp
    exact ho outcome rfl
  | phase => exact ⟨h.wake, congrArg Reading.phase h.phase⟩
  | allowed => exact ⟨h.wake, congrArg (fun p : CircuitPhase => Reading.allowed (p ≠ .opened)) h.phase⟩
  | health => exact ⟨h.health, congrArg Reading.health h.counts⟩
  | stats =>
    refine ⟨h.wake.health, ?_⟩
    show Reading.stats ⟨(b'.wake now).settings.name, (b'.wake now).circuit.phase,
        ((b'.wake now).health now).2, (b'.wake now).totalRequests, (b'.wake now).totalRejections⟩ =
      .stats ⟨(b.wake now).settings.name, (b.wake now).circuit.phase,
        ((b.wake now).health now).2, (b.wake now).totalRequests, (b.wake now).totalRejections⟩
    rw [h.wake.settings, h.phase, h.wake.counts, h.wake.totalRequests, h.wake.totalRejections]
  | reset => exact ⟨h.reset, rfl⟩
  | forceOpen => exact ⟨⟨h.settings, .inl rfl, h.window, h.totalRequests, h.totalRejections⟩, rfl⟩

end Watched

/-! ## Runs -/

namespace Run

/-- The second run is the first one with readings put in: step `k` of the first run is step `pos k` of the
second, and every other step only reads the breaker. -/
structure Watches (s r : Run) (pos : Nat → Nat) : Prop where
  settings : r.settings = s.settings
  pos_mono : StrictMono pos
  time : ∀ k, r.time (pos k) = s.time k
  operation : ∀ k, r.operation (pos k) = s.operation k
  reads : ∀ n, (∀ k, pos k ≠ n) → (r.operation n).reads = true

/-- No outcome of a trial comes while the circuit is open, whether or not its sleep window has passed. -/
def TrialsHeard (s : Run) : Prop :=
  ∀ k outcome, s.operation k = .record .trial outcome → (s.state k).circuit.phase ≠ .opened

variable {s r : Run} {pos : Nat → Nat}

/-- A step that both runs make. -/
theorem Watches.perform (h : s.Watches r pos) (htrials : s.TrialsHeard) {k : Nat}
    (hk : Watched (r.time (pos k)) (s.state k) (r.state (pos k))) :
    Watched (r.time (pos k)) (s.state (k + 1)) (r.state (pos k + 1)) ∧
      r.reading (pos k) = s.reading k := by
  have hboth := hk.perform (s.operation k) (htrials k)
  rw [state, state, reading, reading, h.operation]
  rw [h.time] at hboth ⊢
  exact hboth

theorem Watches.watched (h : s.Watches r pos) (htrials : s.TrialsHeard) {k n : Nat}
    (hkn : Trace.Between pos k n) : Watched (r.time n) (s.state k) (r.state n) := by
  refine Trace.Between.induction h.pos_mono (motive := fun k n => Watched (r.time n) (s.state k) (r.state n))
    ?_ (fun k hk => ?_) (fun k n hput hn => ?_) hkn
  · show Watched (r.time 0) (new s.settings) (new r.settings)
    rw [h.settings]
    exact .refl _ _
  · exact (h.perform htrials hk).1.later (r.mono (Nat.le_succ (pos k)))
  · exact (hn.read (h.reads n hput)).later (r.mono (Nat.le_succ n))

end Run

/-- Watching a breaker does not disturb it. If a run is made once more with any readings put in, each
operation that both runs make shows the same, and so does each reading that both make. Between them the
breakers differ only in what the readings have done: an open circuit whose sleep window has passed is half
open, and buckets that have left the window are dropped. -/
theorem watching_unseen {s r : Run} {pos : Nat → Nat} (h : s.Watches r pos) (htrials : s.TrialsHeard)
    (k : Nat) :
    r.reading (pos k) = s.reading k ∧
      ((r.state (pos k)).circuit = (s.state k).circuit ∨
        ∃ since, (s.state k).circuit = .opened since ∧ s.settings.sleepWindow ≤ s.time k - since ∧
          (r.state (pos k)).circuit = .halfOpen none) ∧
      (r.state (pos k)).window.prune (s.time k) = (s.state k).window.prune (s.time k) := by
  have hk := h.watched htrials (Trace.between_pos h.pos_mono k)
  refine ⟨(h.perform htrials hk).2, ?_, h.time k ▸ hk.window⟩
  rcases hk.circuit with hc | hc
  · exact .inl hc
  · rw [h.time, Run.settings_state] at hc
    rcases (s.state k).circuit.awake_cases s.settings.sleepWindow (s.time k) with
      hsame | ⟨since, hs, hover, hhalf⟩
    · exact .inl (hc.trans hsame)
    · exact .inr ⟨since, hs, hover, hc.trans hhalf⟩

namespace Sample

/-- A failure is counted and the circuit is opened by hand. When the failure has left the window and the
sleep window is over, a call is let through as a trial, which closes the circuit. -/
def unwatchedRun : Run :=
  .ofSteps (.ofCommand "lunch" {})
    [(0, .record .normal .infrastructureFailure), (0, .forceOpen), (Span.ofSeconds 11, .acquire),
      (0, .record .trial .success), (0, .stats)]

/-- The same, and somebody looks before the call. -/
def watchedRun : Run :=
  .ofSteps (.ofCommand "lunch" {})
    [(0, .record .normal .infrastructureFailure), (0, .forceOpen), (Span.ofSeconds 6, .phase),
      (Span.ofSeconds 5, .health), (0, .acquire), (0, .record .trial .success), (0, .stats)]

/-- Where the steps of `unwatchedRun` stand in `watchedRun`. -/
def watchedPos (k : Nat) : Nat := if k < 2 then k else k + 2

theorem unwatchedRun_watches : unwatchedRun.Watches watchedRun watchedPos where
  settings := rfl
  pos_mono := strictMono_nat_of_lt_succ fun k => by
    unfold watchedPos
    split <;> split <;> omega
  time k := by
    match k with
    | 0 | 1 | 2 | 3 | 4 | _ + 5 => rfl
  operation k := by
    match k with
    | 0 | 1 | 2 | 3 | 4 | _ + 5 => rfl
  reads n hput := by
    match n with
    | 0 => exact absurd rfl (hput 0)
    | 1 => exact absurd rfl (hput 1)
    | 2 | 3 => rfl
    | n + 4 => exact absurd rfl (hput (n + 2))

theorem unwatchedRun_trialsHeard : unwatchedRun.TrialsHeard := by
  intro k outcome h
  match k, h with
  | 3, _ => decide
  | 4, h => cases h
  | _ + 5, h => cases h

end Sample

/-- When the call comes, one circuit is open and the other one half open, and one window holds a bucket
that the other has dropped; the call is let through in both, as a trial. -/
theorem watching_unseen_watchedRun :
    Sample.unwatchedRun.Watches Sample.watchedRun Sample.watchedPos ∧ Sample.unwatchedRun.TrialsHeard ∧
      (Sample.unwatchedRun.state 2).circuit.phase = .opened ∧
      (Sample.watchedRun.state 4).circuit.phase = .halfOpen ∧
      (Sample.unwatchedRun.state 2).window.buckets.length = 1 ∧
      (Sample.watchedRun.state 4).window.buckets.length = 0 ∧
      Sample.unwatchedRun.reading 2 = .permission (some .trial) ∧
      Sample.watchedRun.reading 4 = .permission (some .trial) := by
  have hcall := (watching_unseen Sample.unwatchedRun_watches Sample.unwatchedRun_trialsHeard 2).1
  have hgranted : Sample.unwatchedRun.reading 2 = .permission (some .trial) := rfl
  exact ⟨Sample.unwatchedRun_watches, Sample.unwatchedRun_trialsHeard, by decide, by decide, by decide,
    by decide, hgranted, hcall.trans hgranted⟩

end Breaker

end ServiceBinding
