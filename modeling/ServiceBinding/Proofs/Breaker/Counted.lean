import ServiceBinding.Proofs.Breaker.Run
import ServiceBinding.Proofs.Breaker.Window

/-!
# What a circuit breaker has counted

Every breaker of a run has a window as its settings ask for it, with the buckets in order
(`Run.windowed`). So what it holds in a step can be counted by kind (`Run.held`), whenever it was last
pruned, and an outcome that a closed circuit takes in adds one to its kind and nothing to the others
(`Run.held_of_record`).
-/

namespace ServiceBinding

namespace Breaker

/-- The window is as long as the settings say, and its buckets opened one after the other. -/
structure Windowed (b : Breaker) : Prop where
  length : b.window.length = b.settings.window
  spaced : Window.Spaced b.window.bucketLength b.window.buckets

namespace Windowed

variable {b : Breaker}

theorem new (s : BreakerSettings) : (Breaker.new s).Windowed := ⟨rfl, .nil⟩

theorem record (h : b.Windowed) (now : Instant) (o : Outcome) :
    ({ b with window := b.window.record now o } : Breaker).Windowed where
  length := h.length
  spaced := by
    rw [Window.record_eq h.spaced]
    exact (h.spaced.live now).addTo

theorem health (h : b.Windowed) (now : Instant) : (b.health now).1.Windowed where
  length := h.length
  spaced := by
    have hbuckets : (b.health now).1.window.buckets = b.window.live now :=
      Window.buckets_prune h.spaced now
    rw [hbuckets]
    exact h.spaced.live now

theorem wake (h : b.Windowed) (now : Instant) : (b.wake now).Windowed := by
  constructor
  · rw [wake_window, wake_settings]
    exact h.length
  · rw [wake_window]
    exact h.spaced

end Windowed

theorem Move.windowed {b b' : Breaker} {now : Instant} {o : Operation} {reading : Reading}
    (m : Move b now o (b', reading)) (h : b.Windowed) : b'.Windowed := by
  cases m with
  | admitted | tried | refused | reopened | ignored | forcedOpen => exact ⟨h.length, h.spaced⟩
  | mended | reset => exact ⟨h.length, .nil⟩
  | counted => exact h.record now _
  | endured => exact (h.record now .infrastructureFailure).health now
  | opened =>
    have hpruned := (h.record now .infrastructureFailure).health now
    exact ⟨hpruned.length, hpruned.spaced⟩
  | phase | allowed => exact h.wake now
  | health => exact h.health now
  | stats => exact (h.wake now).health now

namespace Run

variable (r : Run) (n : Nat)

theorem windowed : (r.state n).Windowed := by
  induction n with
  | zero => exact .new r.settings
  | succ n ih => exact (r.move n).windowed ih

theorem window_length : (r.state n).window.length = r.settings.window := by
  rw [(r.windowed n).length, settings_state]

/-- How many outcomes of a kind the window holds when step `n` comes. -/
def held (kind : Outcome) : Nat := Window.tally ((r.state n).window.live (r.time n)) kind

/-- How many outcomes of a kind the window holds when step `n` is done. -/
def heldAfter (kind : Outcome) : Nat :=
  Window.tally ((r.state (n + 1)).window.live (r.time n)) kind

variable {r n}

/-- A closed circuit counts every outcome once, whatever comes of it. -/
theorem held_of_record (hwindow : 0 < r.settings.window) {p : Permission} {o : Outcome}
    (h : r.operation n = .record p o) (hc : (r.state n).circuit = .closed) (kind : Outcome) :
    r.heldAfter n kind = r.held n kind + if kind = o then 1 else 0 := by
  have hlength : 0 < (r.state n).window.length := by rwa [window_length]
  have hspaced := (r.windowed n).spaced
  have hrecord := Window.tally_live_record hspaced hlength (r.time n) o kind
  have hm := r.move n
  rw [h] at hm
  unfold heldAfter held
  generalize r.state (n + 1) = next, r.reading n = reading at hm ⊢
  cases hm with
  | counted => exact hrecord
  | endured | opened =>
    have hrecorded := ((r.windowed n).record (r.time n) .infrastructureFailure).spaced
    rw [← hrecord]
    exact congrArg (Window.tally · kind) (Window.live_prune hrecorded _)
  | reopened ho | mended ho => cases hc.symm.trans ho
  | ignored ho => exact absurd hc ho

end Run

end Breaker

end ServiceBinding
