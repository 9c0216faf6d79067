import ServiceBinding.Proofs.SharedProxy.Attempts

/-!
# Callers pause after a failed attempt

An attempt that failed, and that another one may mend, sets an instant before which callers are
turned away as they come. While the proxy stays unbound this instant only moves on
(`Move.throttled`): a later failure sets a later one, and only a binding, made or taken down, clears
it. A caller looks at it when it comes and not again when its turn comes. That is enough, since a
caller that came before the failure finds itself overtaken by it. Rechecks do not look at it at all.
-/

namespace ServiceBinding

namespace Proxy

/-! ## Settings never change -/

@[simp] theorem apply_settings (p : Proxy) (now : Instant)
    (r : Except BindFailure (Binding × Option ApiDefinition)) :
    (p.apply now r).1.settings = p.settings := by
  unfold apply
  split <;> rfl

@[simp] theorem disconnect_settings (p : Proxy) (b : Bound) (reason : UnavailableReason)
    (message : String) : (p.disconnect b reason message).settings = p.settings := by
  unfold disconnect
  repeat' split
  all_goals rfl

@[simp] theorem observe_settings (p : Proxy) (b : Bound)
    (result : Except InvocationError Json.Value) :
    (p.observe b result).settings = p.settings := by
  cases result with
  | ok v => rfl
  | error e =>
    simp only [observe]
    repeat' split
    all_goals simp

/-! ## An unbound proxy has no binding to take down -/

theorem disconnect_of_unbound {p : Proxy} (h : p.isBound = false) (b : Bound)
    (reason : UnavailableReason) (message : String) : p.disconnect b reason message = p := by
  unfold disconnect
  split
  · rename_i c hc
    simp [isBound, hc] at h
  · rfl

theorem observe_retryAfter_of_unbound {p : Proxy} (h : p.isBound = false) (b : Bound)
    (result : Except InvocationError Json.Value) :
    (p.observe b result).retryAfter = p.retryAfter := by
  cases result with
  | ok v => rfl
  | error e =>
    -- the count of failures changes, but whether there is a binding does not
    have hcounted : ({ p with failures := p.failures + 1 } : Proxy).isBound = false := h
    simp only [observe]
    repeat' split
    all_goals simp only [disconnect_of_unbound h, disconnect_of_unbound hcounted]

/-! ## The pause -/

/-- Callers are turned away before `limit`, if not longer. -/
def ThrottledUntil (p : Proxy) (limit : Instant) : Prop :=
  ∃ instant, p.retryAfter = some instant ∧ limit ≤ instant

theorem ThrottledUntil.isThrottled {p : Proxy} {limit now : Instant} (h : p.ThrottledUntil limit)
    (hn : now < limit) : p.isThrottled now = true := by
  obtain ⟨instant, hi, hl⟩ := h
  simpa [Proxy.isThrottled, hi] using Nat.lt_of_lt_of_le hn hl

theorem ThrottledUntil.congr {p p' : Proxy} {limit : Instant} (h : p'.retryAfter = p.retryAfter)
    (ht : p.ThrottledUntil limit) : p'.ThrottledUntil limit := by
  obtain ⟨instant, hi, hl⟩ := ht
  exact ⟨instant, h.trans hi, hl⟩

theorem throttledUntil_apply (p : Proxy) (now : Instant) (reason : UnavailableReason)
    (message : String) :
    (p.apply now (.error (.transient reason message))).1.ThrottledUntil
      (now + p.settings.attemptInterval) :=
  ⟨_, rfl, Nat.le_refl _⟩

section

variable {p p' : Proxy} {now : Instant} {t : Ticket} {stage stage' : Stage} {signal : Signal}

theorem Move.settings (m : Move p now t stage signal (p', stage')) : p'.settings = p.settings := by
  cases m with
  | concluded | recheckConcluded => exact apply_settings _ _ _
  | replied => exact observe_settings _ _ _
  | recheckDisconnected => exact disconnect_settings _ _ _ _
  | _ => rfl

/-- The instant before which an unbound proxy turns callers away is changed by attempts only. -/
theorem Move.retryAfter (m : Move p now t stage signal (p', stage')) (hu : p.isBound = false) :
    p'.retryAfter = p.retryAfter ∨ ∃ r, p' = (p.apply now r).1.leaveLine t := by
  cases m with
  | concluded | recheckConcluded => exact .inr ⟨_, rfl⟩
  | replied => exact .inl (observe_retryAfter_of_unbound hu _ _)
  | recheckDisconnected => exact .inl (by rw [disconnect_of_unbound hu])
  | _ => exact .inl rfl

/-- A proxy that stays unbound goes on turning callers away. -/
theorem Move.throttled (m : Move p now t stage signal (p', stage')) {limit : Instant}
    (h : p.ThrottledUntil limit) (hu : p.isBound = false) (hu' : p'.isBound = false)
    (hl : limit ≤ now + p.settings.attemptInterval) : p'.ThrottledUntil limit := by
  rcases m.retryAfter hu with hr | ⟨r, rfl⟩
  · exact h.congr hr
  · match r with
    | .ok (binding, versioning) => cases hu'
    | .error (.fatal e) => exact h.congr rfl
    | .error (.transient reason message) => exact ⟨_, rfl, hl⟩

/-- A caller lines up only if it is not turned away. -/
theorem Move.not_throttled (m : Move p now t .unstarted signal (p', stage'))
    (h : stage'.isQueued = true) : p.isThrottled now = false := by
  cases m with
  | linedUp _ ht => exact ht
  | served =>
    rw [Request.resume_isQueued] at h
    cases h
  | _ => cases h

end

/-- A caller that is turned away gets the reason and the message why there is no binding. -/
theorem resume_enter_of_throttled {p : Proxy} {now : Instant} {reason : UnavailableReason}
    {message : String} (hc : p.connection = .unbound reason message none)
    (ht : p.isThrottled now = true) (t : Ticket) (q : Request) :
    q.follow (p.enter now t) =
      (p, .ended (some (.error (.unavailable ⟨p.service, reason, message, q.site?⟩)))) := by
  have henter : p.enter now t = (p, .done (.error (p.unavailable reason message))) := by
    simp [enter, hc, ht, current]
  rw [henter]
  cases q <;> rfl

end Proxy

namespace SharedProxy

open Proxy

namespace Run

variable {r : Run} {t : Ticket}

/-- In step `n` a failed attempt of the task is applied that another attempt may mend. -/
def AppliesFailure (r : Run) (n : Nat) (t : Ticket) : Prop :=
  (∃ signal, r.event n = .wake t signal) ∧
    ∃ reason message, (r.state (n + 1)).proxy =
      ((r.state n).proxy.apply (r.state n).now (.error (.transient reason message))).1.leaveLine t

theorem AppliesFailure.applies {n : Nat} (h : r.AppliesFailure n t) : r.Applies n t := by
  obtain ⟨he, reason, message, hp⟩ := h
  exact ⟨he, _, hp⟩

/-! ## Time and settings -/

theorem now_mono {n m : Nat} (hnm : n ≤ m) : (r.state n).now ≤ (r.state m).now := by
  induction hnm with
  | refl => exact Nat.le_refl _
  | step _ ih =>
    rename_i m _
    rcases step_cases (r.steps m) with ⟨d, -, h⟩ | ⟨_, _, -, -, -, h⟩
    · rw [h]
      exact Nat.le_trans ih (Nat.le_add_right _ d)
    · rwa [h]

theorem settings_eq {n m : Nat} (hnm : n ≤ m) :
    (r.state m).proxy.settings = (r.state n).proxy.settings := by
  induction hnm with
  | refl => rfl
  | step _ ih =>
    rename_i m _
    rcases step_cases (r.steps m) with ⟨d, -, h⟩ | ⟨_, _, -, hm, -, -⟩
    · rw [h]
      exact ih
    · exact hm.settings.trans ih

/-! ## The pause along a run -/

/-- The pause lasts as long as the proxy stays unbound. -/
theorem throttledUntil_of_unbound {n m : Nat} (hnm : n ≤ m) {limit : Instant}
    (h : (r.state n).proxy.ThrottledUntil limit)
    (hl : limit ≤ (r.state n).now + (r.state n).proxy.settings.attemptInterval)
    (hu : ∀ k, n ≤ k → k ≤ m → (r.state k).proxy.isBound = false) :
    (r.state m).proxy.ThrottledUntil limit := by
  induction hnm with
  | refl => exact h
  | step hle ih =>
    rename_i m
    have hprev := ih fun k hnk hkm => hu k hnk (Nat.le_succ_of_le hkm)
    rcases step_cases (r.steps m) with ⟨d, -, hd⟩ | ⟨_, _, -, hm, -, -⟩
    · rw [hd]
      exact hprev
    · have hu' := hu (m + 1) (Nat.le_succ_of_le hle) (Nat.le_refl _)
      refine hm.throttled hprev (hu m hle (Nat.le_succ m)) hu' ?_
      rw [settings_eq hle]
      exact Nat.le_trans hl (Nat.add_le_add_right (now_mono hle) _)

/-- A failed attempt turns callers away for the interval of attempts, unless a binding comes. -/
theorem AppliesFailure.throttledUntil {i j : Nat} (h : r.AppliesFailure i t) (hij : i < j)
    (hu : ∀ k, i < k → k ≤ j → (r.state k).proxy.isBound = false) :
    (r.state j).proxy.ThrottledUntil
      ((r.state i).now + (r.state i).proxy.settings.attemptInterval) := by
  have hset : (r.state (i + 1)).proxy.ThrottledUntil
      ((r.state i).now + (r.state i).proxy.settings.attemptInterval) := by
    obtain ⟨-, reason, message, hp⟩ := h
    rw [hp]
    exact throttledUntil_apply _ _ reason message
  refine throttledUntil_of_unbound hij hset ?_ hu
  rw [settings_eq (Nat.le_succ i)]
  exact Nat.add_le_add_right (now_mono (Nat.le_succ i)) _

/-- Who asks the registry as a caller lined up in the generation in which it asks. -/
theorem CallLooksUp.exists_linesUp {n : Nat} (h : r.CallLooksUp n t) :
    ∃ k < n, r.LinesUp k t ∧ (r.state k).proxy.generation = (r.state n).proxy.generation := by
  have hbasis := h.basis?
  obtain ⟨k, hk, hbegins, hg⟩ := exists_begins hbasis
  have hqueued : ((r.state n).stage t).isQueued = true := by
    rcases r.stage_succ n t with hs | ⟨signal, hm⟩
    · have hlookup := h.1.2
      rw [hs, h.1.1] at hlookup
      cases hlookup
    · rcases hm.asks h.1.2 with ⟨hun, -⟩ | ⟨hq, -⟩
      · rw [hun] at hbasis
        cases hbasis
      · exact hq
  rcases queued_back hk hqueued with hun | hq
  · exact absurd hun hbegins.2
  · exact ⟨k, hk, ⟨hbegins.1, hq⟩, hg⟩

theorem LinesUp.not_throttled {n : Nat} (h : r.LinesUp n t) :
    (r.state n).proxy.isThrottled (r.state n).now = false := by
  rcases r.stage_succ n t with hs | ⟨signal, hm⟩
  · have hq := h.2
    rw [hs, h.1] at hq
    cases hq
  · rw [h.1] at hm
    exact hm.not_throttled h.2

/-- A caller that ends as it comes never asks the registry. -/
theorem not_looksUp_of_ended {n : Nat} {result : Option (Except InvocationError Json.Value)}
    (hbefore : (r.state n).stage t = .unstarted) (hafter : (r.state (n + 1)).stage t = .ended result)
    (m : Nat) : ¬ r.LooksUp m t := by
  intro hm
  by_cases hmn : m < n
  · have hstarted : (r.state (m + 1)).stage t ≠ .unstarted := by
      intro h
      rw [LooksUp, h] at hm
      cases hm.2
    exact started_mono hmn hstarted hbefore
  · rcases r.stage_succ m t with hs | ⟨signal, hmove⟩
    · have hlookup := hm.2
      rw [hs, hm.1] at hlookup
      cases hlookup
    · have hpast (hq : ((r.state m).stage t).isQueued = true) (hnm : n + 1 ≤ m) : False := by
        rcases queued_back hnm hq with h | h <;> rw [hafter] at h <;> cases h
      rcases Nat.lt_or_eq_of_le (Nat.le_of_not_lt hmn) with hnm | rfl
      · -- it would have to be unstarted or in line again
        rcases hmove.asks hm.2 with ⟨hun, -⟩ | ⟨hq, -⟩
        · refine started_mono hnm (fun h => ?_) hun
          rw [hafter] at h
          cases h
        · exact hpast hq hnm
      · have hlookup := hm.2
        rw [hafter] at hlookup
        cases hlookup

end Run

/-- Callers pause after an attempt that failed and that another one may mend. Until the interval of
attempts is over, and as long as the proxy has not been bound since, no caller asks the registry; a
caller that comes meanwhile fails at once with the reason and the message that the proxy then has,
and never asks. -/
theorem pause_after_failure (r : Run) {i j : Nat} {t : Ticket} (hi : r.AppliesFailure i t)
    (hij : i < j)
    (hj : (r.state j).now < (r.state i).now + (r.state i).proxy.settings.attemptInterval)
    (hu : ∀ k, i < k → k ≤ j → (r.state k).proxy.isBound = false) :
    (∀ u, ¬ r.CallLooksUp j u) ∧
      ∀ u q reason message, (r.state j).proxy.connection = .unbound reason message none →
        r.event j = .wake u (.request q) →
        (r.state (j + 1)).stage u = .ended (some (.error (.unavailable
            ⟨(r.state j).proxy.service, reason, message, q.site?⟩))) ∧
          ∀ m, ¬ r.LooksUp m u := by
  refine ⟨fun u hl => ?_, fun u q reason message hc he => ?_⟩
  · obtain ⟨k, hkj, hlines, hg⟩ := hl.exists_linesUp
    have hik : i < k := by
      by_contra hki
      -- lined up by `i`, the caller would be overtaken by the failure
      have hstep := hi.applies.generation
      have hbefore : (r.state k).proxy.generation ≤ (r.state i).proxy.generation :=
        Run.generation_mono (by omega)
      have hafter : (r.state (i + 1)).proxy.generation ≤ (r.state j).proxy.generation :=
        Run.generation_mono hij
      omega
    have hkj : k ≤ j := Nat.le_of_lt hkj
    have hthrottled := hi.throttledUntil hik fun m him hmk => hu m him (Nat.le_trans hmk hkj)
    have hfree := hlines.not_throttled
    rw [hthrottled.isThrottled (Nat.lt_of_le_of_lt (Run.now_mono hkj) hj)] at hfree
    cases hfree
  · have hthrottled := (hi.throttledUntil hij hu).isThrottled hj
    have hstep := step_request (he ▸ r.steps j)
    rw [resume_enter_of_throttled hc hthrottled] at hstep
    have hended := (Prod.mk.inj hstep).2
    exact ⟨hended, Run.not_looksUp_of_ended (unstarted_of_request (he ▸ r.steps j)) hended⟩

/-- Two callers, of which the first finds no provider, and a third one five seconds later. -/
def Sample.absentRun : Run :=
  .ofEvents finder {}
    [.wake 0 (.request .connect), .wake 1 (.request .connect), .wake 0 (.turn components),
      .wake 0 (.registry components (.ok none)), .pass (Span.ofSeconds 5),
      .wake 2 (.request (.call "here" some))]
    rfl

theorem pause_after_failure_absentRun :
    Sample.absentRun.AppliesFailure 3 0 ∧
      (Sample.absentRun.state 5).now = Span.ofSeconds 5 ∧
      (∀ k, 3 < k → k ≤ 5 → (Sample.absentRun.state k).proxy.isBound = false) ∧
      (∀ u, ¬ Sample.absentRun.CallLooksUp 5 u) ∧
      (Sample.absentRun.state 6).stage 2 = .ended (some (.error (.unavailable
        ⟨"finder", .noLiveProvider, "no live provider of finder", some "here"⟩))) ∧
      ∀ m, ¬ Sample.absentRun.LooksUp m 2 := by
  have hfails : Sample.absentRun.AppliesFailure 3 0 := ⟨⟨_, rfl⟩, _, _, rfl⟩
  have hunbound : ∀ k, 3 < k → k ≤ 5 → (Sample.absentRun.state k).proxy.isBound = false := by
    intro k hk hk'
    obtain rfl | rfl : k = 4 ∨ k = 5 := by omega
    · rfl
    · rfl
  obtain ⟨hasks, hcomes⟩ :=
    pause_after_failure Sample.absentRun hfails (show 3 < 5 by decide) (by decide) hunbound
  exact ⟨hfails, rfl, hunbound, hasks, hcomes 2 _ _ _ rfl rfl⟩

end SharedProxy

end ServiceBinding
