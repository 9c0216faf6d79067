import ServiceBinding.Proofs.SharedProxy.Invalidation

/-!
# Calls one after another

If callers come one after another and nobody rechecks (`Run.Sequential`), at most one task is under way,
and a call runs on the binding in use (`Run.Sequential.dispatched`). After a call has returned only time
passes until the next caller comes, and if that one needs a binding and is not turned away, it asks the
registry at once (`Run.asks_at_once`).
-/

namespace ServiceBinding

namespace Proxy

namespace Stage

/-- The task has begun and is not over. -/
def isUnderWay : Stage → Bool
  | .unstarted => false
  | .ended _ => false
  | _ => true

def isRecheck : Stage → Bool
  | .rechecking _ => true
  | _ => false

theorem isUnderWay_of_bound? {stage : Stage} {b : Bound} (h : stage.bound? = some b) :
    stage.isUnderWay = true := by
  unfold bound? at h
  split at h
  · rfl
  · rfl
  · cases h

theorem isUnderWay_of_isInLine {stage : Stage} (h : stage.isInLine = true) :
    stage.isUnderWay = true := by
  unfold isInLine at h
  split at h <;> first | rfl | cases h

end Stage

theorem Request.resume_isRecheck (q : Request) (r : Except InvocationError Bound) :
    (q.resume r).isRecheck = false := by
  rcases q.resume_cases r with ⟨_, h⟩ | ⟨_, _, _, h, _⟩ <;> rw [h] <;> rfl

section

variable {p p' : Proxy} {now : Instant} {t : Ticket} {stage stage' : Stage} {signal : Signal}

theorem Move.begins {next : Proxy × Stage} (m : Move p now t .unstarted signal next) :
    signal = .recheck ∨ ∃ q, signal = .request q := by
  cases m with
  | served | linedUp => exact .inr ⟨_, rfl⟩
  | recheckRefused | recheckLookedUp => exact .inl rfl
  | dropped hs => exact absurd rfl hs

theorem Move.isRecheck (m : Move p now t stage signal (p', stage')) (h : stage'.isRecheck = true) :
    signal = .recheck ∨ stage.isRecheck = true := by
  cases m with
  | recheckLookedUp => exact .inl rfl
  | recheckLinedUp | recheckPlanned => exact .inr rfl
  | served | overtaken | concluded | gaveUp =>
    rw [Request.resume_isRecheck] at h
    cases h
  | _ => cases h

/-- A call is dispatched on the binding in use. -/
theorem Move.dispatches (m : Move p now t stage signal (p', stage')) (hr : stage'.isRecheck = false)
    {b : Bound} (h : stage'.bound? = some b) : p'.connection = .bound b := by
  cases m with
  | served | overtaken => exact current_eq_ok (Request.resume_bound? h)
  | concluded => exact apply_connection_of_ok (Request.resume_bound? h)
  | gaveUp => exact absurd (Request.resume_bound? h) nofun
  | recheckLookedUp | recheckLinedUp | recheckPlanned => cases hr
  | _ => cases h

theorem Move.ends {site : CallSite} {read : Json.Value → Option Json.Value} {b : Bound}
    {answer : Except (CommandError InvocationError) Json.Value}
    (m : Move p now t (.calling site read b) (.command answer) (p', stage')) :
    stage'.isUnderWay = false := by
  cases m
  rfl

end

end Proxy

namespace SharedProxy

open Proxy

namespace Run

variable {r : Run}

/-- Callers come one after another, each when nobody is under way, and nobody rechecks. -/
structure Sequential (r : Run) : Prop where
  alone : ∀ n t q, r.event n = .wake t (.request q) →
    ∀ u, ((r.state n).stage u).isUnderWay = false
  no_recheck : ∀ n t, r.event n ≠ .wake t .recheck

/-! ## One task at a time -/

namespace Sequential

/-- Who goes on is under way or comes as a caller. -/
theorem wake_cases (h : r.Sequential) {n : Nat} {t : Ticket} {signal : Signal}
    (he : r.event n = .wake t signal) :
    ((r.state n).stage t).isUnderWay = true ∨ ∃ q, signal = .request q := by
  have hstep : (r.state n).step (.wake t signal) = some (r.state (n + 1)) := he ▸ r.steps n
  cases hs : (r.state n).stage t with
  | ended result => exact absurd hs (not_ended_of_wake hstep result)
  | rebinding | calling | rechecking => exact .inl rfl
  | unstarted =>
    rcases step_cases hstep with ⟨d, hpass, -⟩ | ⟨t', signal', hwake, hm, -, -⟩
    · cases hpass
    · obtain ⟨rfl, rfl⟩ := Event.wake.inj hwake
      rw [hs] at hm
      rcases hm.begins with rfl | hrequest
      · exact absurd he (h.no_recheck n t)
      · exact .inr hrequest

/-- Who is under way is the one that goes on, if not even two are under way. -/
theorem alone_of_wake (h : r.Sequential) {n : Nat}
    (hone : ∀ t u, ((r.state n).stage t).isUnderWay = true → ((r.state n).stage u).isUnderWay = true →
      t = u) {t u : Ticket} {signal : Signal} (he : r.event n = .wake t signal)
    (hu : ((r.state n).stage u).isUnderWay = true) : u = t := by
  rcases h.wake_cases he with ht | ⟨q, rfl⟩
  · exact hone u t hu ht
  · -- a caller comes only when nobody is under way
    exact absurd (hu.symm.trans (h.alone n t q he u)) nofun

/-- No two tasks are under way at a time. -/
theorem underWay_unique (h : r.Sequential) (n : Nat) {t u : Ticket}
    (ht : ((r.state n).stage t).isUnderWay = true) (hu : ((r.state n).stage u).isUnderWay = true) :
    t = u := by
  induction n generalizing t u with
  | zero =>
    obtain ⟨descriptor, settings, now, hnew⟩ := r.starts
    rw [hnew] at ht
    cases ht
  | succ n ih =>
    rcases step_cases (r.steps n) with ⟨d, -, hpass⟩ | ⟨w, signal, he, -, ho, -⟩
    · rw [hpass] at ht hu
      exact ih ht hu
    · -- whoever is under way after the step is the task that went on
      have honly {v : Ticket} (hv : ((r.state (n + 1)).stage v).isUnderWay = true) : v = w := by
        by_contra hne
        rw [ho v hne] at hv
        exact hne (h.alone_of_wake (fun _ _ => ih) he hv)
      rw [honly ht, honly hu]

theorem eq_of_wake (h : r.Sequential) {n : Nat} {t u : Ticket} {signal : Signal}
    (he : r.event n = .wake t signal) (hu : ((r.state n).stage u).isUnderWay = true) : u = t :=
  h.alone_of_wake (fun _ _ => h.underWay_unique n) he hu

theorem not_isRecheck (h : r.Sequential) (n : Nat) (t : Ticket) :
    ((r.state n).stage t).isRecheck = false := by
  induction n with
  | zero =>
    obtain ⟨descriptor, settings, now, hnew⟩ := r.starts
    rw [hnew]
    rfl
  | succ n ih =>
    rcases step_cases (r.steps n) with ⟨d, -, hpass⟩ | ⟨w, signal, he, hm, ho, -⟩
    · rw [hpass]
      exact ih
    · by_cases htw : t = w
      · subst htw
        cases hr : ((r.state (n + 1)).stage t).isRecheck with
        | false => rfl
        | true =>
          rcases hm.isRecheck hr with rfl | hold
          · exact absurd he (h.no_recheck n t)
          · rw [ih] at hold
            cases hold
      · rw [ho t htw]
        exact ih

/-- A call runs on the binding in use. -/
theorem dispatched (h : r.Sequential) {n : Nat} {t : Ticket} {b : Bound}
    (hb : ((r.state n).stage t).bound? = some b) : (r.state n).proxy.connection = .bound b := by
  induction n with
  | zero =>
    obtain ⟨descriptor, settings, now, hnew⟩ := r.starts
    rw [hnew] at hb
    cases hb
  | succ n ih =>
    rcases step_cases (r.steps n) with ⟨d, -, hpass⟩ | ⟨w, signal, he, hm, ho, -⟩
    · rw [hpass] at hb ⊢
      exact ih hb
    · by_cases htw : t = w
      · subst htw
        exact hm.dispatches (h.not_isRecheck (n + 1) t) hb
      · rw [ho t htw] at hb
        exact absurd (h.eq_of_wake he (Stage.isUnderWay_of_bound? hb)) htw

theorem bound_of_returns (h : r.Sequential) {n : Nat} {b : Bound}
    {result : Except InvocationError Json.Value} (hr : r.Returns n b result) :
    (r.state n).proxy.connection = .bound b := by
  obtain ⟨t, site, read, answer, hs, -, -⟩ := hr
  exact h.dispatched (by rw [hs]; rfl)

/-! ## The next caller -/

/-- When a call has returned nobody is under way. -/
theorem idle_of_returns (h : r.Sequential) {n : Nat} {b : Bound}
    {result : Except InvocationError Json.Value} (hr : r.Returns n b result) (u : Ticket) :
    ((r.state (n + 1)).stage u).isUnderWay = false := by
  obtain ⟨t, site, read, answer, hs, he, -⟩ := hr
  rcases step_cases (r.steps n) with ⟨d, hpass, -⟩ | ⟨w, signal, hwake, hm, ho, -⟩
  · cases he.symm.trans hpass
  · obtain ⟨rfl, rfl⟩ := Event.wake.inj (he.symm.trans hwake)
    by_cases hut : u = t
    · subst hut
      rw [hs] at hm
      exact hm.ends
    · rw [ho u hut]
      cases hu : ((r.state n).stage u).isUnderWay with
      | false => rfl
      | true => exact absurd (h.eq_of_wake he hu) hut

/-- While nobody is under way and nobody comes, time passes and that is all. -/
theorem passes_of_idle (h : r.Sequential) {n : Nat}
    (hidle : ∀ u, ((r.state n).stage u).isUnderWay = false)
    (hquiet : ∀ t q, r.event n ≠ .wake t (.request q)) :
    ∃ d, r.state (n + 1) = { r.state n with now := (r.state n).now + d } := by
  rcases step_cases (r.steps n) with ⟨d, -, hpass⟩ | ⟨t, signal, he, -, -, -⟩
  · exact ⟨d, hpass⟩
  · rcases h.wake_cases he with ht | ⟨q, rfl⟩
    · exact absurd (ht.symm.trans (hidle t)) nofun
    · exact absurd he (hquiet t q)

theorem idle_until (h : r.Sequential) {n m : Nat} (hnm : n ≤ m)
    (hidle : ∀ u, ((r.state n).stage u).isUnderWay = false)
    (hquiet : ∀ k, n ≤ k → k < m → ∀ t q, r.event k ≠ .wake t (.request q)) :
    (r.state m).proxy = (r.state n).proxy ∧ ∀ u, ((r.state m).stage u).isUnderWay = false := by
  induction hnm with
  | refl => exact ⟨rfl, hidle⟩
  | step hle ih =>
    rename_i m
    obtain ⟨hproxy, hidle'⟩ := ih fun k hnk hkm => hquiet k hnk (Nat.lt_succ_of_lt hkm)
    obtain ⟨d, hpass⟩ := h.passes_of_idle hidle' (hquiet m hle (Nat.lt_succ_self m))
    rw [hpass]
    exact ⟨hproxy, hidle'⟩

end Sequential

theorem line_of_idle {n : Nat} (hidle : ∀ t, ((r.state n).stage t).isUnderWay = false) :
    (r.state n).proxy.line = [] := by
  refine List.eq_nil_iff_forall_not_mem.mpr fun t ht => ?_
  have hbusy := Stage.isUnderWay_of_isInLine (((r.sound n).mem_line t).mp ht)
  rw [hidle t] at hbusy
  cases hbusy

/-- A caller who finds nobody under way and is not turned away asks the registry at once: it is its turn
as soon as it has lined up. -/
theorem asks_at_once {n : Nat} {u : Ticket} {q : Request}
    (hidle : ∀ t, ((r.state n).stage t).isUnderWay = false) (hm : (r.state n).proxy.Mendable)
    (hthrottled : (r.state n).proxy.isThrottled (r.state n).now = false)
    (he : r.event n = .wake u (.request q)) :
    r.LinesUp n u ∧ ∀ cs, ∃ s', (r.state (n + 1)).step (.wake u (.turn cs)) = some s' ∧
      (s'.stage u).isCallLookup = true ∧ s'.proxy.lookups = (r.state n).proxy.lookups + 1 := by
  obtain ⟨reason, message, hc⟩ := hm
  have hrequest : (r.state n).step (.wake u (.request q)) = some (r.state (n + 1)) := he ▸ r.steps n
  have hentered := step_request hrequest
  simp only [enter, hc, hthrottled, Bool.false_eq_true, if_false, Request.follow] at hentered
  obtain ⟨hproxy, hstage⟩ := Prod.mk.inj hentered
  refine ⟨⟨unstarted_of_request hrequest, by rw [hstage]; rfl⟩, fun cs => ?_⟩
  have hturn : ((r.state n).proxy.lineUp u).hasTurn u = true := by
    rw [hasTurn, lineUp_line, line_of_idle hidle]
    exact decide_eq_true rfl
  simp only [step, hproxy, hstage, advance, advanceRebind, hturn, if_true, Option.map_some,
    Option.some.injEq, exists_eq_left', Function.update_self, takeTurn, lineUp_generation,
    lineUp_connection, hc, ne_eq, not_true_eq_false, if_false, Request.follow]
  exact ⟨rfl, rfl⟩

end Run

end SharedProxy

end ServiceBinding
