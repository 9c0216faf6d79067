import ServiceBinding.Proofs.SharedProxy.Sequential

/-!
# When a binding is taken down

A call that returns on the binding in use is treated in one of four ways (`Takes`): it takes the binding
down, it counts, it ends the count, or it changes nothing. If calls are made one after another and nobody
rechecks, every call returns on the binding in use. So the count is that of the calls that have not
reached the provider since the binding began or a call was last answered (`Run.missesSince`,
`Run.Sequential.failures_eq`), and the rule by which a binding is taken down is exact
(`disconnect_rule`).
-/

namespace ServiceBinding

namespace Proxy

/-! ## What a result does to the binding in use -/

/-- An error that tells that the provider was not reached. -/
def Unreached (e : InvocationError) : Prop :=
  ∃ reason, e.reason? = some reason ∧ reason.isUnreachability = true

/-- An unavailability for another cause, such as a rejection or an open circuit. -/
def HeldBack (e : InvocationError) : Prop :=
  ∃ reason, e.reason? = some reason ∧ reason.isUnreachability = false

theorem Answered.not_unreached {result : Except InvocationError Json.Value} (h : Answered result) :
    ¬ ∃ e, result = .error e ∧ Unreached e := by
  rintro ⟨e, rfl, reason, hreason, -⟩
  exact absurd (hreason.symm.trans h) nofun

theorem HeldBack.not_unreached {e : InvocationError} (h : HeldBack e) : ¬ Unreached e := by
  rintro ⟨reason, hreason, hun⟩
  obtain ⟨reason', hreason', hun'⟩ := h
  obtain rfl := Option.some.inj (hreason.symm.trans hreason')
  exact absurd (hun.symm.trans hun') nofun

theorem HeldBack.not_answered {e : InvocationError} (h : HeldBack e) : ¬ Answered (.error e) := by
  obtain ⟨reason, hreason, -⟩ := h
  intro ha
  exact absurd (hreason.symm.trans ha) nofun

/-- What the result of a call on the binding in use does to the proxy. -/
inductive Takes (p : Proxy) : Except InvocationError Json.Value → Proxy → Prop
  | down {e reason message} (h : p.TakesDown e) :
      Takes p (.error e)
        { p with connection := .unbound reason message none, retryAfter := none, failures := 0 }
  | answered {result} (ha : Answered result) (h : ∀ e, result = .error e → ¬ p.TakesDown e) :
      Takes p result { p with failures := 0 }
  | missed {e} (hu : Unreached e) (h : ¬ p.TakesDown e) :
      Takes p (.error e) { p with failures := p.failures + 1 }
  | heldBack {e} (hh : HeldBack e) (h : ¬ p.TakesDown e) : Takes p (.error e) p

theorem takesDown_iff {p : Proxy} {e : InvocationError} :
    p.TakesDown e ↔ p.settings.signals.includes e = true ∨
      Unreached e ∧ ∃ limit, p.settings.invalidateAfter = some limit ∧ limit ≤ p.failures + 1 := by
  constructor
  · rintro (hs | ⟨hreason, hun, hlimit, hreached⟩)
    · exact .inl hs
    · exact .inr ⟨⟨_, hreason, hun⟩, _, hlimit, hreached⟩
  · rintro (hs | ⟨⟨_, hreason, hun⟩, _, hlimit, hreached⟩)
    · exact .signal hs
    · exact .unreachable hreason hun hlimit hreached

theorem observe_takes {p : Proxy} {b : Bound} (hb : p.connection = .bound b)
    (result : Except InvocationError Json.Value) : p.Takes result (p.observe b result) := by
  cases result with
  | ok v => exact .answered trivial nofun
  | error e =>
    -- whether the error is a signal is asked first, so a signal is never counted
    cases hs : p.settings.signals.includes e with
    | true =>
      simp only [observe, hs, if_true, disconnect_eq hb]
      exact .down (.signal hs)
    | false =>
      cases hreason : e.reason? with
      | none =>
        have hkept : ¬ p.TakesDown e := by simp [takesDown_iff, hs, Unreached, hreason]
        simp only [observe, hs, hreason, Bool.false_eq_true, if_false]
        exact .answered hreason fun e' h => Except.error.inj h ▸ hkept
      | some reason =>
        cases hun : reason.isUnreachability with
        | false =>
          have hkept : ¬ p.TakesDown e := by simp [takesDown_iff, hs, Unreached, hreason, hun]
          simp only [observe, hs, hreason, hun, Bool.false_eq_true, if_false]
          exact .heldBack ⟨reason, hreason, hun⟩ hkept
        | true =>
          have hunreached : Unreached e := ⟨reason, hreason, hun⟩
          simp only [observe, hs, hreason, hun, Bool.false_eq_true, if_false, if_true]
          cases hlimit : p.settings.invalidateAfter with
          | none => exact .missed hunreached (by simp [takesDown_iff, hs, hlimit])
          | some limit =>
            by_cases hreached : limit ≤ p.failures + 1
            · -- the failure is counted, and then the binding is taken down with the count
              have hcounted : ({ p with failures := p.failures + 1 } : Proxy).connection = .bound b := hb
              simp only [if_pos hreached, disconnect_eq hcounted]
              exact .down (.unreachable hreason hun hlimit hreached)
            · simp only [if_neg hreached]
              exact .missed hunreached (by simp [takesDown_iff, hs, hlimit, hreached])

section

variable {p p' : Proxy} {result : Except InvocationError Json.Value}

/-- The binding in use is taken down by an error that takes it down, and by nothing else. -/
theorem Takes.isBound_iff (h : p.Takes result p') (hb : p.isBound = true) :
    p'.isBound = false ↔ ∃ e, result = .error e ∧ p.TakesDown e := by
  cases h with
  | down hdown => exact iff_of_true rfl ⟨_, rfl, hdown⟩
  | answered _ hkept =>
    refine iff_of_false (by simpa [isBound] using hb) ?_
    rintro ⟨e, he, hdown⟩
    exact hkept e he hdown
  | missed _ hkept | heldBack _ hkept =>
    refine iff_of_false (by simpa [isBound] using hb) ?_
    rintro ⟨e, he, hdown⟩
    exact hkept (Except.error.inj he ▸ hdown)

theorem Takes.eq_of_heldBack {e : InvocationError} (h : p.Takes (.error e) p')
    (hs : p.settings.signals.includes e = false) (hh : HeldBack e) : p' = p := by
  cases h with
  | down hdown =>
    rcases takesDown_iff.mp hdown with hsignal | ⟨hun, -⟩
    · exact absurd (hsignal.symm.trans hs) nofun
    · exact absurd hun hh.not_unreached
  | answered ha => exact absurd ha hh.not_answered
  | missed hun => exact absurd hun hh.not_unreached
  | heldBack => rfl

/-- Whoever comes after a binding was taken down is not turned away. -/
theorem Takes.not_throttled (h : p.Takes result p') (hb : p.isBound = true) (hu : p'.isBound = false)
    (now : Instant) : p'.Mendable ∧ p'.isThrottled now = false := by
  cases h with
  | down => exact ⟨⟨_, _, rfl⟩, rfl⟩
  | answered | missed | heldBack => cases hb.symm.trans hu

end

section

variable {p p' : Proxy} {now : Instant} {t : Ticket} {stage stage' : Stage} {signal : Signal}

/-- Nothing but the return of a call and the attempts to bind change the count. -/
theorem Move.failures_eq (m : Move p now t stage signal (p', stage'))
    (ha : stage.isCallAttempt = false) (hr : stage.isRecheck = false) :
    p'.failures = p.failures ∨
      ∃ site read b answer, stage = .calling site read b ∧ signal = .command answer := by
  cases m with
  | concluded hc =>
    rw [ha] at hc
    cases hc
  | recheckDisconnected | recheckConcluded => cases hr
  | replied => exact .inr ⟨_, _, _, _, rfl, rfl⟩
  | _ => exact .inl rfl

end

end Proxy

namespace SharedProxy

open Proxy

namespace Run

variable {r : Run}

/-! ## The count -/

/-- In step `n` the proxy gets a binding. -/
def Binds (r : Run) (n : Nat) : Prop :=
  (r.state n).proxy.isBound = false ∧ (r.state (n + 1)).proxy.isBound = true

/-- In step `n` a call returns that has not reached the provider. -/
def Fails (r : Run) (n : Nat) : Prop := ∃ b e, r.Returns n b (.error e) ∧ Unreached e

/-- In step `n` the proxy gets a binding, or a call returns that was answered. -/
def Resets (r : Run) (n : Nat) : Prop :=
  r.Binds n ∨ ∃ b result, r.Returns n b result ∧ Answered result

open Classical in
/-- How many calls have not reached the provider by step `n`, since the latest step in which the proxy got
a binding or a call was answered. -/
noncomputable def missesSince (r : Run) (n : Nat) : Nat :=
  ((Finset.range n).filter fun m => r.Fails m ∧ ∀ k, m < k → k < n → ¬ r.Resets k).card

/-- Of the steps before `n` the same ones count after a step that resets nothing. -/
theorem counts_succ {n m : Nat} (hr : ¬ r.Resets n) (hm : m < n) :
    (r.Fails m ∧ ∀ k, m < k → k < n + 1 → ¬ r.Resets k) ↔
      r.Fails m ∧ ∀ k, m < k → k < n → ¬ r.Resets k := by
  refine and_congr_right fun _ => ⟨fun h k hmk hkn => h k hmk (Nat.lt_succ_of_lt hkn), ?_⟩
  intro h k hmk hkn
  rcases Nat.lt_or_eq_of_le (Nat.le_of_lt_succ hkn) with hlt | rfl
  · exact h k hmk hlt
  · exact hr

open Classical in
theorem missesSince_of_resets {n : Nat} (hr : r.Resets n) (hf : ¬ r.Fails n) :
    r.missesSince (n + 1) = 0 := by
  rw [missesSince, Finset.card_eq_zero, Finset.filter_eq_empty_iff]
  rintro m hm ⟨hfails, hsince⟩
  rcases Nat.lt_or_eq_of_le (Nat.le_of_lt_succ (Finset.mem_range.mp hm)) with hlt | rfl
  · exact hsince n hlt (Nat.lt_succ_self n) hr
  · exact hf hfails

open Classical in
theorem missesSince_of_kept {n : Nat} (hr : ¬ r.Resets n) (hf : ¬ r.Fails n) :
    r.missesSince (n + 1) = r.missesSince n := by
  unfold missesSince
  rw [Finset.range_add_one, Finset.filter_insert, if_neg (fun h => hf h.1)]
  exact congrArg Finset.card
    (Finset.filter_congr fun m hm => counts_succ hr (Finset.mem_range.mp hm))

open Classical in
theorem missesSince_of_fails {n : Nat} (hr : ¬ r.Resets n) (hf : r.Fails n) :
    r.missesSince (n + 1) = r.missesSince n + 1 := by
  have hlast : ∀ k, n < k → k < n + 1 → ¬ r.Resets k := by omega
  unfold missesSince
  rw [Finset.range_add_one, Finset.filter_insert, if_pos ⟨hf, hlast⟩,
    Finset.card_insert_of_notMem (by simp)]
  exact congrArg (Finset.card · + 1)
    (Finset.filter_congr fun m hm => counts_succ hr (Finset.mem_range.mp hm))

theorem Returns.fails_iff {n : Nat} {b : Bound} {result : Except InvocationError Json.Value}
    (hr : r.Returns n b result) : r.Fails n ↔ ∃ e, result = .error e ∧ Unreached e := by
  constructor
  · rintro ⟨c, e, hr', hun⟩
    exact ⟨e, hr.unique hr', hun⟩
  · rintro ⟨e, rfl, hun⟩
    exact ⟨b, e, hr, hun⟩

/-- A binding begins with no failures. -/
theorem Binds.failures {n : Nat} (h : r.Binds n) : (r.state (n + 1)).proxy.failures = 0 := by
  obtain ⟨hu, hb⟩ := h
  obtain ⟨b, hc⟩ := isBound_iff.mp hb
  have hnew : (r.state n).proxy.connection ≠ .bound b := by
    intro hold
    rw [isBound_iff.mpr ⟨b, hold⟩] at hu
    cases hu
  rcases step_cases (r.steps n) with ⟨d, -, hpass⟩ | ⟨t, signal, -, hm, -, -⟩
  · rw [hpass] at hc
    exact absurd hc hnew
  · exact hm.failures_of_bound hc hnew

namespace Sequential

/-- What the proxy makes of a call that returns. -/
theorem takes (h : r.Sequential) {n : Nat} {b : Bound} {result : Except InvocationError Json.Value}
    (hr : r.Returns n b result) : (r.state n).proxy.Takes result (r.state (n + 1)).proxy := by
  rw [hr.proxy]
  exact observe_takes (h.bound_of_returns hr) result

/-- Where a call returns no binding begins. -/
theorem resets_iff (h : r.Sequential) {n : Nat} {b : Bound}
    {result : Except InvocationError Json.Value} (hr : r.Returns n b result) :
    r.Resets n ↔ Answered result := by
  constructor
  · rintro (⟨hu, -⟩ | ⟨c, result', hr', ha⟩)
    · rw [isBound_iff.mpr ⟨b, h.bound_of_returns hr⟩] at hu
      cases hu
    · exact hr.unique hr' ▸ ha
  · intro ha
    exact .inr ⟨b, result, hr, ha⟩

theorem missesSince_of_unreached (h : r.Sequential) {n : Nat} {b : Bound} {e : InvocationError}
    (hr : r.Returns n b (.error e)) (hun : Unreached e) :
    r.missesSince (n + 1) = r.missesSince n + 1 := by
  refine missesSince_of_fails (fun hresets => ?_) (hr.fails_iff.mpr ⟨e, rfl, hun⟩)
  exact ((h.resets_iff hr).mp hresets).not_unreached ⟨e, rfl, hun⟩

/-- A call that was held back neither counts nor begins the count anew. -/
theorem missesSince_of_heldBack (h : r.Sequential) {n : Nat} {b : Bound} {e : InvocationError}
    (hr : r.Returns n b (.error e)) (hh : HeldBack e) : r.missesSince (n + 1) = r.missesSince n := by
  refine missesSince_of_kept (fun hresets => hh.not_answered ((h.resets_iff hr).mp hresets)) ?_
  intro hfails
  obtain ⟨e', he, hun⟩ := hr.fails_iff.mp hfails
  exact hh.not_unreached (Except.error.inj he ▸ hun)

/-- A call that returns and leaves the binding in use leaves the proxy with the right count. -/
theorem failures_of_returns (h : r.Sequential) {n : Nat} {b : Bound}
    {result : Except InvocationError Json.Value} (hr : r.Returns n b result)
    (hcount : (r.state n).proxy.failures = r.missesSince n)
    (hkept : (r.state (n + 1)).proxy.isBound = true) :
    (r.state (n + 1)).proxy.failures = r.missesSince (n + 1) := by
  have hfails := hr.fails_iff
  have hresets := h.resets_iff hr
  have htakes := h.takes hr
  generalize (r.state (n + 1)).proxy = p' at htakes hkept ⊢
  cases htakes with
  | down => cases hkept
  | answered ha =>
    rw [missesSince_of_resets (hresets.mpr ha) (fun hf => ha.not_unreached (hfails.mp hf))]
  | missed hun => rw [h.missesSince_of_unreached hr hun, ← hcount]
  | heldBack hh => rw [h.missesSince_of_heldBack hr hh, hcount]

/-- While there is a binding and no call returns, the count stays. -/
theorem failures_of_bound (h : r.Sequential) {n : Nat} (hb : (r.state n).proxy.isBound = true)
    (hreturns : ¬ ∃ b result, r.Returns n b result) :
    (r.state (n + 1)).proxy.failures = (r.state n).proxy.failures := by
  rcases step_cases (r.steps n) with ⟨d, -, hpass⟩ | ⟨t, signal, he, hm, -, -⟩
  · rw [hpass]
  · have hattempt : ((r.state n).stage t).isCallAttempt = false := by
      cases ha : ((r.state n).stage t).isCallAttempt with
      | false => rfl
      | true =>
        rw [((r.sound n).mendable t ha).isBound] at hb
        cases hb
    rcases hm.failures_eq hattempt (h.not_isRecheck n t) with hsame | ⟨site, read, b, answer, hs, rfl⟩
    · exact hsame
    · exact absurd ⟨b, _, t, site, read, answer, hs, he, rfl⟩ hreturns

/-- A proxy that is bound has counted the calls that have not reached the provider since it was bound
or a call was answered. -/
theorem failures_eq (h : r.Sequential) (n : Nat) (hb : (r.state n).proxy.isBound = true) :
    (r.state n).proxy.failures = r.missesSince n := by
  induction n with
  | zero =>
    obtain ⟨descriptor, settings, now, hnew⟩ := r.starts
    rw [hnew] at hb
    cases hb
  | succ n ih =>
    by_cases hreturns : ∃ b result, r.Returns n b result
    · obtain ⟨b, result, hr⟩ := hreturns
      exact h.failures_of_returns hr (ih (isBound_iff.mpr ⟨b, h.bound_of_returns hr⟩)) hb
    · -- where nothing returns, only a new binding changes the count
      have hfails : ¬ r.Fails n := fun ⟨b, e, hr, _⟩ => hreturns ⟨b, _, hr⟩
      cases hold : (r.state n).proxy.isBound with
      | false => rw [Binds.failures ⟨hold, hb⟩, missesSince_of_resets (.inl ⟨hold, hb⟩) hfails]
      | true =>
        have hnone : ¬ r.Resets n := by
          rintro (⟨hu, -⟩ | ⟨b, result, hr, -⟩)
          · exact absurd (hold.symm.trans hu) nofun
          · exact hreturns ⟨b, result, hr⟩
        rw [h.failures_of_bound hold hreturns, missesSince_of_kept hnone hfails, ih hold]

end Sequential

end Run

/-- The rule by which a binding is taken down, if callers come one after another and nobody rechecks.
After a call that ran on a binding and brought `result`, whatever its caller then reads from it, the
proxy is unbound exactly if `result` is a signal, or if the call did not reach the provider and is the
last of so many that did not since the binding began or a call was answered; a limit of zero is one of
one. What else holds a call back neither counts nor begins the count anew. And the next caller that comes
after a binding was taken down is not turned away: it lines up, and in its turn, which it has at once, it
asks the registry. -/
theorem disconnect_rule (r : Run) (h : r.Sequential) {n : Nat} {b : Bound}
    {result : Except InvocationError Json.Value} (hr : r.Returns n b result) :
    ((r.state (n + 1)).proxy.isBound = false ↔
      ∃ e, result = .error e ∧
        ((r.state n).proxy.settings.signals.includes e = true ∨
          Unreached e ∧ ∃ limit, (r.state n).proxy.settings.invalidateAfter = some limit ∧
            max limit 1 ≤ r.missesSince (n + 1))) ∧
    (∀ e, result = .error e → (r.state n).proxy.settings.signals.includes e = false → HeldBack e →
      (r.state (n + 1)).proxy = (r.state n).proxy ∧ r.missesSince (n + 1) = r.missesSince n) ∧
    ((r.state (n + 1)).proxy.isBound = false →
      ∀ m, n < m → (∀ k, n < k → k < m → ∀ t q, r.event k ≠ .wake t (.request q)) →
        ∀ u q, r.event m = .wake u (.request q) →
          r.LinesUp m u ∧ ∀ cs, ∃ s', (r.state (m + 1)).step (.wake u (.turn cs)) = some s' ∧
            (s'.stage u).isCallLookup = true ∧
            s'.proxy.lookups = (r.state m).proxy.lookups + 1) := by
  have hb : (r.state n).proxy.isBound = true := isBound_iff.mpr ⟨b, h.bound_of_returns hr⟩
  have htakes := h.takes hr
  refine ⟨?_, ?_, ?_⟩
  · rw [htakes.isBound_iff hb]
    refine exists_congr fun e => and_congr_right fun he => ?_
    rw [takesDown_iff]
    refine or_congr_right (and_congr_right fun hun => exists_congr fun limit => ?_)
    have hlast : r.missesSince (n + 1) = (r.state n).proxy.failures + 1 := by
      rw [h.failures_eq n hb, h.missesSince_of_unreached (he ▸ hr) hun]
    refine and_congr_right fun _ => ?_
    omega
  · rintro e rfl hs hh
    exact ⟨htakes.eq_of_heldBack hs hh, h.missesSince_of_heldBack hr hh⟩
  · intro hu m hnm hquiet u q he
    obtain ⟨hmendable, hthrottled⟩ := htakes.not_throttled hb hu (r.state m).now
    obtain ⟨hproxy, hidle⟩ := h.idle_until hnm (h.idle_of_returns hr) hquiet
    rw [← hproxy] at hmendable hthrottled
    exact Run.asks_at_once hidle hmendable hthrottled he

namespace Sample

/-- A call that finds the pool of its command full. -/
def rejected : Except (CommandError InvocationError) Json.Value := .error (.rejected "finder/call")

/-- Of three calls on a binding the first and the last do not reach the provider and the second one is
rejected. A fourth call comes after that. -/
def missingRun : Run :=
  .ofEvents finder { invalidateAfter := some 2, signals := .never }
    (binds 0 (.call "here" some) "one" ++
      [.wake 0 (.command unreachable), .wake 1 (.request (.call "here" some)),
        .wake 1 (.command rejected), .wake 2 (.request (.call "here" some)),
        .wake 2 (.command unreachable), .wake 3 (.request (.call "here" some)),
        .wake 3 (.turn components)])
    rfl

theorem missingRun_sequential : missingRun.Sequential where
  alone n t q he u := by
    match n with
    | 0 => rfl
    | 5 => match u with
      | 0 => rfl
      | _ + 1 => rfl
    | 7 => match u with
      | 0 | 1 => rfl
      | _ + 2 => rfl
    | 9 => match u with
      | 0 | 1 | 2 => rfl
      | _ + 3 => rfl
    | 1 | 2 | 3 | 4 | 6 | 8 | 10 => cases he
    | _ + 11 => cases he
  no_recheck n t he := by
    match n with
    | 0 | 1 | 2 | 3 | 4 | 5 | 6 | 7 | 8 | 9 | 10 => cases he
    | _ + 11 => cases he

end Sample

theorem disconnect_rule_missingRun :
    Sample.missingRun.Sequential ∧
      (∃ e, Sample.missingRun.Returns 8 Sample.first (.error e) ∧ Unreached e) ∧
      (Sample.missingRun.state 9).proxy.isBound = false ∧ 2 ≤ Sample.missingRun.missesSince 9 ∧
      Sample.missingRun.LinesUp 9 3 := by
  have hreturns : Sample.missingRun.Returns 8 Sample.first
      (.error (.unavailable ⟨"finder", .unreachable, "connection refused", none⟩)) :=
    ⟨2, "here", some, Sample.unreachable, rfl, rfl, rfl⟩
  have hunbound : (Sample.missingRun.state 9).proxy.isBound = false := rfl
  obtain ⟨hrule, -, hnext⟩ :=
    disconnect_rule Sample.missingRun Sample.missingRun_sequential hreturns
  obtain ⟨e, -, hsignal | ⟨-, limit, hlimit, hmisses⟩⟩ := hrule.mp hunbound
  · cases hsignal
  · obtain rfl : 2 = limit := Option.some.inj hlimit
    have hlines := hnext hunbound 9 (Nat.lt_succ_self 8) (by omega) 3 (.call "here" some) rfl
    exact ⟨Sample.missingRun_sequential, ⟨_, hreturns, _, rfl, rfl⟩, hunbound, hmisses, hlines.1⟩

end SharedProxy

end ServiceBinding
