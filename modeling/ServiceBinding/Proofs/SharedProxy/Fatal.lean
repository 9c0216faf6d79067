import ServiceBinding.Proofs.SharedProxy.History

/-!
# Fatal causes are final

A proxy that is unbound for a cause no attempt can mend stays as it is. The attempt that found the
cause started a generation that nobody had seen before: a caller or a recheck that was waiting finds
itself overtaken when its turn comes, and whoever comes later is refused at once. Neither the
throttle nor the check after the line looks at the cause; `Sound.fatal` is what keeps them from
trying again.
-/

namespace ServiceBinding

namespace SharedProxy

open Proxy

/-- One step keeps a fatal cause, and no task asks the registry in it. -/
theorem Sound.fatal_step {s s' : SharedProxy} (hs : Sound s) {e : Event}
    (h : s.step e = some s') (hf : s.proxy.Fatal) :
    s'.proxy.connection = s.proxy.connection ∧
      ∀ t, (s'.stage t).isLookup = true → (s.stage t).isLookup = true := by
  rcases step_cases h with ⟨d, -, rfl⟩ | ⟨u, signal, -, hm, ho, -⟩
  · exact ⟨rfl, fun _ ht => ht⟩
  · refine ⟨?_, fun t ht => ?_⟩
    · -- an attempt is applied only by a task that relies on the present generation
      rcases hm.effect with ⟨hc, -⟩ | ⟨hb, -, -⟩ | ⟨-, hb, -, -⟩
      · exact hc
      · rw [hf.isBound] at hb
        cases hb
      · exact absurd hb (hs.fatal hf u)
    · by_cases htu : t = u
      · subst htu
        rcases hm.asks ht with ⟨-, hnf⟩ | ⟨-, hb⟩
        · exact absurd hf hnf
        · exact absurd hb (hs.fatal hf t)
      · rwa [ho t htu] at ht

/-- A caller that finds a fatal cause gets it as its error, at once. -/
theorem resume_of_fatal {s s' : SharedProxy} {t : Ticket} {q : Request}
    (h : s.step (.wake t (.request q)) = some s') {reason : UnavailableReason} {message : String}
    {e : BindError} (hc : s.proxy.connection = .unbound reason message (some e)) :
    s'.stage t = .ended (some (.error (.binding e q.site?))) := by
  have hstage := step_request h
  have henter : s.proxy.enter s.now t = (s.proxy, .done (.error (.binding e))) := by
    simp [enter, hc]
  rw [henter] at hstage
  have hresume : s'.stage t = q.resume (.error (.binding e)) := (Prod.mk.inj hstage).2
  rw [hresume]
  cases q <;> rfl

/-- Once a proxy is unbound for a fatal cause it stays so, with the same reason, message and cause;
nobody asks the registry any more, and every caller that comes fails with that cause. -/
theorem fatal_forever (r : Run) {n m : Nat} {reason : UnavailableReason} {message : String}
    {e : BindError} (h : (r.state n).proxy.connection = .unbound reason message (some e))
    (hnm : n ≤ m) :
    (r.state m).proxy.connection = .unbound reason message (some e) ∧
      (∀ t, ¬ r.LooksUp m t) ∧
      ∀ t q, r.event m = .wake t (.request q) →
        (r.state (m + 1)).stage t = .ended (some (.error (.binding e q.site?))) := by
  have hkept : (r.state m).proxy.connection = .unbound reason message (some e) := by
    induction hnm with
    | refl => exact h
    | step _ ih =>
      rename_i m _
      have hf : (r.state m).proxy.Fatal := ⟨reason, message, e, ih⟩
      exact (((r.sound m).fatal_step (r.steps m) hf).1).trans ih
  have hf : (r.state m).proxy.Fatal := ⟨reason, message, e, hkept⟩
  refine ⟨hkept, fun t hl => ?_, fun t q he => ?_⟩
  · have hnot := ((r.sound m).fatal_step (r.steps m) hf).2 t hl.2
    rw [hl.1] at hnot
    cases hnot
  · exact resume_of_fatal (he ▸ r.steps m) hkept

/-- Two callers, of which the first finds a fatal cause, and a third one later. -/
def Sample.fatalRun : Run :=
  .ofEvents finder {}
    [.wake 0 (.request .connect), .wake 1 (.request .connect), .wake 0 (.turn components),
      .wake 0 (.registry components (.ok (some (entry "one")))),
      .wake 0 (.component (.error (.invalidProperties "no broker"))),
      .wake 1 (.turn components), .wake 2 (.request (.call "here" some))]
    rfl

theorem fatal_forever_fatalRun :
    (Sample.fatalRun.state 5).proxy.connection =
        .unbound .notBound "Invalid service properties: no broker"
          (some (.invalidProperties "no broker")) ∧
      (∀ t, ¬ Sample.fatalRun.LooksUp 6 t) ∧
      (Sample.fatalRun.state 7).stage 2 =
        .ended (some (.error (.binding (.invalidProperties "no broker") (some "here")))) := by
  have hfatal : (Sample.fatalRun.state 5).proxy.connection =
      .unbound .notBound "Invalid service properties: no broker"
        (some (.invalidProperties "no broker")) := rfl
  obtain ⟨-, hasks, hcomes⟩ := fatal_forever Sample.fatalRun hfatal (show 5 ≤ 6 by decide)
  exact ⟨hfatal, hasks, hcomes 2 _ rfl⟩

end SharedProxy

end ServiceBinding
