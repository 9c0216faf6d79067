import ServiceBinding.Proofs.SharedProxy.History

/-!
# Attempts to bind are shared and never stale

An attempt is applied in the generation in which its maker began, so nothing was applied in between
(`Run.not_applies_since_begins`). Two consequences:

* callers that find the proxy unbound at the same time share one look-up;
* of two attempts that are applied, the later one asked the registry after the earlier one was
  applied, also when a recheck asked without waiting for its turn.
-/

namespace ServiceBinding

namespace Proxy

/-- A caller whose turn comes takes what there is, or asks the registry. -/
theorem Move.turn {p p' : Proxy} {now : Instant} {t : Ticket} {stage' : Stage} {q : Request}
    {observed : Nat} {deadline : Instant} {cs : Components}
    (m : Move p now t (.rebinding q (.queued observed deadline)) (.turn cs) (p', stage')) :
    stage' = q.resume p.current ∨ stage'.isCallLookup = true := by
  cases m with
  | overtaken => exact .inl rfl
  | lookedUp => exact .inr rfl
  | concluded ha => cases ha

end Proxy

namespace SharedProxy

open Proxy

namespace Run

variable {r : Run} {t : Ticket}

/-- A caller asks the registry in the generation in which it came. -/
theorem CallLooksUp.basis? {n : Nat} (h : r.CallLooksUp n t) :
    ((r.state n).stage t).basis? (r.state n).proxy.generation =
      some (r.state n).proxy.generation := by
  obtain ⟨⟨hnot, hlookup⟩, hcall⟩ := h
  rcases r.stage_succ n t with hs | ⟨signal, hm⟩
  · rw [hs, hnot] at hlookup
    cases hlookup
  · rcases (hm.callAttempt (Stage.isCallAttempt_of_isCallLookup hcall)).2 with ha | ⟨-, hb⟩
    · exact Stage.basis?_of_isAttempt (Stage.isAttempt_of_isCallAttempt ha) _
    · exact hb

theorem callLookup_unique (r : Run) {n : Nat} {u : Ticket}
    (ht : ((r.state n).stage t).isCallLookup = true)
    (hu : ((r.state n).stage u).isCallLookup = true) : t = u := by
  have hat := Stage.isAttempt_of_isCallAttempt (Stage.isCallAttempt_of_isCallLookup ht)
  have hau := Stage.isAttempt_of_isCallAttempt (Stage.isCallAttempt_of_isCallLookup hu)
  exact (r.sound n).turn_unique hat (.inl hau)

/-- A caller asks the registry only if no attempt was applied since it lined up. -/
theorem not_applies_before_lookup {i j k : Nat} {u : Ticket} (hi : r.LinesUp i t)
    (hj : r.CallLooksUp j t) (hik : i ≤ k) (hkj : k < j) : ¬ r.Applies k u :=
  not_applies_since_begins hi.begins hj.basis? hik hkj

/-- A caller in line has not asked the registry. -/
theorem not_callLooksUp_of_queued {j m : Nat} (hq : ((r.state j).stage t).isQueued = true)
    (hmj : m < j) : ¬ r.CallLooksUp m t := by
  rintro ⟨⟨-, hlookup⟩, -⟩
  rcases queued_back hmj hq with hu | hq'
  · rw [hu] at hlookup
    cases hlookup
  · rw [Stage.not_isQueued_of_isLookup hlookup] at hq'
    cases hq'

/-- A caller that was in line when an attempt was applied takes what there is when its turn comes. -/
theorem resume_of_turn {i k j : Nat} {u : Ticket} {q : Request} {observed : Nat}
    {deadline : Instant} {cs : Components} (hi : r.LinesUp i t) (hk : r.Applies k u)
    (hik : i < k) (hkj : k < j)
    (hstage : (r.state j).stage t = .rebinding q (.queued observed deadline))
    (he : r.event j = .wake t (.turn cs)) :
    (r.state (j + 1)).stage t = q.resume (r.state j).proxy.current ∧ ∀ m, ¬ r.CallLooksUp m t := by
  have hq : ((r.state j).stage t).isQueued = true := by rw [hstage]; rfl
  have hnever : ∀ m, ¬ r.CallLooksUp m t := by
    intro m
    by_cases hmj : m < j
    · exact not_callLooksUp_of_queued hq hmj
    · -- `k` lies between the lining up and the look-up
      intro hm
      exact not_applies_before_lookup hi hm (by omega) (by omega) hk
  refine ⟨?_, hnever⟩
  rcases step_cases (r.steps j) with ⟨d, he', -⟩ | ⟨t', signal, he', hm, -, -⟩
  · rw [he] at he'
    cases he'
  · obtain ⟨rfl, rfl⟩ := Event.wake.inj (he.symm.trans he')
    rw [hstage] at hm
    rcases hm.turn with h | h
    · exact h
    · refine absurd ⟨⟨?_, ?_⟩, h⟩ (hnever j)
      · rw [hstage]; rfl
      · exact Stage.isLookup_of_isCallLookup h

/-- Whoever relies on the present generation and has asked the registry asked it in this
generation. -/
theorem exists_looksUp_since {i j : Nat} {u : Ticket} (hij : i < j) (hi : r.Applies i t)
    (hasked : ((r.state j).stage u).hasAsked = true)
    (hb : ((r.state j).stage u).basis? (r.state j).proxy.generation =
      some (r.state j).proxy.generation) :
    ∃ k, i < k ∧ k < j ∧ r.LooksUp k u := by
  obtain ⟨b, -, hbegins, hg⟩ := exists_begins hb
  obtain ⟨k, hkj, hk⟩ := exists_looksUp hasked
  have hib : i < b := by
    by_contra hbi
    -- begun by `i`, it would rely on a generation that the step `i` has ended
    have hstep := hi.generation
    have hbefore : (r.state b).proxy.generation ≤ (r.state i).proxy.generation :=
      generation_mono (by omega)
    have hafter : (r.state (i + 1)).proxy.generation ≤ (r.state j).proxy.generation :=
      generation_mono hij
    omega
  have hbk : b ≤ k := by
    by_contra hkb
    have hstarted : (r.state (k + 1)).stage u ≠ .unstarted := by
      intro h
      rw [LooksUp, h] at hk
      cases hk.2
    exact started_mono (by omega) hstarted hbegins.1
  exact ⟨k, by omega, hkj, hk⟩

end Run

/-- Callers share their attempts. No two of them wait for the registry at a time, and one asks it
only if no attempt was applied since it lined up. So a caller that was in line when an attempt was
applied never asks: when its turn comes it gets the binding, or the error, that there then is. -/
theorem rebinds_coalesce (r : Run) :
    (∀ n t u, ((r.state n).stage t).isCallLookup = true →
      ((r.state n).stage u).isCallLookup = true → t = u) ∧
    (∀ i j k t u, r.LinesUp i t → r.CallLooksUp j t → i ≤ k → k < j → ¬ r.Applies k u) ∧
    ∀ i k j t u q observed deadline cs, r.LinesUp i t → r.Applies k u → i < k → k < j →
      (r.state j).stage t = .rebinding q (.queued observed deadline) →
      r.event j = .wake t (.turn cs) →
      (r.state (j + 1)).stage t = q.resume (r.state j).proxy.current ∧
        ∀ m, ¬ r.CallLooksUp m t := by
  refine ⟨?_, ?_, ?_⟩
  · intro n t u ht hu
    exact r.callLookup_unique ht hu
  · intro i j k t u hi hj hik hkj
    exact Run.not_applies_before_lookup hi hj hik hkj
  · intro i k j t u q observed deadline cs hi hk hik hkj hstage he
    exact Run.resume_of_turn hi hk hik hkj hstage he

/-- Two callers at once. -/
def Sample.sharedRun : Run :=
  .ofEvents finder {}
    [.wake 0 (.request .connect), .wake 1 (.request (.call "here" some)),
      .wake 0 (.turn components), .wake 0 (.registry components (.ok (some (entry "one")))),
      .wake 0 (.component (.ok (binding "one"))), .wake 1 (.turn components)]
    rfl

theorem rebinds_coalesce_sharedRun :
    Sample.sharedRun.LinesUp 1 1 ∧ Sample.sharedRun.Applies 4 0 ∧
      (Sample.sharedRun.state 6).stage 1 =
        .calling "here" some ⟨0, Sample.binding "one", none⟩ ∧
      ∀ m, ¬ Sample.sharedRun.CallLooksUp m 1 := by
  have hlines : Sample.sharedRun.LinesUp 1 1 := ⟨rfl, rfl⟩
  have happlies : Sample.sharedRun.Applies 4 0 :=
    ⟨⟨_, rfl⟩, .ok (Sample.binding "one", none), rfl⟩
  refine ⟨hlines, happlies, ?_⟩
  exact (rebinds_coalesce Sample.sharedRun).2.2 1 4 5 1 0 (.call "here" some) _ _ _ hlines happlies
    (by decide) (by decide) rfl rfl

/-- Of two attempts that are applied, the later one asked the registry after the earlier one was
applied, and asked once. So no binding gives way to one that was looked up before it was made. -/
theorem lookup_after_applied (r : Run) {i j : Nat} {t u : Ticket} (hij : i < j)
    (hi : r.Applies i t) (hj : r.Applies j u) :
    ∃ k, i < k ∧ k < j ∧ r.LooksUp k u ∧ ∀ k', r.LooksUp k' u → k' = k := by
  obtain ⟨hasked, hb⟩ := hj.basis?
  obtain ⟨k, hik, hkj, hk⟩ := Run.exists_looksUp_since hij hi hasked hb
  exact ⟨k, hik, hkj, hk, fun k' hk' => Run.looksUp_unique hk' hk⟩

/-- A caller binds the proxy to one provider and a recheck to another. -/
def Sample.reboundRun : Run :=
  .ofEvents finder {} (binds 0 .connect "one" ++ rechecks 1 "two") rfl

theorem lookup_after_applied_reboundRun :
    Sample.reboundRun.Applies 3 0 ∧ Sample.reboundRun.Applies 7 1 ∧
      ∃ k, 3 < k ∧ k < 7 ∧ Sample.reboundRun.LooksUp k 1 ∧
        ∀ k', Sample.reboundRun.LooksUp k' 1 → k' = k := by
  have hfirst : Sample.reboundRun.Applies 3 0 :=
    ⟨⟨_, rfl⟩, .ok (Sample.binding "one", none), rfl⟩
  have hsecond : Sample.reboundRun.Applies 7 1 :=
    ⟨⟨_, rfl⟩, .ok (Sample.binding "two", none), rfl⟩
  exact ⟨hfirst, hsecond, lookup_after_applied Sample.reboundRun (by decide) hfirst hsecond⟩

end SharedProxy

end ServiceBinding
