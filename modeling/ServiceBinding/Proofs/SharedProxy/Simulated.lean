import ServiceBinding.Proofs.SharedProxy.Run
import ServiceBinding.Simulation.Activity

/-!
# Callers and rechecks of the simulated world

What the simulated world lets a caller or a recheck do to a proxy is what `Proxy.advance` lets a task
do: the signal is the answer that the world gives, the deadline, or that the task is dropped. The
world keeps the proxy that comes of it (`World.Advances`), and the task goes on under its ticket at
the stage that comes of it (`RebindRun.IsAt`, `RecheckRun.IsAt`).
-/

namespace ServiceBinding.Simulation

open Proxy (Request RebindProgress RecheckProgress Stage Signal)

/-- A caller that waits in the world under a ticket, or is past that, is at a stage. One that has broken off
is where a dropped one is. -/
def RebindRun.IsAt (q : Request) (t : Ticket) (stage : Stage) :
    Progress RebindRun (Fate InvocationError Bound) → Prop
  | .wait r => r.ticket = t ∧ stage = .rebinding q r.position
  | .done (.result r) => stage = q.resume r
  | .done (.broken _) => stage = .ended none

/-- A recheck that waits in the world under a ticket, or is over or broken off, is at a stage. -/
def RecheckRun.IsAt (t : Ticket) (stage : Stage) : Progress RecheckRun (Except String Unit) → Prop
  | .wait r => r.ticket = t ∧ stage = .rechecking r.position
  | .done _ => stage = .ended none

namespace World

/-- From `w` to `w'` a task goes on with a proxy by one piece, and the world keeps that proxy. -/
def Advances (w w' : World) (number : Nat) (p : Proxy) (t : Ticket) (stage stage' : Stage) : Prop :=
  ∃ signal p', p.advance w.now t stage signal = some (p', stage') ∧
    w'.proxies = (w.setProxy number p').proxies

theorem beginLookup_proxies (w : World) (via : Via) (key : ServiceKey) :
    (w.beginLookup via key).1.proxies = w.proxies := by
  cases via with
  | link | configured => rfl
  | cache =>
    unfold beginLookup
    dsimp only
    split <;> rfl

theorem endLookup?_frame {w w' : World} {l : PendingLookup}
    {fate : Fate RegistryError (Option Entry)} (h : w.endLookup? l = some (w', fate)) : w'.proxies = w.proxies ∧ w'.now = w.now := by
  unfold endLookup? at h
  dsimp only at h
  repeat' split at h
  all_goals cases h
  all_goals exact ⟨rfl, rfl⟩

theorem setProxy_proxies {w w₀ : World} (h : w₀.proxies = w.proxies) (number : Nat) (p : Proxy) :
    (w₀.setProxy number p).proxies = (w.setProxy number p).proxies := by
  simp only [setProxy, h]

variable {w w' w₀ : World} {number : Nat} {u : ProxyInUse} {via : Via} {t : Ticket} {p : Proxy}
  {stage : Stage}

/-! ## Callers -/

section Callers

variable {q : Request} {progress : Progress RebindRun (Fate InvocationError Bound)}

/-- A caller goes on in a world with the same proxies. -/
theorem advances_followRebind (signal : Signal) {next : Proxy × RebindProgress}
    (hp : w₀.proxies = w.proxies)
    (h : w₀.followRebind number via t next = (w', progress))
    (ha : p.advance w.now t stage signal = some (q.follow next)) :
    ∃ stage', w.Advances w' number p t stage stage' ∧ RebindRun.IsAt q t stage' progress := by
  obtain ⟨p', position | r⟩ := next
  · cases position with
    | lookingUp deadline =>
      obtain ⟨rfl, rfl⟩ := Prod.mk.inj h
      refine ⟨_, ⟨signal, p', ha, ?_⟩, rfl, rfl⟩
      exact (beginLookup_proxies _ via p'.key).trans (setProxy_proxies hp number p')
    | queued | binding =>
      obtain ⟨rfl, rfl⟩ := Prod.mk.inj h
      exact ⟨_, ⟨signal, p', ha, setProxy_proxies hp number p'⟩, rfl, rfl⟩
  · obtain ⟨rfl, rfl⟩ := Prod.mk.inj h
    exact ⟨_, ⟨signal, p', ha, setProxy_proxies hp number p'⟩, rfl⟩

/-- A caller that comes to a proxy of the world begins under a new ticket. -/
theorem beginRebind_advances (h : w.beginRebind number u = (w', progress)) (q : Request) :
    ∃ stage', w.Advances w' number u.proxy w.fresh .unstarted stage' ∧
      RebindRun.IsAt q w.fresh stage' progress := by
  have hsame : w.takeNumber.1.proxies = w.proxies := rfl
  exact advances_followRebind (.request q) hsame h rfl

theorem resumeRebind?_advances {r : RebindRun} (h : w.resumeRebind? number u r = some (w', progress))
    (q : Request) :
    ∃ stage', w.Advances w' number u.proxy r.ticket (.rebinding q r.position) stage' ∧
      RebindRun.IsAt q r.ticket stage' progress := by
  obtain ⟨t, position, pending⟩ := r
  unfold resumeRebind? at h
  dsimp only at h
  split at h
  · split at h
    · rename_i observed deadline _ ht
      refine advances_followRebind (.turn w.components) rfl (Option.some.inj h) ?_
      exact if_pos ht
    · cases h
  · obtain ⟨⟨w₀, fate⟩, hfate, h⟩ := Option.map_eq_some_iff.mp h
    obtain ⟨hproxies, hnow⟩ := endLookup?_frame hfate
    cases fate with
    | result found =>
      refine advances_followRebind (.registry w₀.components found) hproxies h ?_
      rw [← hnow]
      rfl
    | broken text =>
      obtain ⟨rfl, rfl⟩ := Prod.mk.inj h
      exact ⟨.ended none, ⟨.drop, _, rfl, setProxy_proxies hproxies number _⟩, rfl⟩
  · split at h
    · cases h
    · exact advances_followRebind (.component _) rfl (Option.some.inj h) rfl
  · cases h

theorem expireRebind?_advances {r : RebindRun} (h : w.expireRebind? number u r = some (w', progress))
    (q : Request) :
    ∃ stage', w.Advances w' number u.proxy r.ticket (.rebinding q r.position) stage' ∧
      RebindRun.IsAt q r.ticket stage' progress := by
  unfold expireRebind? at h
  split at h
  · cases h
  · rename_i hd
    have hdue : r.position.deadline ≤ w.now := Nat.le_of_not_lt hd
    refine advances_followRebind .deadline rfl (Option.some.inj h) ?_
    cases hposition : r.position <;> rw [hposition] at hdue <;> exact if_pos hdue

end Callers

/-! ## Rechecks -/

section Rechecks

variable {progress : Progress RecheckRun (Except String Unit)}

/-- A recheck goes on in a world with the same proxies. -/
theorem advances_followRecheck (signal : Signal) {next : Proxy × RecheckProgress}
    (hp : w₀.proxies = w.proxies)
    (h : w₀.followRecheck number via t next = (w', progress))
    (ha : p.advance w.now t stage signal = some (Proxy.followRecheck next)) :
    ∃ stage', w.Advances w' number p t stage stage' ∧ RecheckRun.IsAt t stage' progress := by
  obtain ⟨p', position | _⟩ := next
  · cases position with
    | lookingUp observed seen deadline =>
      obtain ⟨rfl, rfl⟩ := Prod.mk.inj h
      refine ⟨_, ⟨signal, p', ha, ?_⟩, rfl, rfl⟩
      exact (beginLookup_proxies _ via p'.key).trans (setProxy_proxies hp number p')
    | queued | binding =>
      obtain ⟨rfl, rfl⟩ := Prod.mk.inj h
      exact ⟨_, ⟨signal, p', ha, setProxy_proxies hp number p'⟩, rfl, rfl⟩
  · obtain ⟨rfl, rfl⟩ := Prod.mk.inj h
    exact ⟨_, ⟨signal, p', ha, setProxy_proxies hp number p'⟩, rfl⟩

/-- A recheck of a proxy of the world begins under a new ticket. -/
theorem beginRecheck_advances (h : w.beginRecheck number u = (w', progress)) :
    ∃ stage', w.Advances w' number u.proxy w.fresh .unstarted stage' ∧
      RecheckRun.IsAt w.fresh stage' progress := by
  have hsame : w.takeNumber.1.proxies = w.proxies := rfl
  exact advances_followRecheck .recheck hsame h rfl

theorem resumeRecheck?_advances {r : RecheckRun}
    (h : w.resumeRecheck? number u r = some (w', progress)) :
    ∃ stage', w.Advances w' number u.proxy r.ticket (.rechecking r.position) stage' ∧
      RecheckRun.IsAt r.ticket stage' progress := by
  obtain ⟨t, position, pending⟩ := r
  unfold resumeRecheck? at h
  dsimp only at h
  split at h
  · obtain ⟨⟨w₀, fate⟩, hfate, h⟩ := Option.map_eq_some_iff.mp h
    obtain ⟨hproxies, -⟩ := endLookup?_frame hfate
    cases fate with
    | result found => exact advances_followRecheck (.registry w.components found) hproxies h rfl
    | broken text =>
      obtain ⟨rfl, rfl⟩ := Prod.mk.inj h
      exact ⟨.ended none, ⟨.drop, _, rfl, setProxy_proxies hproxies number _⟩, rfl⟩
  · split at h
    · rename_i ht
      refine advances_followRecheck (.turn w.components) rfl (Option.some.inj h) ?_
      exact if_pos ht
    · cases h
  · split at h
    · cases h
    · exact advances_followRecheck (.component _) rfl (Option.some.inj h) rfl
  · cases h

theorem expireRecheck?_advances {r : RecheckRun}
    (h : w.expireRecheck? number u r = some (w', progress)) :
    ∃ stage', w.Advances w' number u.proxy r.ticket (.rechecking r.position) stage' ∧
      RecheckRun.IsAt r.ticket stage' progress := by
  obtain ⟨t, position, pending⟩ := r
  unfold expireRecheck? at h
  dsimp only at h
  split at h
  · cases h
  · rename_i deadline hdeadline
    split at h
    · cases h
    · rename_i hd
      have hdue : deadline ≤ w.now := Nat.le_of_not_lt hd
      refine advances_followRecheck .deadline rfl (Option.some.inj h) ?_
      cases position with
      | queued => cases hdeadline
      | lookingUp | binding =>
        obtain rfl := Option.some.inj hdeadline
        exact if_pos hdue

end Rechecks

/-! ## Ends -/

/-- A caller or a recheck that is dropped while it waits gives up its turn. -/
theorem dropTurn_advances (hu : w.proxies.get? number = some u)
    (hs : (∃ q position, stage = .rebinding q position) ∨ ∃ position, stage = .rechecking position) :
    w.Advances (w.dropTurn number t) number u.proxy t stage (.ended none) := by
  refine ⟨.drop, u.proxy.leaveLine t, ?_, ?_⟩
  · rcases hs with ⟨q, position, rfl⟩ | ⟨position, rfl⟩ <;> cases position <;> rfl
  · simp only [dropTurn, hu]

/-- The end of a call's command ends the call. -/
theorem finishCall_advances (hu : w.proxies.get? number = some u) (b : Bound)
    (read : Json.Value → Option Json.Value)
    (result : Except (CommandError InvocationError) Json.Value) :
    w.Advances (w.finishCall number b read result).1 number u.proxy t (.calling callSite read b)
      (.ended (some (Proxy.handOver callSite read (u.proxy.concludeCall b result).2))) := by
  refine ⟨.command result, (u.proxy.concludeCall b result).1, rfl, ?_⟩
  simp only [finishCall, hu]

end World

end ServiceBinding.Simulation
