import ServiceBinding.Proofs.SharedProxy.Invariant

/-!
# Why a binding is taken down

Four pieces write the connection of a proxy: attempts of callers and of rechecks, the results of
calls and the answers rechecks get. An attempt that failed is applied only to an unbound proxy, a
caller's because the proxy stays unbound while it has its turn (`Sound.mendable`), a recheck's because
it looks first. The other two compare numbers, which tell the bindings of a run apart
(`Sound.number_inj`).
-/

namespace ServiceBinding

namespace Proxy

/-- A piece that takes a binding down ends a call or a recheck that acts on a binding of its number,
unless a caller is making an attempt. -/
theorem Move.disconnect {p p' : Proxy} {now : Instant} {t : Ticket} {stage stage' : Stage}
    {signal : Signal} {b : Bound} (m : Move p now t stage signal (p', stage'))
    (hb : p.connection = .bound b) (hu : p'.isBound = false) (ha : stage.isCallAttempt = false) :
    (∃ site read c result error, stage = .calling site read c ∧ signal = .command result ∧
        (p.concludeCall c result).2 = .error error ∧ p.TakesDown error ∧ b.number = c.number) ∨
      ∃ observed c deadline cs, stage = .rechecking (.lookingUp observed (.bound c) deadline) ∧
        signal = .registry cs (.ok none) ∧ b.number = c.number := by
  have hbound : p.isBound = true := isBound_iff.mpr ⟨b, hb⟩
  have hchanged : p'.connection ≠ p.connection := by
    intro h
    rw [isBound_iff.mpr ⟨b, h.trans hb⟩] at hu
    cases hu
  cases m with
  | served | linedUp | overtaken | lookedUp | planned | gaveUp | callDropped | recheckRefused
  | recheckLookedUp | recheckEnded | recheckLinedUp | recheckOvertaken | recheckPlanned
  | recheckKept | dropped => exact absurd rfl hchanged
  | concluded hc =>
    rw [hc] at ha
    cases ha
  | recheckConcluded _ hr =>
    rename_i r _
    cases r with
    | ok binding =>
      have hc : ((p.apply now (.ok binding)).1.leaveLine t).isBound = true :=
        isBound_iff.mpr ⟨_, apply_connection p now _⟩
      rw [hc] at hu
      cases hu
    | error failure =>
      rw [hr failure rfl] at hbound
      cases hbound
  | recheckDisconnected =>
    rename_i observed c deadline cs
    rcases p.disconnect_connection c .noLiveProvider "provider no longer registered" with
      h | ⟨d, hd, hn, -⟩
    · exact absurd h hchanged
    · obtain rfl : b = d := Connection.bound.inj (hb.symm.trans hd)
      exact .inr ⟨observed, c, deadline, cs, rfl, rfl, hn⟩
  | replied =>
    rename_i site read c result
    rcases p.observe_connection c (result.mapError fun e => InvocationError.ofCommand p.service e)
      with h | ⟨error, d, _, _, herror, hdown, hd, hn, -⟩
    · exact absurd h hchanged
    · obtain rfl : b = d := Connection.bound.inj (hb.symm.trans hd)
      exact .inl ⟨site, read, c, result, error, rfl, rfl, herror, hdown, hn⟩

end Proxy

namespace SharedProxy

open Proxy

/-- Why the event takes the binding `b` down. -/
inductive DisconnectCause (s : SharedProxy) (e : Event) (b : Bound) : Prop
  /-- A call on `b` returned an error that is a disconnect signal. -/
  | signal {t site read result error} (call : s.stage t = .calling site read b)
      (event : e = .wake t (.command result))
      (returned : (s.proxy.concludeCall b result).2 = .error error)
      (matched : s.proxy.settings.signals.includes error = true)
  /-- A call on `b` did not reach the provider, and that failure made the run of such failures as
  long as the limit. -/
  | unreachable {t site read result error reason limit} (call : s.stage t = .calling site read b)
      (event : e = .wake t (.command result))
      (returned : (s.proxy.concludeCall b result).2 = .error error)
      (reason_eq : error.reason? = some reason) (unreached : reason.isUnreachability = true)
      (limited : s.proxy.settings.invalidateAfter = some limit)
      (reached : limit ≤ s.proxy.failures + 1)
  /-- A recheck that had seen `b` found no provider in the registry. -/
  | withdrawn {t observed deadline cs}
      (recheck : s.stage t = .rechecking (.lookingUp observed (.bound b) deadline))
      (event : e = .wake t (.registry cs (.ok none)))

/-- A binding is taken down for one of the three causes only. So neither a look-up or an attempt
that fails or lasts too long nor the late result of a call on an earlier binding takes it down. -/
theorem disconnect_cause (r : Run) (n : Nat) {b : Bound}
    (hb : (r.state n).proxy.connection = .bound b)
    (hu : (r.state (n + 1)).proxy.isBound = false) :
    DisconnectCause (r.state n) (r.event n) b := by
  have hs := r.sound n
  rcases step_cases (r.steps n) with ⟨d, -, hd⟩ | ⟨t, signal, he, hm, -, -⟩
  · rw [hd, isBound_iff.mpr ⟨b, hb⟩] at hu
    cases hu
  · have hattempt : ((r.state n).stage t).isCallAttempt = false := by
      cases ha : ((r.state n).stage t).isCallAttempt with
      | false => rfl
      | true => simpa [isBound_iff.mpr ⟨b, hb⟩] using (hs.mendable t ha).isBound
    -- the task acts on a binding of the same number, which is the same binding
    have hsame {c : Bound} (hc : ((r.state n).stage t).bound? = some c)
        (hn : b.number = c.number) : c = b :=
      (hs.number_inj b c (.inl hb) (.inr ⟨t, hc⟩) hn).symm
    rw [he]
    rcases hm.disconnect hb hu hattempt with
      ⟨site, read, c, result, error, hstage, rfl, herror, hdown, hn⟩ |
      ⟨observed, c, deadline, cs, hstage, rfl, hn⟩
    · obtain rfl := hsame (by rw [hstage]; rfl) hn
      cases hdown with
      | signal hsig => exact .signal hstage rfl herror hsig
      | unreachable hr hun hl hf => exact .unreachable hstage rfl herror hr hun hl hf
    · obtain rfl := hsame (by rw [hstage]; rfl) hn
      exact .withdrawn hstage rfl

/-- A call whose provider is gone. -/
def Sample.goneRun : Run :=
  .ofEvents finder {}
    (binds 0 (.call "here" some) "one" ++
      [.wake 0 (.command (.error
        (.execution (.unavailable ⟨"finder", .targetGone, "gone", none⟩))))])
    rfl

theorem disconnect_cause_goneRun :
    (Sample.goneRun.state 4).proxy.connection = .bound ⟨0, Sample.binding "one", none⟩ ∧
      (Sample.goneRun.state 5).proxy.isBound = false ∧
      DisconnectCause (Sample.goneRun.state 4) (Sample.goneRun.event 4)
        ⟨0, Sample.binding "one", none⟩ :=
  ⟨rfl, rfl, disconnect_cause Sample.goneRun 4 rfl rfl⟩

end SharedProxy

end ServiceBinding
