import ServiceBinding.Proofs.GuardedProxy.Run

/-!
# Callers and their calls

A caller whose call has come to a command follows what becomes of it there (`Follows`): it waits as long as
its call does, and takes in what that returns. No step of the system parts the two (`Follows.of_step`).
-/

namespace ServiceBinding

namespace GuardedProxy

open Proxy (handOver)
open SharedCommand (Stage)

/-- What a caller gets of the answer to its call. -/
def returned (service : String) (site : CallSite) (read : Json.Value → Option Json.Value)
    (answer : Except (CommandError InvocationError) Json.Value) :
    Except InvocationError Json.Value :=
  handOver site read (answer.mapError (InvocationError.ofCommand service))

/-- How far a caller has come is told by its call. -/
inductive Follows (service : String) (site : CallSite) (read : Json.Value → Option Json.Value) :
    Proxy.Stage → Stage InvocationError Json.Value → Prop
  | waits {b x} : Follows service site read (.calling site read b) (.waiting x)
  | answered {answer} :
      Follows service site read (.ended (some (returned service site read answer))) (.returned answer)
  | dropped : Follows service site read (.ended none) .dropped

variable {s s' : GuardedProxy} {t : Ticket} {site : CallSite}
  {read : Json.Value → Option Json.Value} {key : String} {config : CommandConfig}

/-- The service of the proxy, as it is shown. -/
def service (s : GuardedProxy) : String := s.shared.proxy.descriptor.key.text

/-- A caller that waits for its call sees what has become of it. -/
theorem follows_of_settle {b : Bound} (hcalling : s.shared.stage t = .calling site read b)
    (hbegun : s.commands.stage (s.keyOf t) t ≠ .unstarted) :
    Follows s.service site read ((s.settle t).shared.stage t) (s.commands.stage (s.keyOf t) t) := by
  cases hstage : s.commands.stage (s.keyOf t) t with
  | unstarted => exact absurd hstage hbegun
  | waiting x =>
    have hsame : s.settle t = s := by simp [settle, hcalling, hstage]
    rw [hsame, hcalling]
    exact .waits
  | returned answer =>
    have hended : (s.settle t).shared.stage t =
        .ended (some (returned s.service site read answer)) := by
      simp [settle, hcalling, hstage, SharedProxy.step, Proxy.advance, Proxy.concludeCall, returned,
        service, Proxy.service, Proxy.key]
    rw [hended]
    exact .answered
  | dropped =>
    have hended : (s.settle t).shared.stage t = .ended none := by
      simp [settle, hcalling, hstage, SharedProxy.step, Proxy.advance]
    rw [hended]
    exact .dropped

/-- What happens under a key parts no caller from its call. -/
theorem Follows.of_use {e : SharedCommand.Event InvocationError Json.Value}
    (hs : s.commands.Keyed config)
    (h : Follows s.service site read (s.shared.stage t) (s.commands.stage (s.keyOf t) t))
    (huse : s.use key e = some s') :
    Follows s.service site read (s'.shared.stage t) (s'.commands.stage (s.keyOf t) t) := by
  obtain ⟨commands, hstep, hcases⟩ := use_cases huse
  have hmove := SharedCommand.step_move (hs.step_view hstep (s.keyOf t))
  by_cases hown : e.caller? = some t ∧ s.keyOf t = key
  · -- something happens to the call of the caller itself
    obtain ⟨hcaller, rfl⟩ := hown
    have hview : (SharedCommands.Event.view (s.keyOf t) (.under (s.keyOf t) e)).caller? = some t := by
      simpa [SharedCommands.Event.view] using hcaller
    obtain ⟨u, hu, -, rfl⟩ | ⟨hother, -⟩ := hcases
    · obtain rfl := Option.some.inj (hcaller.symm.trans hu)
      rw [settle_commands]
      generalize hbefore : s.shared.stage t = before at h
      generalize hcommand : s.commands.stage (s.keyOf t) t = stage at h
      cases h with
      | waits => exact follows_of_settle (s := { s with commands }) hbefore (hmove.begun hview)
      | answered | dropped =>
        -- a call that is over does not go on
        have hnot := hmove.not_over hview
        rw [show (s.commands.view (s.keyOf t)).stage t = _ from hcommand] at hnot
        cases hnot
    · exact absurd rfl (hother t hcaller)
  · -- something happens to others, and changes neither the call nor its caller
    have hview : (SharedCommands.Event.view (s.keyOf t) (.under key e)).caller? ≠ some t := by
      by_cases hkey : key = s.keyOf t
      · simpa [SharedCommands.Event.view, hkey] using fun hcaller => hown ⟨hcaller, hkey.symm⟩
      · simp [SharedCommands.Event.view, hkey, SharedCommand.Event.caller?]
    have hcommand : commands.stage (s.keyOf t) t = s.commands.stage (s.keyOf t) t :=
      hmove.stage_of_others hview
    obtain ⟨u, hu, hkey, rfl⟩ | ⟨-, rfl⟩ := hcases
    · have hne : t ≠ u := by
        rintro rfl
        exact hown ⟨hu, hkey⟩
      rw [settle_commands, (settle_frame { s with commands } u).2.2 t hne, hcommand]
      exact h
    · rw [hcommand]
      exact h

theorem Fixed.service (h : Fixed s s') : s'.service = s.service := by
  rw [GuardedProxy.service, GuardedProxy.service, h.descriptor]

/-- No step parts a caller from its call. -/
theorem Follows.of_step {e : Event} (hs : s.commands.Keyed config)
    (h : Follows s.service site read (s.shared.stage t) (s.commands.stage (s.keyOf t) t))
    (hstep : s.step e = some s') :
    Follows s'.service site read (s'.shared.stage t) (s'.commands.stage (s'.keyOf t) t) := by
  have hfixed := fixed_of_step hstep
  rw [hfixed.service, hfixed.keyOf]
  cases e with
  | pass d =>
    obtain rfl := Option.some.inj hstep
    exact h
  | under key e => exact h.of_use hs hstep
  | wake u signal =>
    obtain ⟨hcalling, shared, hshared, hcases⟩ := wake_cases hstep
    have hne : t ≠ u := by
      -- a caller that waits for a command is not woken, nor is one that is over
      rintro rfl
      generalize hbefore : s.shared.stage t = before at h
      generalize s.commands.stage (s.keyOf t) t = stage at h
      cases h with
      | waits =>
        rw [hbefore] at hcalling
        cases hcalling
      | answered | dropped => exact SharedProxy.not_ended_of_wake hshared _ hbefore
    have hstage : shared.stage t = s.shared.stage t := SharedProxy.stage_of_wake hshared hne
    have hfixed' : Fixed s { s with shared } := ⟨SharedProxy.descriptor_of_step hshared, rfl⟩
    have h' : Follows ({ s with shared } : GuardedProxy).service site read (shared.stage t)
        (s.commands.stage (({ s with shared } : GuardedProxy).keyOf t) t) := by
      rw [hfixed'.service, hfixed'.keyOf, hstage]
      exact h
    obtain ⟨-, huse⟩ | ⟨-, rfl⟩ := hcases
    · have hafter := h'.of_use (s := { s with shared }) hs huse
      rwa [hfixed'.service, hfixed'.keyOf] at hafter
    · rw [hstage]
      exact h

/-- A caller follows its call from when that comes to its command. -/
theorem follows_of_begin {signal : Proxy.Signal} {b : Bound} {shared : SharedProxy}
    (hs : s.commands.Keyed config) (hshared : s.shared.step (.wake t signal) = some shared)
    (hcalling : shared.stage t = .calling site read b) (hstep : s.step (.wake t signal) = some s') :
    Follows s'.service site read (s'.shared.stage t) (s'.commands.stage (s'.keyOf t) t) := by
  have hfixed := fixed_of_step hstep
  have hfixed' : Fixed s { s with shared } := ⟨SharedProxy.descriptor_of_step hshared, rfl⟩
  rw [hfixed.service, hfixed.keyOf, ← hfixed'.service, ← hfixed'.keyOf]
  obtain ⟨-, shared', hshared', ⟨-, huse⟩ | ⟨hnot, -⟩⟩ := wake_cases hstep
  all_goals obtain rfl := Option.some.inj (hshared.symm.trans hshared')
  · obtain ⟨commands, hcommands, ⟨u, hu, -, rfl⟩ | ⟨hother, -⟩⟩ := use_cases huse
    · obtain rfl : t = u := Option.some.inj hu
      have hmove := SharedCommand.step_move
        (hs.step_view hcommands (({ s with shared } : GuardedProxy).keyOf t))
      rw [settle_commands]
      refine follows_of_settle (s := { s with shared, commands }) hcalling (hmove.begun ?_)
      simp [SharedCommands.Event.view, SharedCommand.Event.caller?]
    · exact absurd rfl (hother t rfl)
  · rw [hcalling] at hnot
    cases hnot

end GuardedProxy

end ServiceBinding
