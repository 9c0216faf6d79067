import ServiceBinding.Proofs.SharedCommands.Run
import ServiceBinding.Proofs.SharedProxy.Throttle

/-!
# Calls of a shared proxy under commands

The calls of a shared proxy are executed under the commands of an application, which others use as well.
As soon as a caller has its binding, its call comes to the command of its method, under the caller's own
ticket. When the command has answered, the proxy takes the answer in, at once; and a call that is dropped is
dropped with the execution that it waits for. In between anything may happen to the proxy and to the
commands.

Under each key the commands go through a run of a shared command (`Run.view`).
-/

namespace ServiceBinding

namespace Proxy

/-- A caller waits for the command of its call. -/
def Stage.isCalling : Stage → Bool
  | .calling .. => true
  | _ => false

end Proxy

/-! ## The system -/

/-- A proxy, the commands that its calls are executed under, and what each caller calls. -/
structure GuardedProxy where
  shared : SharedProxy
  commands : SharedCommands InvocationError Json.Value
  calls : Ticket → Invocation

namespace GuardedProxy

/-- What happens at once. -/
inductive Event
  | pass (d : Span)
  /-- A caller or a recheck goes on, but for callers that wait for a command. -/
  | wake (t : Ticket) (signal : Proxy.Signal)
  /-- Something happens under a key of the commands. -/
  | under (key : String) (e : SharedCommand.Event InvocationError Json.Value)

/-- The key of the command that a call is executed under. -/
def keyOf (s : GuardedProxy) (t : Ticket) : String :=
  s.shared.proxy.descriptor.commandKey (s.calls t).method

/-- Takes what has come of the command of a call to its caller. -/
def settle (s : GuardedProxy) (t : Ticket) : GuardedProxy :=
  match s.shared.stage t, s.commands.stage (s.keyOf t) t with
  | .calling .., .returned answer =>
    { s with shared := (s.shared.step (.wake t (.command answer))).getD s.shared }
  | .calling .., .dropped => { s with shared := (s.shared.step (.wake t .drop)).getD s.shared }
  | _, _ => s

/-- Something happens under a key; the caller that it happens to sees what has come of it. -/
def use (s : GuardedProxy) (key : String) (e : SharedCommand.Event InvocationError Json.Value) :
    Option GuardedProxy :=
  (s.commands.step (.under key e)).map fun commands =>
    match e.caller? with
    | some t => if s.keyOf t = key then ({ s with commands } : GuardedProxy).settle t else { s with commands }
    | none => { s with commands }

def step (s : GuardedProxy) : Event → Option GuardedProxy
  | .pass d => do
    let shared ← s.shared.step (.pass d)
    let commands ← s.commands.step (.pass d)
    return { s with shared, commands }
  | .wake t signal =>
    if (s.shared.stage t).isCalling then none
    else do
      let shared ← s.shared.step (.wake t signal)
      let s := { s with shared }
      if (shared.stage t).isCalling then s.use (s.keyOf t) (.call t) else some s
  | .under key e => s.use key e

/-! ## Steps -/

variable {s s' : GuardedProxy} {t u : Ticket} {key : String} {config : CommandConfig}

@[simp] theorem settle_commands (s : GuardedProxy) (t : Ticket) :
    (s.settle t).commands = s.commands := by
  unfold settle
  split <;> rfl

/-- Settling changes the stage of the caller alone, and never what the proxy is for. -/
theorem settle_frame (s : GuardedProxy) (t : Ticket) :
    (s.settle t).shared.proxy.descriptor = s.shared.proxy.descriptor ∧
      (s.settle t).calls = s.calls ∧
      ∀ u, u ≠ t → (s.settle t).shared.stage u = s.shared.stage u := by
  have hwake (signal : Proxy.Signal) :
      ((s.shared.step (.wake t signal)).getD s.shared).proxy.descriptor = s.shared.proxy.descriptor ∧
        ∀ u, u ≠ t → ((s.shared.step (.wake t signal)).getD s.shared).stage u = s.shared.stage u := by
    cases h : s.shared.step (.wake t signal) with
    | none => exact ⟨rfl, fun _ _ => rfl⟩
    | some shared =>
      exact ⟨SharedProxy.descriptor_of_step h, fun u hu => SharedProxy.stage_of_wake h hu⟩
  unfold settle
  split
  · exact ⟨(hwake _).1, rfl, (hwake _).2⟩
  · exact ⟨(hwake _).1, rfl, (hwake _).2⟩
  · exact ⟨rfl, rfl, fun _ _ => rfl⟩

theorem use_cases {e : SharedCommand.Event InvocationError Json.Value} (h : s.use key e = some s') :
    ∃ commands, s.commands.step (.under key e) = some commands ∧
      ((∃ t, e.caller? = some t ∧ s.keyOf t = key ∧ s' = ({ s with commands } : GuardedProxy).settle t) ∨
        (∀ t, e.caller? = some t → s.keyOf t ≠ key) ∧ s' = { s with commands }) := by
  obtain ⟨commands, hstep, rfl⟩ := Option.map_eq_some_iff.1 h
  refine ⟨commands, hstep, ?_⟩
  cases hcaller : e.caller? with
  | none => exact .inr ⟨nofun, rfl⟩
  | some t =>
    by_cases hkey : s.keyOf t = key
    · exact .inl ⟨t, rfl, hkey, by simp [hkey]⟩
    · refine .inr ⟨fun u hu => ?_, by simp [hkey]⟩
      obtain rfl := Option.some.inj hu
      exact hkey

/-- What a signal to a task makes of the proxy, and whether a call comes to a command then. -/
theorem wake_cases {signal : Proxy.Signal} (h : s.step (.wake t signal) = some s') :
    (s.shared.stage t).isCalling = false ∧
      ∃ shared, s.shared.step (.wake t signal) = some shared ∧
        ((shared.stage t).isCalling = true ∧ ({ s with shared } : GuardedProxy).use
            (({ s with shared } : GuardedProxy).keyOf t) (.call t) = some s' ∨
          (shared.stage t).isCalling = false ∧ s' = { s with shared }) := by
  simp only [step] at h
  split at h
  · cases h
  · rename_i hcalling
    obtain ⟨shared, hshared, h⟩ := Option.bind_eq_some_iff.1 h
    refine ⟨by simpa using hcalling, shared, hshared, ?_⟩
    split at h
    · rename_i hbegins
      exact .inl ⟨hbegins, h⟩
    · rename_i hbegins
      exact .inr ⟨by simpa using hbegins, (Option.some.inj h).symm⟩

/-! ## What never changes -/

/-- What the proxy is for, and what its callers call. -/
structure Fixed (s s' : GuardedProxy) : Prop where
  descriptor : s'.shared.proxy.descriptor = s.shared.proxy.descriptor
  calls : s'.calls = s.calls

theorem Fixed.keyOf (h : Fixed s s') (t : Ticket) : s'.keyOf t = s.keyOf t := by
  rw [GuardedProxy.keyOf, GuardedProxy.keyOf, h.descriptor, h.calls]

theorem fixed_of_use {e : SharedCommand.Event InvocationError Json.Value} (h : s.use key e = some s') :
    Fixed s s' := by
  obtain ⟨commands, -, ⟨t, -, -, rfl⟩ | ⟨-, rfl⟩⟩ := use_cases h
  · obtain ⟨hdescriptor, hcalls, -⟩ := settle_frame { s with commands } t
    exact ⟨hdescriptor, hcalls⟩
  · exact ⟨rfl, rfl⟩

theorem fixed_of_step {e : Event} (h : s.step e = some s') : Fixed s s' := by
  cases e with
  | pass d =>
    obtain rfl := Option.some.inj h
    exact ⟨rfl, rfl⟩
  | wake t signal =>
    obtain ⟨-, shared, hshared, ⟨-, huse⟩ | ⟨-, rfl⟩⟩ := wake_cases h
    · have hdescriptor := SharedProxy.descriptor_of_step hshared
      obtain ⟨hdescriptor', hcalls⟩ := fixed_of_use huse
      exact ⟨hdescriptor'.trans hdescriptor, hcalls⟩
    · exact ⟨SharedProxy.descriptor_of_step hshared, rfl⟩
  | under key e => exact fixed_of_use h

/-! ## The commands among the rest -/

theorem commands_of_use {e : SharedCommand.Event InvocationError Json.Value}
    (h : s.use key e = some s') : s.commands.step (.under key e) = some s'.commands := by
  obtain ⟨commands, hstep, ⟨t, -, -, rfl⟩ | ⟨-, rfl⟩⟩ := use_cases h
  · rw [hstep, settle_commands]
  · exact hstep

/-- Whether a signal to a task has its call come to a command. -/
def begins (s : GuardedProxy) (t : Ticket) (signal : Proxy.Signal) : Bool :=
  match s.shared.step (.wake t signal) with
  | some shared => (shared.stage t).isCalling
  | none => false

/-- What an event is to the calls under a key. -/
def commandEvent (s : GuardedProxy) (key : String) :
    Event → SharedCommand.Event InvocationError Json.Value
  | .pass d => .pass d
  | .wake t signal => if s.begins t signal = true ∧ s.keyOf t = key then .call t else .pass 0
  | .under k e => if k = key then e else .pass 0

theorem commandEvent_step (hs : s.commands.Keyed config) {e : Event} (h : s.step e = some s')
    (key : String) :
    (s.commands.view key).step (s.commandEvent key e) = some (s'.commands.view key) ∧
      s'.commands.Keyed config := by
  cases e with
  | pass d =>
    obtain rfl := Option.some.inj h
    have hstep : s.commands.step (.pass d) = some { s.commands with now := s.commands.now + d } := rfl
    exact ⟨hs.step_view hstep key, hs.next hstep⟩
  | wake t signal =>
    obtain ⟨-, shared, hshared, ⟨hbegins, huse⟩ | ⟨hbegins, rfl⟩⟩ := wake_cases h
    · have hstep := commands_of_use huse
      have hkey : ({ s with shared } : GuardedProxy).keyOf t = s.keyOf t := by
        simp only [keyOf, SharedProxy.descriptor_of_step hshared]
      rw [hkey] at hstep
      refine ⟨?_, hs.next hstep⟩
      have hview := hs.step_view hstep key
      simpa [commandEvent, begins, hshared, hbegins, SharedCommands.Event.view] using hview
    · refine ⟨?_, hs⟩
      simp [commandEvent, begins, hshared, hbegins, SharedCommand.step]
  | under k e =>
    have hstep := commands_of_use h
    exact ⟨hs.step_view hstep key, hs.next hstep⟩

/-! ## Runs -/

/-- A run of a new proxy and of new commands of a configuration that can be run with. -/
structure Run where
  config : CommandConfig
  begins : Instant
  state : Nat → GuardedProxy
  event : Nat → Event
  valid : ∃ cs, Commands.new config = .ok cs
  starts : ∃ descriptor settings calls, state 0 =
    ⟨.new descriptor settings begins, .new { config } begins, calls⟩
  steps : ∀ n, (state n).step (event n) = some (state (n + 1))

/-- The run of a new proxy and of new commands in which the events happen. -/
def Run.ofEvents (descriptor : ApiDescriptor) (settings : ProxySettings) (config : CommandConfig)
    (hconfig : config.validate = .ok ()) (calls : Ticket → Invocation) (es : List Event)
    (h : Trace.admits step ⟨.new descriptor settings 0, .new { config } 0, calls⟩ es = true) : Run where
  config := config
  begins := 0
  state n := Trace.after step ⟨.new descriptor settings 0, .new { config } 0, calls⟩ (es.take n)
  event n := es.getD n (.pass 0)
  valid := ⟨{ config }, by rw [Commands.new, hconfig]⟩
  starts := ⟨descriptor, settings, calls, rfl⟩
  steps := Trace.step_after_take (fun _ => rfl) h

namespace Run

variable (r : Run) (n : Nat)

theorem keyed : (r.state n).commands.Keyed r.config := by
  induction n with
  | zero =>
    obtain ⟨descriptor, settings, calls, h⟩ := r.starts
    rw [h]
    exact SharedCommands.new_keyed r.config r.begins
  | succ n ih => exact (commandEvent_step ih (r.steps n) "").2

theorem fixed {m n : Nat} (hm : m ≤ n) : Fixed (r.state m) (r.state n) := by
  induction n, hm using Nat.le_induction with
  | base => exact ⟨rfl, rfl⟩
  | succ n hm ih =>
    obtain ⟨hdescriptor, hcalls⟩ := fixed_of_step (r.steps n)
    exact ⟨hdescriptor.trans ih.descriptor, hcalls.trans ih.calls⟩

/-- What happens under a key is a run of the command of that key. -/
def view (key : String) : SharedCommand.Run InvocationError Json.Value where
  key := key
  settings := r.config.settingsFor key
  begins := r.begins
  state n := (r.state n).commands.view key
  event n := (r.state n).commandEvent key (r.event n)
  starts := by
    obtain ⟨descriptor, settings, calls, h⟩ := r.starts
    rw [h]
    exact SharedCommands.new_view r.config r.begins key
  steps n := (commandEvent_step (r.keyed n) (r.steps n) key).1

end Run

end GuardedProxy

end ServiceBinding
