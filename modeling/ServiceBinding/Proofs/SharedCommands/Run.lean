import ServiceBinding.Command.Commands
import ServiceBinding.Proofs.SharedCommand.Invariant

/-!
# The commands of an application, shared by calls

Any number of calls go through the commands of an application, each under a key; at each key there is what
`SharedCommand` describes (`SharedCommands.view`). The command of a key is made when the key is first used,
and put back after each use. An event under a key is one of the command there (`step_view`), and nothing to
any other key (`step_view_of_ne`).
-/

namespace ServiceBinding

/-- Commands and the calls that use them, by key. -/
structure SharedCommands (ε α : Type) where
  commands : Commands
  now : Instant
  stage : String → Ticket → SharedCommand.Stage ε α := fun _ _ => .unstarted
  work : String → Ticket → SharedCommand.Work ε α := fun _ _ => .unstarted

namespace SharedCommands

/-- What happens at once. -/
inductive Event (ε α : Type)
  /-- Time passes. -/
  | pass (d : Span)
  /-- Something happens under a key. -/
  | under (key : String) (e : SharedCommand.Event ε α)

variable {ε α : Type}

def new (cs : Commands) (now : Instant) : SharedCommands ε α := { commands := cs, now }

/-- The command of a key, and the calls under the key. -/
def view (s : SharedCommands ε α) (key : String) : SharedCommand ε α :=
  ⟨s.commands.get key, s.now, s.stage key, s.work key⟩

/-- Puts back what has come of the command of a key. -/
def put (s : SharedCommands ε α) (key : String) (c : SharedCommand ε α) : SharedCommands ε α :=
  { s with
    commands := s.commands.put c.command
    stage := Function.update s.stage key c.stage
    work := Function.update s.work key c.work }

def step [FailureKind ε] (s : SharedCommands ε α) : Event ε α → Option (SharedCommands ε α)
  | .pass d => some { s with now := s.now + d }
  | .under _ (.pass _) => none
  | .under key e => ((s.view key).step e).map (s.put key)

/-! ## Views -/

section

variable {s : SharedCommands ε α} {c : SharedCommand ε α} {key k : String}

theorem put_view (hkey : c.command.key = key) (hnow : c.now = s.now) : (s.put key c).view key = c := by
  simp [view, put, Commands.get, Commands.put, Table.get?_set, hkey, ← hnow]

theorem put_view_of_ne (hkey : c.command.key = key) (h : k ≠ key) :
    (s.put key c).view k = s.view k := by
  simp [view, put, Commands.get, Commands.put, Table.get?_set, hkey, h]

end

/-! ## Keys -/

/-- Under each key is the command that the configuration describes. -/
structure Keyed (s : SharedCommands ε α) (config : CommandConfig) : Prop where
  configured : s.commands.config = config
  isOf : ∀ key, (s.view key).IsOf key (config.settingsFor key)

/-- Before it is used, a key has a new command. -/
theorem new_view (config : CommandConfig) (now : Instant) (key : String) :
    (new { config } now : SharedCommands ε α).view key = .new key (config.settingsFor key) now := rfl

theorem new_keyed (config : CommandConfig) (now : Instant) :
    Keyed (new { config } now : SharedCommands ε α) config :=
  ⟨rfl, fun _ => ⟨rfl, rfl, rfl, rfl⟩⟩

/-! ## Steps -/

variable [FailureKind ε] {s s' : SharedCommands ε α} {key k : String} {config : CommandConfig}

theorem step_under {e : SharedCommand.Event ε α} (h : s.step (.under key e) = some s') :
    (∀ d, e ≠ .pass d) ∧ ∃ c, (s.view key).step e = some c ∧ s' = s.put key c := by
  cases e with
  | pass d => cases h
  | _ =>
    refine ⟨nofun, ?_⟩
    obtain ⟨c, hc, rfl⟩ := Option.map_eq_some_iff.1 h
    exact ⟨c, hc, rfl⟩

theorem step_of_view {e : SharedCommand.Event ε α} {c : SharedCommand ε α} (hpass : ∀ d, e ≠ .pass d)
    (h : (s.view key).step e = some c) : s.step (.under key e) = some (s.put key c) := by
  cases e with
  | pass d => exact absurd rfl (hpass d)
  | _ => exact Option.map_eq_some_iff.2 ⟨c, h, rfl⟩

/-- Only time itself lets time pass. -/
theorem now_of_step {c c' : SharedCommand ε α} {e : SharedCommand.Event ε α} (hpass : ∀ d, e ≠ .pass d)
    (h : c.step e = some c') : c'.now = c.now := by
  cases SharedCommand.step_move h with
  | pass d => exact absurd rfl (hpass d)
  | _ => rfl

/-- What an event is to the calls under a key: for those of other keys nothing happens. -/
def Event.view (key : String) : Event ε α → SharedCommand.Event ε α
  | .pass d => .pass d
  | .under k e => if k = key then e else .pass 0

/-- An event is a step of what is under each key. -/
theorem Keyed.step_view (hs : Keyed s config) {e : Event ε α} (h : s.step e = some s') (key : String) :
    (s.view key).step (e.view key) = some (s'.view key) := by
  cases e with
  | pass d =>
    obtain rfl := Option.some.inj h
    rfl
  | under k e =>
    obtain ⟨hpass, c, hc, rfl⟩ := step_under h
    have hkey : c.command.key = k := ((hs.isOf k).step hc).key
    by_cases hk : k = key
    · subst hk
      rw [put_view hkey (now_of_step hpass hc)]
      simpa [Event.view] using hc
    · rw [put_view_of_ne hkey fun h => hk h.symm]
      simp [Event.view, hk, SharedCommand.step]

theorem Keyed.next (hs : Keyed s config) {e : Event ε α} (h : s.step e = some s') :
    Keyed s' config where
  configured := by
    cases e with
    | pass d =>
      obtain rfl := Option.some.inj h
      exact hs.configured
    | under k e =>
      obtain ⟨-, c, -, rfl⟩ := step_under h
      exact hs.configured
  isOf key := (hs.isOf key).step (hs.step_view h key)

end SharedCommands

end ServiceBinding
