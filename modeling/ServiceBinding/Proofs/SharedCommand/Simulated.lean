import ServiceBinding.Proofs.SharedCommand.Run
import ServiceBinding.Simulation.Calls

/-!
# Executions of the simulated world

What the simulated world lets an execution of a command do, and what it does with an operation that
ends, is what an event does to a command that calls share. While the world has that command at a key
(`World.Shows`), each piece of an execution is a step, the world has the command that comes of it, and
the call goes on under its ticket at the stage that comes of it (`World.CommandRun.IsAt`).
-/

namespace ServiceBinding

namespace Command

/-! ## Keys -/

section

variable {ε α : Type}

theorem enter_key (c : Command) (now : Instant) (t : Ticket) :
    (c.enter now t : Command × Except (CommandError ε) Execution).1.key = c.key := by
  unfold Command.enter
  split
  · rfl
  · split <;> rfl

theorem conclude_key [FailureKind ε] (c : Command) (now : Instant) (x : Execution)
    (e : Ending ε α) : (c.conclude now x e).1.key = c.key := by
  cases e <;> rfl

theorem expire_key (c : Command) (now : Instant) (t : Ticket) (x : Execution) :
    (c.expire now t x : Command × CommandError ε).1.key = c.key := by
  cases x <;> rfl

theorem abandon_key (c : Command) (t : Ticket) (x : Execution) : (c.abandon t x).key = c.key := by
  cases x <;> rfl

end

end Command

namespace Simulation.World

/-! ## Executions -/

open Json (Value)
open SharedCommand (Stage Event)

/-- An execution that waits in the world under a ticket, or is over, is at a stage. -/
def CommandRun.IsAt {ε : Type} (key : String) (t : Ticket) (stage : Stage ε Value) :
    Progress CommandRun (Except (CommandError ε) Value) → Prop
  | .wait r => r.key = key ∧ r.ticket = t ∧ stage = .waiting r.execution
  | .done answer => stage = .returned answer

section

variable {ε : Type} {w w' : World} {s s' : SharedCommand ε Value} {key : String} {c : Command}

/-- The world has the command at a key. -/
structure Shows (w : World) (key : String) (s : SharedCommand ε Value) : Prop where
  command : w.command key = s.command
  key : s.command.key = key
  now : w.now = s.now

/-- The world has a command that has been put among its commands. -/
theorem Shows.put (hw : w.Shows key s) (hcommands : w'.commands = w.commands.put c)
    (hnow : w'.now = w.now) (hkey : c.key = s.command.key) (hcommand : s'.command = c)
    (hs : s'.now = s.now) : w'.Shows key s' where
  command := by
    have hc : c.key = key := hkey.trans hw.key
    simp [World.command, hcommands, Commands.get, Commands.put, Table.get?_set, hc, hcommand]
  key := by rw [hcommand, hkey, hw.key]
  now := by rw [hnow, hs, hw.now]

end

variable {ε : Type} [FailureKind ε] {w w' : World} {s : SharedCommand ε Value} {key : String}
  {progress : Progress CommandRun (Except (CommandError ε) Value)}

/-- A call that comes to a command of the world begins under a new ticket. -/
theorem beginCommand_step {operation : Operation} (hw : w.Shows key s)
    (hs : s.stage w.fresh = .unstarted) (h : w.beginCommand key operation = (w', progress)) :
    ∃ s', s.step (.call w.fresh) = some s' ∧ w'.Shows key s' ∧
      CommandRun.IsAt key w.fresh (s'.stage w.fresh) progress := by
  have hkey := Command.enter_key (ε := ε) s.command s.now w.fresh
  rcases hentered : (s.command.enter s.now w.fresh : Command × Except (CommandError ε) Execution)
    with ⟨c, entered⟩
  rw [hentered] at hkey
  have hworld : (w.takeNumber.1.command key).enter w.takeNumber.1.now w.takeNumber.2 =
      (c, entered) := by
    rw [← hentered, ← hw.command, ← hw.now]
    rfl
  simp only [beginCommand, hworld] at h
  simp only [SharedCommand.step, hs, hentered]
  refine ⟨_, rfl, ?_⟩
  cases entered with
  | error e =>
    obtain ⟨rfl, rfl⟩ := Prod.mk.inj h
    exact ⟨hw.put rfl rfl hkey rfl rfl, Function.update_self _ _ _⟩
  | ok x =>
    obtain ⟨rfl, rfl⟩ := Prod.mk.inj h
    exact ⟨hw.put rfl rfl hkey rfl rfl, rfl, rfl, Function.update_self _ _ _⟩

section

variable {takeEnding? : World → Ticket → Option (World × Ending ε Value)} {r : CommandRun}

/-- An execution in line that goes on takes its slot. -/
theorem resumeCommand?_turn {p : Permission} {d : Instant} (hw : w.Shows r.key s)
    (hx : r.execution = .queued p d) (hs : s.stage r.ticket = .waiting r.execution)
    (h : w.resumeCommand? takeEnding? r = some (w', progress)) :
    ∃ s', s.step (.turn r.ticket) = some s' ∧ w'.Shows r.key s' ∧
      CommandRun.IsAt r.key r.ticket (s'.stage r.ticket) progress := by
  rw [hx] at hs
  simp only [resumeCommand?, hx, hw.command] at h
  split at h
  · rename_i hturn
    obtain ⟨rfl, rfl⟩ := Prod.mk.inj (Option.some.inj h)
    simp only [SharedCommand.step, hs, hturn, if_true]
    exact ⟨_, rfl, hw.put rfl rfl rfl rfl rfl, rfl, rfl, Function.update_self _ _ _⟩
  · cases h

/-- An execution whose operation has ended takes its end. -/
theorem resumeCommand?_collect {p : Permission} {d : Instant} {w₀ : World} {ending : Ending ε Value}
    (hw : w.Shows r.key s) (hx : r.execution = .running p d)
    (hs : s.stage r.ticket = .waiting r.execution)
    (htakes : takeEnding? w r.ticket = some (w₀, ending))
    (hcommands : w₀.commands = w.commands) (hnow : w₀.now = w.now)
    (hends : s.work r.ticket = .ended ending)
    (h : w.resumeCommand? takeEnding? r = some (w', progress)) :
    ∃ s', s.step (.collect r.ticket) = some s' ∧ w'.Shows r.key s' ∧
      CommandRun.IsAt r.key r.ticket (s'.stage r.ticket) progress := by
  have hworld : (w₀.command r.key).conclude w₀.now r.execution ending =
      s.command.conclude s.now r.execution ending := by
    rw [← hw.command, ← hw.now, hnow, World.command, hcommands, World.command]
  have hkey := Command.conclude_key s.command s.now r.execution ending
  rw [hx] at hs hworld hkey
  simp only [resumeCommand?, hx, htakes, Option.map_some, hworld] at h
  obtain ⟨rfl, rfl⟩ := Prod.mk.inj (Option.some.inj h)
  simp only [SharedCommand.step, hs, hends]
  refine ⟨_, rfl, hw.put ?_ hnow hkey rfl rfl, Function.update_self _ _ _⟩
  rw [setCommand, hcommands]

/-- An execution that cannot go on when its deadline has come ends. -/
theorem expireCommand?_step {answer : Except (CommandError ε) Value} (hw : w.Shows r.key s)
    (hs : s.stage r.ticket = .waiting r.execution) (hready : s.isReady r.ticket r.execution = false)
    (h : w.expireCommand? r = some (w', answer)) :
    ∃ s', s.step (.deadline r.ticket) = some s' ∧ w'.Shows r.key s' ∧
      s'.stage r.ticket = .returned answer := by
  have hkey := Command.expire_key (ε := ε) s.command s.now r.ticket r.execution
  simp only [expireCommand?, hw.command, hw.now] at h
  split at h
  · cases h
  · rename_i hdue
    obtain ⟨rfl, rfl⟩ := Prod.mk.inj (Option.some.inj h)
    have hover : r.execution.deadline ≤ s.now := Nat.le_of_not_lt hdue
    simp only [SharedCommand.step, hs, hover, hready, and_self, if_true]
    exact ⟨_, rfl, hw.put rfl rfl hkey rfl rfl, Function.update_self _ _ _⟩

/-- An execution that is dropped leaves what it waits for. -/
theorem dropCommand_step (hw : w.Shows r.key s) (hs : s.stage r.ticket = .waiting r.execution) :
    ∃ s', s.step (.drop r.ticket) = some s' ∧ (w.dropCommand r).Shows r.key s' ∧
      s'.stage r.ticket = .dropped := by
  have hkey := Command.abandon_key s.command r.ticket r.execution
  simp only [SharedCommand.step, hs]
  refine ⟨_, rfl, hw.put ?_ rfl hkey rfl rfl, Function.update_self _ _ _⟩
  rw [dropCommand, hw.command]
  rfl

end

/-! ## Operations -/

/-- The world has the command when it has released the slot of an operation. -/
theorem Shows.finish {t : Ticket} (hw : w.Shows key s) (hs : s.work t = .running)
    (hcommands : w'.commands = w.commands.put ((w.command key).release t)) (hnow : w'.now = w.now)
    (ending : Ending ε Value) :
    ∃ s', s.step (.finish t ending) = some s' ∧ w'.Shows key s' := by
  rw [hw.command] at hcommands
  simp only [SharedCommand.step, hs]
  exact ⟨_, rfl, hw.put hcommands hnow rfl rfl rfl⟩

section

variable {r : RunningOperation} {due : Instant}

/-- A scripted operation that ends gives its slot back. -/
theorem resumeOperation?_work {s : SharedCommand WorkError Value} {fate : Fate WorkError Value}
    (hw : w.Shows r.command s) (hs : s.work r.ticket = .running)
    (ho : r.operation = .work due fate) (h : w.resumeOperation? r = some w') :
    ∃ s', s.step (.finish r.ticket (endingOf r.ticket fate)) = some s' ∧ w'.Shows r.command s' := by
  simp only [resumeOperation?, ho] at h
  split at h
  · cases h
  · obtain rfl := Option.some.inj h
    refine hw.finish hs ?_ ?_ _
    · rfl
    · rfl

/-- A call of a provider that ends gives its slot back. -/
theorem resumeOperation?_call {s : SharedCommand InvocationError Value}
    {fate : Fate InvocationError Value} (hw : w.Shows r.command s) (hs : s.work r.ticket = .running)
    (ho : r.operation = .call due fate) (h : w.resumeOperation? r = some w') :
    ∃ s', s.step (.finish r.ticket (endingOf r.ticket fate)) = some s' ∧ w'.Shows r.command s' := by
  simp only [resumeOperation?, ho] at h
  split at h
  · cases h
  · obtain rfl := Option.some.inj h
    refine hw.finish hs ?_ ?_ _
    · rfl
    · rfl

end

end Simulation.World

end ServiceBinding
