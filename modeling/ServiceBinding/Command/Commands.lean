import ServiceBinding.Command.Config
import ServiceBinding.Command.Execution

/-!
# The commands of an application

One command for each key, made from the configuration when the key is first used.
-/

namespace ServiceBinding

/-- The commands in use, by key, and what new ones are made from. -/
structure Commands where
  config : CommandConfig := {}
  table : Table String Command := Table.empty
  deriving Inhabited

namespace Commands

/-- Commands of a configuration that can be run with. -/
def new (config : CommandConfig) : Except ConfigError Commands :=
  match config.validate with
  | .error e => .error e
  | .ok () => .ok { config }

theorem new_eq_ok {config : CommandConfig} {cs : Commands} (h : new config = .ok cs) :
    config.validate = .ok () ∧ cs = { config } := by
  unfold new at h
  split at h
  · cases h
  · rename_i hvalid
    exact ⟨hvalid, (Except.ok.inj h).symm⟩

/-- The command of a key. -/
def get (cs : Commands) (key : String) : Command :=
  (cs.table.get? key).getD (Command.new key (cs.config.settingsFor key))

def put (cs : Commands) (c : Command) : Commands := { cs with table := cs.table.set c.key c }

/-- Makes sure that the command of a key exists. -/
def touch (cs : Commands) (key : String) : Commands := cs.put (cs.get key)

/-- The commands in the order of their keys. -/
def sorted (cs : Commands) : List Command :=
  cs.table.values.mergeSort fun a b => a.key ≤ b.key

end Commands

end ServiceBinding
