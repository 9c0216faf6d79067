import Mathlib.Data.Fintype.EquivFin
import ServiceBinding.Breaker.Operation
import ServiceBinding.Proofs.SharedCommands.Isolated

/-!
# A valid configuration is valid for every key

A configuration is checked at its defaults and at the commands that it names, and a command is made with
the settings of its key, whatever the key. Both layer the same overrides, and there is always a key that
the configuration does not name, whose settings are the defaults: so the check passes if and only if the
settings of every key pass it (`validate_eq_ok_iff`). `runnable_commands` says what this means for the
commands that are handed out.
-/

namespace ServiceBinding

/-! ## Settings -/

namespace CommandSettings

/-- Limits that a command can run with. -/
structure Runnable (s : CommandSettings) : Prop where
  coreSize : 1 ≤ s.coreSize
  timeout : 0 < s.timeout
  rollingWindow : 0 < s.rollingWindow
  windowBuckets : 1 ≤ s.windowBuckets
  errorThreshold : s.errorThreshold ≤ 100

theorem validate_eq_ok_iff {s : CommandSettings} : s.validate = .ok () ↔ s.Runnable := by
  unfold validate
  split
  · rename_i hcore
    exact ⟨nofun, fun h => absurd hcore (Nat.ne_of_gt h.coreSize)⟩
  · rename_i hcore
    split
    · rename_i htimeout
      exact ⟨nofun, fun h => absurd htimeout (Nat.ne_of_gt h.timeout)⟩
    · rename_i htimeout
      split
      · rename_i hwindow
        refine ⟨nofun, fun h => ?_⟩
        rcases hwindow with hbuckets | hlength
        · exact absurd hbuckets (Nat.ne_of_gt h.windowBuckets)
        · exact absurd hlength (Nat.ne_of_gt h.rollingWindow)
      · rename_i hwindow
        obtain ⟨hbuckets, hlength⟩ := not_or.1 hwindow
        split
        · rename_i herror
          exact ⟨nofun, fun h => absurd herror (Nat.not_lt.2 h.errorThreshold)⟩
        · rename_i herror
          refine ⟨fun _ => ?_, fun _ => rfl⟩
          exact ⟨Nat.pos_of_ne_zero hcore, Nat.pos_of_ne_zero htimeout, Nat.pos_of_ne_zero hlength,
            Nat.pos_of_ne_zero hbuckets, Nat.not_lt.1 herror⟩

end CommandSettings

/-! ## Configurations -/

/-- A finite table leaves out some key. -/
theorem Table.exists_get?_eq_none {κ α : Type} [DecidableEq κ] [Infinite κ] (t : Table κ α) :
    ∃ key, t.get? key = none := by
  obtain ⟨key, hkey⟩ := Infinite.exists_notMem_finset t.keys.toFinset
  refine ⟨key, ?_⟩
  rw [List.mem_toFinset, Table.mem_keys] at hkey
  exact Option.not_isSome_iff_eq_none.1 hkey

namespace CommandConfig

variable {config : CommandConfig} {key : String}

theorem settingsFor_of_configured {o : SettingsOverride} (h : config.commands.get? key = some o) :
    config.settingsFor key = o.applyTo (config.defaults.applyTo {}) := by
  simp [settingsFor, h]

theorem settingsFor_of_not_configured (h : config.commands.get? key = none) :
    config.settingsFor key = config.defaults.applyTo {} := by
  simp [settingsFor, h]

theorem go_eq_ok_iff (defaults : CommandSettings) (entries : List (String × SettingsOverride)) :
    validate.go defaults entries = .ok () ↔
      ∀ kv ∈ entries, (kv.2.applyTo defaults).validate = .ok () := by
  induction entries with
  | nil => simp [validate.go]
  | cons kv rest ih =>
    obtain ⟨key, o⟩ := kv
    rw [validate.go, List.forall_mem_cons]
    cases hvalid : (o.applyTo defaults).validate with
    | error e => simp
    | ok _ => simpa using ih

theorem validate_eq_ok_iff_entries (config : CommandConfig) :
    config.validate = .ok () ↔ (config.defaults.applyTo {}).validate = .ok () ∧
      ∀ kv ∈ config.commands.entries, (kv.2.applyTo (config.defaults.applyTo {})).validate = .ok () := by
  rw [← go_eq_ok_iff, validate]
  cases (config.defaults.applyTo {}).validate <;> simp

/-- The check passes if and only if the settings of every key do. -/
theorem validate_eq_ok_iff (config : CommandConfig) :
    config.validate = .ok () ↔ ∀ key, (config.settingsFor key).validate = .ok () := by
  rw [validate_eq_ok_iff_entries]
  constructor
  · intro ⟨hdefaults, hcommands⟩ key
    cases hkey : config.commands.get? key with
    | none => rw [settingsFor_of_not_configured hkey, hdefaults]
    | some o =>
      rw [settingsFor_of_configured hkey]
      exact hcommands (key, o) (Table.mem_entries.2 hkey)
  · intro h
    constructor
    · -- the defaults are the settings of a key that is not configured
      obtain ⟨key, hkey⟩ := config.commands.exists_get?_eq_none
      rw [← settingsFor_of_not_configured hkey]
      exact h key
    · intro ⟨key, o⟩ hmem
      show (o.applyTo (config.defaults.applyTo {})).validate = .ok ()
      rw [← settingsFor_of_configured (Table.mem_entries.1 hmem)]
      exact h key

end CommandConfig

/-! ## Making a command -/

/-- A bulkhead as it is made, or why there is none: its places are counted in 32 bits. -/
def Bulkhead.create (name : String) (coreSize queueSize : Nat) : Except String Bulkhead :=
  if coreSize + queueSize < Width.bound32 then .ok (new name coreSize queueSize)
  else .error "attempt to add with overflow"

namespace Command

/-- A command as it is made, or why there is none. -/
def create (key : String) (s : CommandSettings) : Except String Command :=
  match Bulkhead.create key s.coreSize s.queueSize with
  | .error e => .error e
  | .ok bulkhead =>
    match Breaker.create (BreakerSettings.ofCommand key s) with
    | .error e => .error e
    | .ok breaker => .ok { key, settings := s, bulkhead, breaker }

/-- A window is always divided into buckets, so that only the places can overflow. -/
theorem create_eq_ok_iff {key : String} {s : CommandSettings} :
    create key s = .ok (new key s) ↔ s.coreSize + s.queueSize < Width.bound32 := by
  have hbreaker : Breaker.create (BreakerSettings.ofCommand key s) =
      .ok (Breaker.new (BreakerSettings.ofCommand key s)) := by
    have hbuckets : (BreakerSettings.ofCommand key s).buckets ≠ 0 := by
      show max s.windowBuckets 1 ≠ 0
      omega
    rw [Breaker.create, if_neg hbuckets]
  by_cases hplaces : s.coreSize + s.queueSize < Width.bound32
  · simp [create, Bulkhead.create, hbreaker, hplaces, new]
  · simp [create, Bulkhead.create, hplaces]

end Command

/-! ## The commands of a valid configuration -/

namespace SharedCommands

/-- **A valid configuration is valid for every key.** The check of a configuration passes if and only if
the settings of every key pass it, configured or not. So whatever has happened under the commands of a
configuration that was accepted, and whatever the key, its command has limits it can run with; it is made
when the key is first used, and nothing overflows then as long as its places can be counted. -/
theorem runnable_commands {ε α : Type} [FailureKind ε] (config : CommandConfig) :
    (config.validate = .ok () ↔ ∀ key, (config.settingsFor key).validate = .ok ()) ∧
    ∀ cs, Commands.new config = .ok cs → ∀ (now : Instant) (es : List (Event ε α)),
      Trace.admits step (new cs now) es = true → ∀ key,
        ((Trace.after step (new cs now) es).commands.get key).settings = config.settingsFor key ∧
        (config.settingsFor key).Runnable ∧
        ((Trace.after step (new cs now) es).commands.table.contains key = false →
          (Trace.after step (new cs now) es).commands.get key =
            .new key (config.settingsFor key)) ∧
        ((config.settingsFor key).coreSize + (config.settingsFor key).queueSize < Width.bound32 →
          Command.create key (config.settingsFor key) = .ok (.new key (config.settingsFor key))) := by
  refine ⟨config.validate_eq_ok_iff, ?_⟩
  intro cs hcs now es hes key
  obtain ⟨hvalid, rfl⟩ := Commands.new_eq_ok hcs
  have hkeyed : Keyed (Trace.after step (new { config } now) es) config :=
    (new_keyed config now).after hes
  refine ⟨(hkeyed.isOf key).settings, ?_, ?_, Command.create_eq_ok_iff.2⟩
  · exact CommandSettings.validate_eq_ok_iff.1 (config.validate_eq_ok_iff.1 hvalid key)
  · intro hunused
    have habsent : (Trace.after step (new { config } now) es).commands.table.get? key = none := by
      simpa [Table.contains] using hunused
    rw [Commands.get, habsent, hkeyed.configured]
    rfl

namespace Sample

/-- Small pools for all commands, and a window of a single bucket for one. -/
def pools : CommandConfig :=
  { defaults := { coreSize := some 2, queueSize := some 0 }
    commands := Table.ofList [("lunch", { windowBuckets := some 1 })] }

/-- A command with no slot, whose key only its own override names. -/
def noSlot : CommandConfig := { commands := Table.ofList [("lunch", { coreSize := some 0 })] }

def lunchCall : List (Event InvocationError Unit) := [.under "lunch" (.call 0), .pass 3]

end Sample

theorem runnable_commands_pools :
    ∃ cs, Commands.new Sample.pools = .ok cs ∧
      (Trace.after step (new cs 0) Sample.lunchCall).commands.table.contains "lunch" = true ∧
      ((Trace.after step (new cs 0) Sample.lunchCall).commands.get "lunch").settings.windowBuckets = 1 ∧
      (Trace.after step (new cs 0) Sample.lunchCall).commands.get "dinner" =
        .new "dinner" { coreSize := 2, queueSize := 0 } ∧
      Command.create "dinner" { coreSize := 2, queueSize := 0 } =
        .ok (.new "dinner" { coreSize := 2, queueSize := 0 }) ∧
      Commands.new Sample.noSlot =
        .error (.validation "command 'lunch': Validation error: core_size must be at least 1") ∧
      ¬ ∀ key, (Sample.noSlot.settingsFor key).validate = .ok () := by
  have hcs : Commands.new Sample.pools = .ok { config := Sample.pools } := rfl
  have hes : Trace.admits step (new { config := Sample.pools } 0) Sample.lunchCall = true := rfl
  have hrun := (runnable_commands (ε := InvocationError) (α := Unit) Sample.pools).2 _ hcs 0
    Sample.lunchCall hes
  obtain ⟨hlunch, -, -, -⟩ := hrun "lunch"
  obtain ⟨-, -, hdinner, hcreate⟩ := hrun "dinner"
  have hnone : Sample.noSlot.validate ≠ .ok () := nofun
  refine ⟨_, hcs, rfl, ?_, hdinner rfl, hcreate (show 2 + 0 < Width.bound32 by decide), rfl, ?_⟩
  · rw [hlunch]
    rfl
  · exact fun h => hnone ((runnable_commands (ε := InvocationError) (α := Unit) Sample.noSlot).1.2 h)

end SharedCommands

end ServiceBinding
