import ServiceBinding.Versioning.Migration

/-!
# The way of a message through the versions

From one version to a higher one a request passes the migrations of each version in between, and a result
passes them on its way back. The way up begins with the migrations of its lowest version, and the way down
ends with them (`upgradeSteps_of_lt`, `downgradeSteps_of_lt`). What a definition makes of an invocation and
of a result is what the migrations on the way make of the arguments and of the result, one after the other
(`upgrade_stamped`, `downgrade_eq`).
-/

namespace ServiceBinding

open Json

namespace Migration

/-- Brings arguments through migrations, the first one first. -/
def upgradeAll (steps : List Migration) (method : String) (args : List Value) : List Value :=
  steps.foldl (fun args m => m.upgrade method args) args

/-- Brings a result back through migrations, the first one first. -/
def downgradeAll (steps : List Migration) (method : String) (result : Value) : Value :=
  steps.foldl (fun v m => m.downgrade method v) result

theorem upgradeAll_append (up up' : List Migration) (method : String) (args : List Value) :
    upgradeAll (up ++ up') method args = upgradeAll up' method (upgradeAll up method args) :=
  List.foldl_append

theorem downgradeAll_append (down down' : List Migration) (method : String) (result : Value) :
    downgradeAll (down ++ down') method result = downgradeAll down' method (downgradeAll down method result) :=
  List.foldl_append

end Migration

namespace ApiDefinition

variable {d : ApiDefinition} {low high : Nat}

/-! ## The lowest version of a way -/

theorem upgradeSteps_of_le (h : high ≤ low) : d.upgradeSteps low high = [] := by
  simp [upgradeSteps, Nat.sub_eq_zero_of_le h]

theorem downgradeSteps_of_le (h : high ≤ low) : d.downgradeSteps high low = [] := by
  simp [downgradeSteps, Nat.sub_eq_zero_of_le h]

theorem range'_of_lt (h : low < high) :
    List.range' low (high - low) = low :: List.range' (low + 1) (high - (low + 1)) := by
  have hlength : high - low = high - (low + 1) + 1 := by omega
  rw [hlength, List.range'_succ]

theorem upgradeSteps_of_lt (h : low < high) :
    d.upgradeSteps low high = d.stepsFrom low ++ d.upgradeSteps (low + 1) high := by
  simp [upgradeSteps, range'_of_lt h]

theorem downgradeSteps_of_lt (h : low < high) :
    d.downgradeSteps high low = d.downgradeSteps high (low + 1) ++ d.stepsFrom low := by
  simp [downgradeSteps, range'_of_lt h]

/-! ## What passes the way -/

/-- An invocation of an older consumer is brought up through the migrations on its way. -/
theorem upgrade_stamped {v : Nat} (hv : v ≤ d.version) (i : Invocation) :
    d.upgrade { i with version := some v } = .ok { i with
      args := Migration.upgradeAll (d.upgradeSteps v d.version) i.method i.args
      version := some d.version } := by
  have hserved : ¬ d.version < v := by omega
  simp [upgrade, stampOf, hserved, Migration.upgradeAll]

/-- An invocation of a newer consumer is refused. -/
theorem upgrade_newer {v : Nat} (hv : d.version < v) (i : Invocation) :
    d.upgrade { i with version := some v } = .error (.versionMismatch v d.version) := by
  simp [upgrade, stampOf, hv]

theorem downgrade_eq (d : ApiDefinition) (method : String) (v : Nat) (result : Value) :
    d.downgrade method v result = Migration.downgradeAll (d.downgradeSteps d.version v) method result :=
  rfl

end ApiDefinition

end ServiceBinding
