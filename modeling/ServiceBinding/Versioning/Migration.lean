import ServiceBinding.Invocation.Basic

/-!
# Versions of an API

A versioned API changes its messages one version at a time. A migration takes the arguments of a
request from one version to the next, and the result of a response from that next version back.
A provider runs at the version of its definition; requests of older consumers are brought up to it
and its results brought down again. Main definitions: `upgradeSteps` and `downgradeSteps`, the
migrations a request and a response pass.
-/

namespace ServiceBinding

open Json

/-- The step from `fromVersion` to the version after it. -/
structure Migration where
  fromVersion : Nat
  /-- Brings the arguments of a method to the next version. -/
  upgrade : String → List Value → List Value
  /-- Brings a result of a method back to `fromVersion`. -/
  downgrade : String → Value → Value

/-- The current version of an API and the way to it. -/
structure ApiDefinition where
  version : Nat
  migrations : List Migration := []

namespace ApiDefinition

/-- The migrations from one version to the next, in the order in which they were added. -/
def stepsFrom (d : ApiDefinition) (version : Nat) : List Migration :=
  d.migrations.filter fun m => m.fromVersion = version

/-- The migrations from version `low` up to `high`. -/
def upgradeSteps (d : ApiDefinition) (low high : Nat) : List Migration :=
  (List.range' low (high - low)).flatMap d.stepsFrom

/-- The migrations from version `high` down to `low`; those of one version in the order in which
they were added. -/
def downgradeSteps (d : ApiDefinition) (high low : Nat) : List Migration :=
  (List.range' low (high - low)).reverse.flatMap d.stepsFrom

/-- The version an invocation is written at: without a stamp the current one. -/
def stampOf (d : ApiDefinition) (i : Invocation) : Nat := i.version.getD d.version

/-- Brings an invocation up to the current version. One of a newer consumer is refused. -/
def upgrade (d : ApiDefinition) (i : Invocation) : Except CodecError Invocation :=
  let stamp := d.stampOf i
  if d.version < stamp then .error (.versionMismatch stamp d.version)
  else
    .ok { i with
      args := (d.upgradeSteps stamp d.version).foldl (fun args m => m.upgrade i.method args) i.args
      version := some d.version }

/-- Brings a result down from the current version to `target`; it stays as it is if the target is
not below. -/
def downgrade (d : ApiDefinition) (method : String) (target : Nat) (result : Value) : Value :=
  (d.downgradeSteps d.version target).foldl (fun v m => m.downgrade method v) result

/-- A definition as it is shown to a developer. -/
def summary (d : ApiDefinition) : String :=
  "ObjectSerializerDefinition \x7b version: " ++ toString d.version ++ ", migrations: " ++
    toString d.migrations.length ++ " \x7d"

end ApiDefinition

end ServiceBinding
