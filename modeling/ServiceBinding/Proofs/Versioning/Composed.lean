import Mathlib.Data.List.Basic
import ServiceBinding.Proofs.Versioning.Mirror

/-!
# Stages on the way through the versions

A way through the versions can be cut at any version in between (`upgradeSteps_append`,
`downgradeSteps_append`), so a message that is brought up or down in stages comes out as one that is brought
all the way at once. A way consists of the migrations of its versions only, version by version
(`upgradeSteps_congr`, `downgradeSteps_congr`): other migrations do not matter, nor does it matter how the
migrations of different versions were mixed when they were added (`Reordered`).

`upgradeInPlace` is the upgrade of an invocation that others hold. It refuses before it changes anything
(`upgradeInPlace_eq`).
-/

namespace ServiceBinding

open Json

namespace Migration

/-- Lists that differ in the order of migrations of different versions, if at all: one becomes the other by
exchanging neighbours. -/
inductive Reordered : List Migration → List Migration → Prop
  | refl (l : List Migration) : Reordered l l
  | swap (before after : List Migration) {m m' : Migration} {l : List Migration}
      (hne : m.fromVersion ≠ m'.fromVersion) (rest : Reordered (before ++ m' :: m :: after) l) :
      Reordered (before ++ m :: m' :: after) l

/-- The migrations of one version keep their order. -/
theorem Reordered.filter_eq {l l' : List Migration} (h : Reordered l l') (v : Nat) :
    l.filter (fun m => m.fromVersion = v) = l'.filter fun m => m.fromVersion = v := by
  induction h with
  | refl l => rfl
  | swap before after hne rest ih =>
    rename_i m m' l
    rw [← ih, List.filter_append, List.filter_append]
    congr 1
    by_cases hm : m.fromVersion = v
    · have hm' : m'.fromVersion ≠ v := fun h => hne (hm.trans h.symm)
      simp [hm, hm']
    · simp [List.filter_cons, hm]

/-- Whether a migration is on the way between two versions. -/
def isBetween (low high : Nat) (m : Migration) : Bool :=
  low ≤ m.fromVersion && m.fromVersion < high

theorem filter_eq_of_isBetween {l l' : List Migration} {low high : Nat}
    (h : l'.filter (isBetween low high) = l.filter (isBetween low high)) {v : Nat} (hlow : low ≤ v)
    (hhigh : v < high) :
    l'.filter (fun m => m.fromVersion = v) = l.filter fun m => m.fromVersion = v := by
  have hsub (l : List Migration) : l.filter (fun m => m.fromVersion = v) =
      (l.filter (isBetween low high)).filter fun m => m.fromVersion = v := by
    rw [List.filter_filter]
    apply List.filter_congr
    intro m _
    by_cases hm : m.fromVersion = v
    · simp [isBetween, hm, hlow, hhigh]
    · simp [hm]
  rw [hsub l', h, ← hsub l]

end Migration

namespace ApiDefinition

open Migration (Reordered isBetween)

/-- The definition of an API at a version, with the given migrations. -/
def ofMigrations (migrations : List Migration) (version : Nat) : ApiDefinition :=
  { version, migrations }

/-! ## Parts of a way -/

section

variable {d d' : ApiDefinition} {low mid high : Nat}

theorem range'_cut (hlow : low ≤ mid) (hhigh : mid ≤ high) :
    List.range' low (high - low) = List.range' low (mid - low) ++ List.range' mid (high - mid) := by
  have hmid : mid = low + (mid - low) := by omega
  have hlength : high - low = (mid - low) + (high - mid) := by omega
  rw [hlength, ← List.range'_append_1, ← hmid]

theorem upgradeSteps_append (hlow : low ≤ mid) (hhigh : mid ≤ high) :
    d.upgradeSteps low high = d.upgradeSteps low mid ++ d.upgradeSteps mid high := by
  simp only [upgradeSteps, range'_cut hlow hhigh, List.flatMap_append]

theorem downgradeSteps_append (hlow : low ≤ mid) (hhigh : mid ≤ high) :
    d.downgradeSteps high low = d.downgradeSteps high mid ++ d.downgradeSteps mid low := by
  simp only [downgradeSteps, range'_cut hlow hhigh, List.reverse_append, List.flatMap_append]

theorem upgradeSteps_congr (h : ∀ v, low ≤ v → v < high → d'.stepsFrom v = d.stepsFrom v) :
    d'.upgradeSteps low high = d.upgradeSteps low high := by
  apply List.flatMap_congr
  intro v hv
  obtain ⟨hlow, hhigh⟩ := List.mem_range'_1.1 hv
  exact h v hlow (by omega)

theorem downgradeSteps_congr (h : ∀ v, low ≤ v → v < high → d'.stepsFrom v = d.stepsFrom v) :
    d'.downgradeSteps high low = d.downgradeSteps high low := by
  apply List.flatMap_congr
  intro v hv
  obtain ⟨hlow, hhigh⟩ := List.mem_range'_1.1 (List.mem_reverse.1 hv)
  exact h v hlow (by omega)

end

/-! ## What a definition makes of a message -/

section

variable {d : ApiDefinition}

/-- An invocation is refused exactly if it is stamped with a version that is newer. -/
theorem upgrade_eq_error_iff (d : ApiDefinition) (i : Invocation) :
    (∃ e, d.upgrade i = .error e) ↔ ∃ v, i.version = some v ∧ d.version < v := by
  cases hstamp : i.version with
  | none => simp [upgrade, stampOf, hstamp]
  | some v =>
    by_cases hv : d.version < v
    · simp [upgrade, stampOf, hstamp, hv]
    · simp [upgrade, stampOf, hstamp, hv]

/-- An invocation that has been brought up is left as it is. -/
theorem upgrade_current (d : ApiDefinition) (i : Invocation) :
    d.upgrade { i with version := some d.version } = .ok { i with version := some d.version } := by
  rw [upgrade_stamped (Nat.le_refl _), upgradeSteps_of_le (Nat.le_refl _)]
  rfl

theorem upgrade_upgrade (d : ApiDefinition) (i : Invocation) :
    d.upgrade i >>= d.upgrade = d.upgrade i := by
  cases hup : d.upgrade i with
  | error e => rfl
  | ok up =>
    have hversion : up.version = some d.version := by
      unfold upgrade at hup
      dsimp only at hup
      split at hup
      · cases hup
      · obtain rfl := Except.ok.inj hup
        rfl
    have hcurrent := d.upgrade_current up
    rw [← hversion] at hcurrent
    exact hcurrent

theorem downgrade_of_le {target : Nat} (h : d.version ≤ target) (method : String) (result : Value) :
    d.downgrade method target result = result := by
  rw [downgrade_eq, downgradeSteps_of_le h]
  rfl

end

section

variable {l l' : List Migration} {a b c version low : Nat}

theorem upgrade_stages (hab : a ≤ b) (hbc : b ≤ c) (i : Invocation) :
    (ofMigrations l b).upgrade { i with version := some a } >>= (ofMigrations l c).upgrade =
      (ofMigrations l c).upgrade { i with version := some a } := by
  have hlow : a ≤ (ofMigrations l b).version := hab
  have hhigh : b ≤ (ofMigrations l c).version := hbc
  have hall : a ≤ (ofMigrations l c).version := Nat.le_trans hab hbc
  have hsteps : (ofMigrations l c).upgradeSteps a c =
      (ofMigrations l b).upgradeSteps a b ++ (ofMigrations l c).upgradeSteps b c :=
    upgradeSteps_append hab hbc
  let mid : Invocation := { i with
    args := Migration.upgradeAll ((ofMigrations l b).upgradeSteps a b) i.method i.args }
  calc (ofMigrations l b).upgrade { i with version := some a } >>= (ofMigrations l c).upgrade
    _ = (ofMigrations l c).upgrade { mid with version := some b } := by
      rw [upgrade_stamped hlow i]
      rfl
    _ = .ok { i with
          args := Migration.upgradeAll ((ofMigrations l c).upgradeSteps a c) i.method i.args
          version := some c } := by
      rw [upgrade_stamped hhigh mid, hsteps, Migration.upgradeAll_append]
      rfl
    _ = (ofMigrations l c).upgrade { i with version := some a } := (upgrade_stamped hall i).symm

theorem downgrade_stages (hab : a ≤ b) (hbc : b ≤ c) (method : String) (result : Value) :
    (ofMigrations l b).downgrade method a ((ofMigrations l c).downgrade method b result) =
      (ofMigrations l c).downgrade method a result := by
  have hsteps : (ofMigrations l c).downgradeSteps c a =
      (ofMigrations l c).downgradeSteps c b ++ (ofMigrations l b).downgradeSteps b a :=
    downgradeSteps_append hab hbc
  show _ = Migration.downgradeAll ((ofMigrations l c).downgradeSteps c a) method result
  rw [hsteps, Migration.downgradeAll_append]
  rfl

/-- What is made of messages from a version on depends on the migrations from that version on alone. -/
theorem upgrade_congr
    (h : ∀ v, low ≤ v → v < version → (ofMigrations l' version).stepsFrom v =
      (ofMigrations l version).stepsFrom v)
    {i : Invocation} (hstamp : low ≤ (ofMigrations l version).stampOf i) :
    (ofMigrations l' version).upgrade i = (ofMigrations l version).upgrade i := by
  have hsteps : (ofMigrations l' version).upgradeSteps ((ofMigrations l version).stampOf i) version =
      (ofMigrations l version).upgradeSteps ((ofMigrations l version).stampOf i) version :=
    upgradeSteps_congr fun v hv => h v (Nat.le_trans hstamp hv)
  have hstamps : (ofMigrations l' version).stampOf i = (ofMigrations l version).stampOf i := rfl
  have hversions (l : List Migration) : (ofMigrations l version).version = version := rfl
  simp only [upgrade, hversions, hstamps, hsteps]

theorem downgrade_congr
    (h : ∀ v, low ≤ v → v < version → (ofMigrations l' version).stepsFrom v =
      (ofMigrations l version).stepsFrom v)
    {target : Nat} (htarget : low ≤ target) (method : String) (result : Value) :
    (ofMigrations l' version).downgrade method target result =
      (ofMigrations l version).downgrade method target result := by
  have hsteps : (ofMigrations l' version).downgradeSteps version target =
      (ofMigrations l version).downgradeSteps version target :=
    downgradeSteps_congr fun v hv => h v (Nat.le_trans htarget hv)
  show Migration.downgradeAll ((ofMigrations l' version).downgradeSteps version target) method result = _
  rw [hsteps]
  rfl

end

/-! ## Upgrades of invocations that others hold -/

/-- Brings the arguments of an invocation up where it is held, one migration after the other. -/
def migrateInPlace (d : ApiDefinition) (stamp : Nat) : ExceptT CodecError (StateM Invocation) Unit :=
  (List.range' stamp (d.version - stamp)).forM fun v =>
    (d.stepsFrom v).forM fun m => modify fun i => { i with args := m.upgrade i.method i.args }

/-- Brings an invocation up where it is held, or refuses it. -/
def upgradeInPlace (d : ApiDefinition) : ExceptT CodecError (StateM Invocation) Unit := do
  let stamp := d.stampOf (← get)
  if d.version < stamp then
    throw (.versionMismatch stamp d.version)
  d.migrateInPlace stamp
  modify fun i => { i with version := some d.version }

/-- A loop whose body never fails changes what is held as a fold does. -/
theorem run_forM {α : Type} {body : α → ExceptT CodecError (StateM Invocation) Unit}
    {f : Invocation → α → Invocation} (h : ∀ a i, (body a).run.run i = (.ok (), f i a)) (l : List α)
    (i : Invocation) : (l.forM body).run.run i = (.ok (), l.foldl f i) := by
  induction l generalizing i with
  | nil => rfl
  | cons a rest ih =>
    show (body a >>= fun _ => rest.forM body).run.run i = _
    rw [ExceptT.run_bind, StateT.run_bind, h a i]
    exact ih (f i a)

/-- The migrations change the arguments of the invocation and leave its method. -/
theorem foldl_upgrade (steps : List Migration) (i : Invocation) :
    steps.foldl (fun i m => { i with args := m.upgrade i.method i.args }) i =
      { i with args := Migration.upgradeAll steps i.method i.args } := by
  induction steps generalizing i with
  | nil => rfl
  | cons m rest ih => exact ih { i with args := m.upgrade i.method i.args }

theorem run_migrateInPlace (d : ApiDefinition) (stamp : Nat) (i : Invocation) :
    (d.migrateInPlace stamp).run.run i = (.ok (), { i with
      args := Migration.upgradeAll (d.upgradeSteps stamp d.version) i.method i.args }) := by
  have hversion (v : Nat) (i : Invocation) :
      ((d.stepsFrom v).forM fun m => (modify fun i => { i with args := m.upgrade i.method i.args } :
        ExceptT CodecError (StateM Invocation) Unit)).run.run i =
      (.ok (), (d.stepsFrom v).foldl (fun i m => { i with args := m.upgrade i.method i.args }) i) :=
    run_forM (fun _ _ => rfl) _ _
  rw [migrateInPlace, run_forM hversion, ← List.foldl_flatMap, foldl_upgrade]
  rfl

/-- The upgrade in place leaves what the upgrade returns, and what it refuses it leaves as it was. -/
theorem upgradeInPlace_eq (d : ApiDefinition) (i : Invocation) :
    d.upgradeInPlace.run.run i =
      match d.upgrade i with
      | .ok up => (.ok (), up)
      | .error e => (.error e, i) := by
  by_cases hnewer : d.version < d.stampOf i
  · have hrefused : d.upgrade i = .error (.versionMismatch (d.stampOf i) d.version) := by
      simp [upgrade, hnewer]
    rw [hrefused, upgradeInPlace, ExceptT.run_bind]
    show StateT.run (ExceptT.run (if d.version < d.stampOf i then _ else _)) i = _
    rw [if_pos hnewer]
    rfl
  · have hserved : d.upgrade i = .ok { i with
        args := Migration.upgradeAll (d.upgradeSteps (d.stampOf i) d.version) i.method i.args
        version := some d.version } := by
      simp [upgrade, hnewer, Migration.upgradeAll]
    rw [hserved, upgradeInPlace, ExceptT.run_bind]
    show StateT.run (ExceptT.run (if d.version < d.stampOf i then _ else _)) i = _
    rw [if_neg hnewer]
    show StateT.run (ExceptT.run (d.migrateInPlace (d.stampOf i) >>= fun _ => _)) i = _
    rw [ExceptT.run_bind, StateT.run_bind, run_migrateInPlace]
    rfl

/-! ## All laws of a list of migrations -/

/-- **Migrations compose.** Over one list of migrations and for versions `a ≤ b ≤ c`, an invocation that is
brought from `a` to `b` and then to `c` comes out as if it had been brought to `c` at once, with its stamp,
and a result that is brought down from `c` to `b` and then to `a` as if it had been brought down to `a` at
once. To bring an invocation up again, or a result to a version that is not below, changes nothing. The
migrations outside `[a, c)` do not matter on the way between `a` and `c`, nor does the order in which
migrations of different versions were added matter on any way. Only a newer invocation is refused, and one
that is held stays as it is then. -/
theorem migrations_compose (l : List Migration) {a b c : Nat} (hab : a ≤ b) (hbc : b ≤ c) :
    (∀ i : Invocation, ∃ up,
      (ofMigrations l c).upgrade { i with version := some a } = .ok up ∧
      up.version = some c ∧
      (ofMigrations l b).upgrade { i with version := some a } >>= (ofMigrations l c).upgrade = .ok up) ∧
    (∀ method result,
      (ofMigrations l b).downgrade method a ((ofMigrations l c).downgrade method b result) =
        (ofMigrations l c).downgrade method a result) ∧
    (∀ i, (ofMigrations l c).upgrade i >>= (ofMigrations l c).upgrade = (ofMigrations l c).upgrade i) ∧
    (∀ method target result, c ≤ target → (ofMigrations l c).downgrade method target result = result) ∧
    (∀ l', l'.filter (isBetween a c) = l.filter (isBetween a c) →
      (∀ i : Invocation, (ofMigrations l' c).upgrade { i with version := some a } =
        (ofMigrations l c).upgrade { i with version := some a }) ∧
      ∀ method result, (ofMigrations l' c).downgrade method a result =
        (ofMigrations l c).downgrade method a result) ∧
    (∀ l', Reordered l l' →
      (∀ i, (ofMigrations l' c).upgrade i = (ofMigrations l c).upgrade i) ∧
      ∀ method target result, (ofMigrations l' c).downgrade method target result =
        (ofMigrations l c).downgrade method target result) ∧
    ∀ i,
      ((∃ e, (ofMigrations l c).upgrade i = .error e) ↔ ∃ v, i.version = some v ∧ c < v) ∧
      (ofMigrations l c).upgradeInPlace.run.run i =
        match (ofMigrations l c).upgrade i with
        | .ok up => (.ok (), up)
        | .error e => (.error e, i) := by
  have hac : a ≤ c := Nat.le_trans hab hbc
  refine ⟨?stages, downgrade_stages hab hbc, upgrade_upgrade _, ?above, ?outside, ?mixed, ?refused⟩
  case stages =>
    intro i
    refine ⟨_, upgrade_stamped hac i, rfl, ?_⟩
    rw [upgrade_stages hab hbc i]
    exact upgrade_stamped hac i
  case above =>
    intro method target result htarget
    exact downgrade_of_le htarget method result
  case outside =>
    intro l' hl'
    have hsteps (v : Nat) (hlow : a ≤ v) (hhigh : v < c) :
        (ofMigrations l' c).stepsFrom v = (ofMigrations l c).stepsFrom v :=
      Migration.filter_eq_of_isBetween hl' hlow hhigh
    constructor
    · intro i
      exact upgrade_congr hsteps (Nat.le_refl a)
    · intro method result
      exact downgrade_congr hsteps (Nat.le_refl a) method result
  case mixed =>
    intro l' hl'
    have hsteps (v : Nat) (_ : 0 ≤ v) (_ : v < c) :
        (ofMigrations l' c).stepsFrom v = (ofMigrations l c).stepsFrom v := (hl'.filter_eq v).symm
    constructor
    · intro i
      exact upgrade_congr hsteps (Nat.zero_le _)
    · intro method target result
      exact downgrade_congr hsteps (Nat.zero_le _) method result
  case refused =>
    intro i
    exact ⟨upgrade_eq_error_iff _ i, upgradeInPlace_eq _ i⟩

/-- Two migrations of one version, mixed with one of the version after it. -/
def Sample.mixed : List Migration :=
  [Sample.tagging 1 "a", Sample.tagging 2 "c", Sample.tagging 1 "b"]

theorem migrations_compose_mixed :
    1 ≤ 2 ∧ 2 ≤ 3 ∧
    ((ofMigrations Sample.mixed 2).upgrade { method := "list", args := [.nat 5], version := some 1 } >>=
      (ofMigrations Sample.mixed 3).upgrade) =
        .ok ⟨"list", [.nat 5, .string "a", .string "b", .string "c"], some 3⟩ ∧
    (ofMigrations Sample.mixed 2).downgrade "list" 1 ((ofMigrations Sample.mixed 3).downgrade "list" 2
      (.array [.nat 5, .string "b", .string "a", .string "c"])) = .array [.nat 5] ∧
    (ofMigrations [Sample.tagging 2 "c", Sample.tagging 1 "a", Sample.tagging 1 "b"] 3).upgrade
      { method := "list", args := [.nat 5], version := some 1 } =
        .ok ⟨"list", [.nat 5, .string "a", .string "b", .string "c"], some 3⟩ := by
  have hlow : 1 ≤ 2 := by decide
  have hhigh : 2 ≤ 3 := by decide
  obtain ⟨hstages, hback, -, -, -, hmixed, -⟩ := migrations_compose Sample.mixed hlow hhigh
  have hreordered : Migration.Reordered Sample.mixed
      [Sample.tagging 2 "c", Sample.tagging 1 "a", Sample.tagging 1 "b"] :=
    .swap [] [Sample.tagging 1 "b"] (by decide) (.refl _)
  refine ⟨hlow, hhigh, ?_, ?_, ?_⟩
  · obtain ⟨up, hup, -, hboth⟩ := hstages { method := "list", args := [.nat 5] }
    exact hboth.trans hup.symm
  · exact hback "list" _
  · exact (hmixed _ hreordered).1 _

end ApiDefinition

end ServiceBinding
