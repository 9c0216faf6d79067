import Mathlib.Data.Nat.Init
import ServiceBinding.Proofs.Versioning.Steps
import ServiceBinding.Versioning.Edits

/-!
# The order of migrations

A request passes the versions upwards and a result passes them downwards, but both pass the migrations of
one version in the order in which those were added. So the way down is the way up reversed if and only if
the migrations of each version read the same from both ends (`downgradeSteps_eq_reverse_iff`), as they do
where no version has two of them. A reversed way is undone if each of its migrations is
(`undoes_reverse`). The way that results really take is undone if the migrations of each version are,
taken together in their one order (`undoes_steps`).
-/

namespace ServiceBinding

open Json

namespace Migration

/-- The way `down` undoes the way `up`: it brings a result that stands for upgraded arguments back to one
that stands for the arguments. Which results stand for which arguments is up to the messages. -/
def Undoes (down up : List Migration) (method : String) (stands : List Value → Value → Prop) : Prop :=
  ∀ args result, stands (upgradeAll up method args) result →
    stands args (downgradeAll down method result)

variable {method : String} {stands : List Value → Value → Prop} {up up' down down' : List Migration}

theorem Undoes.nil : Undoes [] [] method stands := fun _ _ h => h

/-- What was done last is undone first. -/
theorem Undoes.append (h : Undoes down up method stands) (h' : Undoes down' up' method stands) :
    Undoes (down' ++ down) (up ++ up') method stands := by
  intro args result hresult
  rw [upgradeAll_append] at hresult
  rw [downgradeAll_append]
  exact h _ _ (h' _ _ hresult)

theorem undoes_reverse {steps : List Migration} (h : ∀ m ∈ steps, Undoes [m] [m] method stands) :
    Undoes steps.reverse steps method stands := by
  induction steps with
  | nil => exact Undoes.nil
  | cons m rest ih =>
    have hfirst : Undoes [m] [m] method stands := h m List.mem_cons_self
    have hrest := ih fun m' hm' => h m' (List.mem_cons_of_mem m hm')
    rw [List.reverse_cons]
    exact hfirst.append hrest

end Migration

namespace ApiDefinition

open Migration (Undoes)

variable {d : ApiDefinition} {low high : Nat} {method : String} {stands : List Value → Value → Prop}

/-! ## Both ways, version by version -/

theorem downgradeSteps_eq_reverse_iff (h : low ≤ high) :
    d.downgradeSteps high low = (d.upgradeSteps low high).reverse ↔
      ∀ v, low ≤ v → v < high → (d.stepsFrom v).reverse = d.stepsFrom v := by
  -- from the highest version down: each version adds its own migrations to both sides
  induction h using Nat.decreasingInduction with
  | self =>
    rw [upgradeSteps_of_le (Nat.le_refl _), downgradeSteps_of_le (Nat.le_refl _)]
    simp only [List.reverse_nil, true_iff]
    intro v hlow hhigh
    omega
  | of_succ low hlow ih =>
    rw [upgradeSteps_of_lt hlow, downgradeSteps_of_lt hlow, List.reverse_append]
    constructor
    · intro h v hv hhigh
      obtain ⟨habove, hown⟩ := List.append_inj' h (List.length_reverse).symm
      rcases Nat.eq_or_lt_of_le hv with rfl | hlt
      · exact hown.symm
      · exact ih.1 habove v hlt hhigh
    · intro h
      have habove := ih.2 fun v hv hhigh => h v (by omega) hhigh
      rw [habove, h low (Nat.le_refl low) hlow]

theorem undoes_steps (h : low ≤ high)
    (hversions : ∀ v, low ≤ v → v < high → Undoes (d.stepsFrom v) (d.stepsFrom v) method stands) :
    Undoes (d.downgradeSteps high low) (d.upgradeSteps low high) method stands := by
  induction h using Nat.decreasingInduction with
  | self =>
    rw [upgradeSteps_of_le (Nat.le_refl _), downgradeSteps_of_le (Nat.le_refl _)]
    exact Undoes.nil
  | of_succ low hlow ih =>
    rw [upgradeSteps_of_lt hlow, downgradeSteps_of_lt hlow]
    apply Undoes.append
    · exact hversions low (Nat.le_refl low) hlow
    · exact ih fun v hv hhigh => hversions v (by omega) hhigh

theorem mem_migrations_of_mem_upgradeSteps {m : Migration} (h : m ∈ d.upgradeSteps low high) :
    m ∈ d.migrations := by
  obtain ⟨v, -, hm⟩ := List.mem_flatMap.1 h
  exact (List.mem_filter.1 hm).1

/-! ## There and back -/

/-- **The order of migrations.** An invocation stamped with a version that is served is brought up through
`upgradeSteps`, and a result is brought down to that version through `downgradeSteps`. These are the same
migrations in reverse if and only if the migrations of each version on the way read the same from both
ends. If they are, and each migration undoes itself, then the way down undoes the way up; in any case it
does if the migrations of each version do, taken together. -/
theorem mirror_order (d : ApiDefinition) {v : Nat} (hv : v ≤ d.version) :
    (∀ i : Invocation, d.upgrade { i with version := some v } = .ok { i with
      args := Migration.upgradeAll (d.upgradeSteps v d.version) i.method i.args
      version := some d.version }) ∧
    (∀ method result, d.downgrade method v result =
      Migration.downgradeAll (d.downgradeSteps d.version v) method result) ∧
    (d.downgradeSteps d.version v = (d.upgradeSteps v d.version).reverse ↔
      ∀ w, v ≤ w → w < d.version → (d.stepsFrom w).reverse = d.stepsFrom w) ∧
    ∀ (stands : List Value → Value → Prop) (i : Invocation),
      ((∀ m ∈ d.migrations, Undoes [m] [m] i.method stands) ∧
          d.downgradeSteps d.version v = (d.upgradeSteps v d.version).reverse ∨
        ∀ w, v ≤ w → w < d.version → Undoes (d.stepsFrom w) (d.stepsFrom w) i.method stands) →
      ∀ upgraded, d.upgrade { i with version := some v } = .ok upgraded →
        ∀ result, stands upgraded.args result → stands i.args (d.downgrade i.method v result) := by
  refine ⟨upgrade_stamped hv, fun method => d.downgrade_eq method v,
    downgradeSteps_eq_reverse_iff hv, ?_⟩
  intro stands i hundoes upgraded hup result hresult
  have hway : Undoes (d.downgradeSteps d.version v) (d.upgradeSteps v d.version) i.method stands := by
    rcases hundoes with ⟨heach, hmirror⟩ | hversions
    · rw [hmirror]
      exact Migration.undoes_reverse fun m hm => heach m (mem_migrations_of_mem_upgradeSteps hm)
    · exact undoes_steps hv hversions
  rw [upgrade_stamped hv] at hup
  obtain rfl := Except.ok.inj hup
  exact hway _ _ hresult

namespace Sample

/-- Puts a tag behind the arguments, and takes it from the end of a list again. -/
def tagging (fromVersion : Nat) (tag : String) : Migration where
  fromVersion
  upgrade _ args := args ++ [.string tag]
  downgrade _ result :=
    match result with
    | .array items =>
      match items.getLast? with
      | some (.string t) => if t = tag then .array items.dropLast else result
      | _ => result
    | _ => result

/-- A result that lists arguments stands for them. -/
def lists (args : List Value) (result : Value) : Prop := result = .array args

theorem tagging_undoes (fromVersion : Nat) (tag method : String) :
    Undoes [tagging fromVersion tag] [tagging fromVersion tag] method lists := by
  intro args result hresult
  have htagged : result = .array (args ++ [.string tag]) := hresult
  subst htagged
  simp [lists, Migration.downgradeAll, tagging]

/-- One migration for each version, the later one added first. -/
def tagged : ApiDefinition := { version := 3, migrations := [tagging 2 "b", tagging 1 "a"] }

/-- Two migrations of one version. -/
def taggedTwice : ApiDefinition := { version := 2, migrations := [tagging 1 "a", tagging 1 "b"] }

/-- The first migration calls the stars of a restaurant its rating, and the second its score. -/
def renamed : ApiDefinition :=
  { version := 2
    migrations :=
      [.ofEdits 1 [] [{ edit := { rename := some ("rating", "stars") } }],
        .ofEdits 1 [] [{ edit := { rename := some ("score", "rating") } }]] }

end Sample

theorem mirror_order_tagged :
    1 ≤ Sample.tagged.version ∧
    Sample.tagged.downgradeSteps 3 1 = (Sample.tagged.upgradeSteps 1 3).reverse ∧
    Sample.tagged.downgrade "list" 1 (.array [.nat 5, .string "a", .string "b"]) = .array [.nat 5] := by
  have hv : 1 ≤ Sample.tagged.version := by decide
  obtain ⟨hup, -, hmirror, hundone⟩ := mirror_order Sample.tagged hv
  have hreversed : Sample.tagged.downgradeSteps 3 1 = (Sample.tagged.upgradeSteps 1 3).reverse := by
    apply hmirror.2
    intro w hlow hhigh
    have hw : w = 1 ∨ w = 2 := by
      have hthree : w < 3 := hhigh
      omega
    rcases hw with rfl | rfl <;> rfl
  refine ⟨hv, hreversed, ?_⟩
  have heach : ∀ m ∈ Sample.tagged.migrations, Undoes [m] [m] "list" Sample.lists := by
    simp [Sample.tagged, Sample.tagging_undoes]
  exact hundone Sample.lists { method := "list", args := [.nat 5] } (.inl ⟨heach, hreversed⟩) _ (hup _) _ rfl

/-- Migrations of one version are not mirrored: what the second one made of a result, the first one no
longer finds. Nor is the way up undone, though each migration undoes itself. -/
theorem one_version_unmirrored :
    Sample.renamed.downgradeSteps 2 1 ≠ (Sample.renamed.upgradeSteps 1 2).reverse ∧
    Sample.renamed.downgrade "getByName" 1 (.object [("score", .nat 5)]) =
      .object [("rating", .nat 5)] ∧
    Migration.downgradeAll (Sample.renamed.upgradeSteps 1 2).reverse "getByName"
      (.object [("score", .nat 5)]) = .object [("stars", .nat 5)] ∧
    (∀ m ∈ Sample.taggedTwice.migrations, Undoes [m] [m] "list" Sample.lists) ∧
    ∃ upgraded, Sample.taggedTwice.upgrade { method := "list", version := some 1 } = .ok upgraded ∧
      Sample.lists upgraded.args (.array upgraded.args) ∧
      ¬ Sample.lists [] (Sample.taggedTwice.downgrade "list" 1 (.array upgraded.args)) := by
  have hdown : Sample.renamed.downgrade "getByName" 1 (.object [("score", .nat 5)]) =
      .object [("rating", .nat 5)] := rfl
  have hreversed : Migration.downgradeAll (Sample.renamed.upgradeSteps 1 2).reverse "getByName"
      (.object [("score", .nat 5)]) = .object [("stars", .nat 5)] := rfl
  refine ⟨?_, hdown, hreversed, ?_, _, rfl, rfl, ?_⟩
  · intro hmirror
    rw [← hmirror] at hreversed
    have hsame : Value.object [("rating", .nat 5)] = .object [("stars", .nat 5)] :=
      hdown.symm.trans hreversed
    simp at hsame
  · simp [Sample.taggedTwice, Sample.tagging_undoes]
  · intro hlists
    have hleft : Value.array [.string "a"] = .array [] := hlists
    cases hleft

end ApiDefinition

end ServiceBinding
