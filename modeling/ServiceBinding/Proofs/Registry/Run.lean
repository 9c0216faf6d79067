import Mathlib.Data.Option.Basic
import ServiceBinding.Proofs.Trace
import ServiceBinding.Registry.Leases

/-!
# Runs of a registry of leases

A run is any sequence of writes to an empty registry, each at its time; times do not go back. The order
in which a table is gone through means nothing, so between two writes, and before a reading, every table
of the registry may be in another order (`LeaseRegistry.Reorders`).
-/

namespace ServiceBinding

namespace LeaseRegistry

/-! ## Writes -/

/-- What changes a registry of leases. -/
inductive Write
  | register (e : Entry)
  | renew (e : Entry)
  | deregister (key : ServiceKey) (instanceId : String)
  | clear
  | evict

/-- The registry after an operation that may fail, and whether it has. -/
def attempt (r : LeaseRegistry) (result : Except RegistryError LeaseRegistry) :
    LeaseRegistry × Except RegistryError Unit :=
  match result with
  | .ok r' => (r', .ok ())
  | .error err => (r, .error err)

def perform (r : LeaseRegistry) (now : Instant) :
    Write → LeaseRegistry × Except RegistryError Unit
  | .register e => r.attempt (r.register now e)
  | .renew e => r.attempt (r.renew now e)
  | .deregister key instanceId => r.attempt (r.deregister key instanceId)
  | .clear => (r.clear, .ok ())
  | .evict => ((r.evict now).1, .ok ())

/-- An operation that fails leaves the registry as it was. -/
theorem perform_of_error {r : LeaseRegistry} {now : Instant} {w : Write} {err : RegistryError}
    (h : (r.perform now w).2 = .error err) : (r.perform now w).1 = r := by
  have hattempt (result : Except RegistryError LeaseRegistry)
      (h : (r.attempt result).2 = .error err) : (r.attempt result).1 = r := by
    cases result with
    | error _ => rfl
    | ok r' => cases h
  cases w with
  | register e | renew e | deregister key id => exact hattempt _ h
  | clear | evict => cases h

/-! ## The order of tables -/

/-- The registries hold the same, each of their tables in an order of its own. -/
structure Reorders (r r' : LeaseRegistry) : Prop where
  services : ∀ key, Option.Rel (fun instances instances' => instances.entries.Perm instances'.entries)
    (r.services.get? key) (r'.services.get? key)
  nextSequence : r.nextSequence = r'.nextSequence

variable {r r' : LeaseRegistry}

theorem Reorders.refl (r : LeaseRegistry) : Reorders r r where
  services key := by
    cases r.services.get? key with
    | none => exact .none
    | some instances => exact .some (List.Perm.refl _)
  nextSequence := rfl

theorem Reorders.symm (h : Reorders r r') : Reorders r' r where
  services key := by
    have hrel := h.services key
    generalize r.services.get? key = before, r'.services.get? key = after at hrel ⊢
    cases hrel with
    | none => exact .none
    | some hperm => exact .some hperm.symm
  nextSequence := h.nextSequence.symm

theorem Reorders.trans {r'' : LeaseRegistry} (h : Reorders r r') (h' : Reorders r' r'') :
    Reorders r r'' where
  services key := by
    have hrel := h.services key
    have hrel' := h'.services key
    generalize r.services.get? key = before, r'.services.get? key = between,
      r''.services.get? key = after at hrel hrel' ⊢
    cases hrel with
    | none =>
      cases hrel' with
      | none => exact .none
    | some hperm =>
      cases hrel' with
      | some hperm' => exact .some (hperm.trans hperm')
  nextSequence := h.nextSequence.trans h'.nextSequence

theorem Reorders.lease? (h : Reorders r r') (key : ServiceKey) (id : String) :
    r.lease? key id = r'.lease? key id := by
  have hrel := h.services key
  unfold LeaseRegistry.lease?
  generalize r.services.get? key = before, r'.services.get? key = after at hrel ⊢
  cases hrel with
  | none => rfl
  | some hperm => exact Table.perm_iff.1 hperm id

theorem Reorders.live? (h : Reorders r r') (now : Instant) (key : ServiceKey) (id : String) :
    r.live? now key id = r'.live? now key id := by
  rw [LeaseRegistry.live?, LeaseRegistry.live?, h.lease?]

theorem Reorders.populated (h : Reorders r r') (hr : r.Populated) : r'.Populated := by
  intro key instances hinstances
  have hrel := h.services key
  have hfilled := hr key
  rw [hinstances] at hrel
  generalize r.services.get? key = before at hrel hfilled
  cases hrel with
  | some hperm =>
    have hbefore := hfilled _ rfl
    simp only [Table.isEmpty, List.isEmpty_eq_false_iff] at hbefore ⊢
    exact fun hnil => hbefore (List.Perm.eq_nil (hnil ▸ hperm))

/-- Registries that have the same leases differ in the order of their tables only. -/
theorem reorders_of_lease? (hr : r.Populated) (hr' : r'.Populated)
    (hlease : ∀ key id, r.lease? key id = r'.lease? key id)
    (hnext : r.nextSequence = r'.nextSequence) : Reorders r r' where
  services key := by
    have hget := hlease key
    unfold LeaseRegistry.lease? at hget
    cases hs : r.services.get? key with
    | none =>
      cases hs' : r'.services.get? key with
      | none => exact .none
      | some instances =>
        -- a key with instances has a lease, which the other registry has not
        have hnone : instances.isEmpty = true :=
          Table.isEmpty_iff.2 fun id => by simpa [hs, hs'] using (hget id).symm
        simp [hr' key instances hs'] at hnone
    | some instances =>
      cases hs' : r'.services.get? key with
      | none =>
        have hnone : instances.isEmpty = true :=
          Table.isEmpty_iff.2 fun id => by simpa [hs, hs'] using hget id
        simp [hr key instances hs] at hnone
      | some instances' =>
        exact .some (Table.perm_iff.2 fun id => by simpa [hs, hs'] using hget id)
  nextSequence := hnext

/-! ## Runs -/

/-- A run of an empty registry. -/
structure Run where
  time : Nat → Instant
  write : Nat → Write
  /-- The registry before step `n`. -/
  state : Nat → LeaseRegistry
  mono : Monotone time
  starts : state 0 = empty
  steps : ∀ n, Reorders ((state n).perform (time n) (write n)).1 (state (n + 1))

/-- What comes of the write of step `n`. -/
def Run.result (r : Run) (n : Nat) : Except RegistryError Unit :=
  ((r.state n).perform (r.time n) (r.write n)).2

/-- A run given by its first writes and the time that passes before each; from then on the registry is
swept again and again. -/
def Run.ofSteps (steps : List (Span × Write)) : Run where
  time := Trace.clock steps
  write n := (steps[n]?.map Prod.snd).getD .evict
  state := Nat.rec empty fun n r =>
    (r.perform (Trace.clock steps n) ((steps[n]?.map Prod.snd).getD .evict)).1
  mono := Trace.clock_mono steps
  starts := rfl
  steps _ := .refl _

end LeaseRegistry

end ServiceBinding
