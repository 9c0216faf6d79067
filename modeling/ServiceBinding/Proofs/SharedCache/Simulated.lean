import ServiceBinding.Proofs.SharedCache.Run
import ServiceBinding.Simulation.World

/-!
# Uses of the simulated world's cache

What an application of the simulated world does through the cache is what a task does to a shared cache: a
look-up begins and, when it has come over the link, is answered and ends or breaks off; a write begins, is
carried out or refused over the link, and ends at once.
-/

namespace ServiceBinding.Simulation

open SharedCache (Stage)

namespace World

variable {w w' : World} {stage : Ticket → Stage} {t : Ticket} {key : ServiceKey}

/-- The cache of the world, with the tasks that use it. -/
def sharedCache (w : World) (stage : Ticket → Stage) : SharedCache := ⟨w.cache, w.now, stage⟩

/-- The stage of a look-up that was begun through the cache. -/
def PendingLookup.IsAt : PendingLookup → Stage → Prop
  | .answered answer, stage => stage = .answered answer
  | .onLink key _ (some start), stage => stage = .lookingUp key start
  | .onLink _ _ none, _ => False

theorem beginLookup_step (hs : stage t = .unstarted) (key : ServiceKey) :
    ∃ stage', (w.sharedCache stage).step (.call t (.lookup key)) =
        some (((w.beginLookup .cache key).1.sharedCache stage).enter t stage') ∧
      (w.beginLookup .cache key).2.IsAt stage' := by
  simp only [SharedCache.step, sharedCache, hs, SharedCache.start, SharedCache.beginLookup, beginLookup]
  rcases w.cache.serve w.now key with ⟨cache, _ | e⟩
  · exact ⟨_, rfl, rfl⟩
  · exact ⟨_, rfl, rfl⟩

/-- The stage of a look-up that has ended. -/
def endStage : Fate RegistryError (Option Entry) → Stage
  | .result answer => .answered answer
  | .broken _ => .brokenOff

/-- What has come over the link the registry has answered, and the look-up ends with it or breaks off. -/
theorem endLookup?_steps {arrival start : Instant} {fate : Fate RegistryError (Option Entry)}
    (hs : stage t = .lookingUp key start)
    (h : w.endLookup? (.onLink key arrival (some start)) = some (w', fate)) :
    ∃ answer between, (w.sharedCache stage).step (.answer t answer) = some between ∧
      between.step (.arrive t) = some ((w'.sharedCache stage).enter t (endStage fate)) ∧
      ∀ found, fate = .result found → found = answer := by
  have hanswer (answer : Found) : (w.sharedCache stage).step (.answer t answer) =
      some ((w.sharedCache stage).enter t (.found key start answer)) := by
    simp only [SharedCache.step, sharedCache, hs]
  simp only [endLookup?] at h
  split at h
  · cases h
  · split at h
    · obtain ⟨rfl, rfl⟩ := Prod.mk.inj (Option.some.inj h)
      refine ⟨_, _, hanswer (.error (.unavailable "connection refused")), ?_, fun _ he => (Fate.result.inj he).symm⟩
      simp [SharedCache.step, SharedCache.endLookup, endStage]
    · refine ⟨_, _, hanswer (.ok (w.registry.lookup w.now key)), ?_⟩
      cases hkeep : w.cache.keep? start key (w.registry.lookup w.now key) with
      | some cache =>
        simp only [hkeep] at h
        obtain ⟨rfl, rfl⟩ := Prod.mk.inj (Option.some.inj h)
        refine ⟨?_, fun _ he => (Fate.result.inj he).symm⟩
        simp [SharedCache.step, SharedCache.endLookup, sharedCache, SharedCache.enter, endStage, hkeep]
      | none =>
        simp only [hkeep] at h
        obtain ⟨rfl, rfl⟩ := Prod.mk.inj (Option.some.inj h)
        refine ⟨?_, fun _ he => by cases he⟩
        simp [SharedCache.step, SharedCache.endLookup, sharedCache, SharedCache.enter, endStage, hkeep]

/-- A write of the key, carried out or refused over the link as soon as it has begun. -/
theorem write_steps {q : SharedCache.Request} (hs : stage t = .unstarted) (hwrite : q.isWrite = true)
    (hkey : q.key = .ok key) {op : LeaseRegistry → Except RegistryError LeaseRegistry}
    {result : Except RegistryError Unit} (h : (w.forgetting key).overLink op = (w', result)) :
    Trace.admits SharedCache.step (w.sharedCache stage) [.call t q, .carryOut t result, .arrive t] = true ∧
      Trace.after SharedCache.step (w.sharedCache stage) [.call t q, .carryOut t result, .arrive t] =
        (w'.sharedCache stage).enter t (.done result) := by
  have hcall : (w.sharedCache stage).step (.call t q) =
      some (((w.forgetting key).sharedCache stage).enter t .writing) := by
    cases q with
    | lookup => cases hwrite
    | register | renew | deregister =>
      simp only [SharedCache.step, sharedCache, hs, SharedCache.start, SharedCache.beginWrite, hkey]
      rfl
  have hsame : w'.sharedCache stage = (w.forgetting key).sharedCache stage := by
    unfold overLink at h
    split at h
    · obtain ⟨rfl, -⟩ := Prod.mk.inj h
      rfl
    · split at h <;>
      · obtain ⟨rfl, -⟩ := Prod.mk.inj h
        rfl
  have hcarryOut : (((w.forgetting key).sharedCache stage).enter t .writing).step (.carryOut t result) =
      some (((w.forgetting key).sharedCache stage).enter t (.written result)) := by
    simp [SharedCache.step]
  have harrive : (((w.forgetting key).sharedCache stage).enter t (.written result)).step (.arrive t) =
      some (((w.forgetting key).sharedCache stage).enter t (.done result)) := by
    simp [SharedCache.step]
  rw [hsame]
  refine ⟨Trace.admits_cons.2 ⟨_, hcall, Trace.admits_cons.2 ⟨_, hcarryOut, ?_⟩⟩, ?_⟩
  · exact Trace.admits_cons.2 ⟨_, harrive, rfl⟩
  · rw [Trace.after_cons hcall, Trace.after_cons hcarryOut, Trace.after_cons harrive]
    rfl

end World

end ServiceBinding.Simulation
