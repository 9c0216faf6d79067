import ServiceBinding.Proofs.Registry.Run
import ServiceBinding.Proofs.SharedCache.Staleness

/-!
# What a shared cache shows after a write

A write has the cache forget the key as it begins, which is before the registry carries it out. A look-up
that is on its way meanwhile may be answered with what there was before the write, and have it kept: so the
cache may go on showing what the write has taken away (`shows_deregistered`). A look-up that does not
overlap with the write cannot: what is shown after a write the registry has given after the write, or to
a look-up that was under way together with the write (`fetched_after_write`).
-/

namespace ServiceBinding

namespace SharedCache

/-! ## Steps -/

section

variable {s s' : SharedCache} {e : Event} {u : Ticket}

/-- A look-up is over when it has begun, or when its answer arrives. -/
theorem Move.answered_cases {answer : Answer} (m : Move s e s') (h : s'.stage u = .answered answer) :
    s.stage u = .answered answer ∨ (∃ key, e = .call u (.lookup key)) ∨
      e = .arrive u ∧ ∃ key start, s.stage u = .found key start answer := by
  by_cases hu : e.ticket? = some u
  · cases m with
    | passed | invalidated => cases hu
    | @served _ key =>
      obtain rfl := Option.some.inj hu
      exact .inr (.inl ⟨key, rfl⟩)
    | failed hs | kept hs =>
      obtain rfl := Option.some.inj hu
      simp only [enter, Function.update_self, Stage.answered.injEq] at h
      exact .inr (.inr ⟨rfl, _, _, h ▸ hs⟩)
    | _ =>
      obtain rfl := Option.some.inj hu
      simp [enter] at h
  · rw [m.stage_of_others hu] at h
    exact .inl h

theorem Move.started (m : Move s e s') (h : s.stage u ≠ .unstarted) : s'.stage u ≠ .unstarted := by
  by_cases hu : e.ticket? = some u
  · cases m with
    | passed | invalidated => cases hu
    | _ =>
      obtain rfl := Option.some.inj hu
      simp [enter]
  · rwa [m.stage_of_others hu]

theorem Move.of_call {q : Request} (m : Move s (.call u q) s') :
    s.stage u = .unstarted ∧ s'.stage u ≠ .unstarted := by
  cases m with
  | served hs | missed hs | refused hs | forgot hs => exact ⟨hs, by simp [enter]⟩

end

/-! ## Runs -/

namespace Run

variable {r : Run} {n m : Nat} {t : Ticket} {key : ServiceKey}

theorem started_mono (hnm : n ≤ m) (h : (r.state n).stage t ≠ .unstarted) :
    (r.state m).stage t ≠ .unstarted := by
  induction hnm with
  | refl => exact h
  | @step m _ ih => exact (r.move m).started ih

/-- A task begins once. -/
theorem call_unique {q q' : Request} (hn : r.event n = .call t q) (hm : r.event m = .call t q') :
    n = m := by
  have hbefore {i j : Nat} {q q' : Request} (hi : r.event i = .call t q) (hj : r.event j = .call t q') :
      ¬i < j := by
    intro hij
    have hstarted : (r.state (i + 1)).stage t ≠ .unstarted := (hi ▸ r.move i).of_call.2
    exact started_mono hij hstarted (hj ▸ r.move j).of_call.1
  have := hbefore hn hm
  have := hbefore hm hn
  omega

/-- What a look-up is over with was served from the cache, or given by the registry. -/
theorem exists_end {answer : Answer} (h : (r.state m).stage t = .answered answer) :
    (∃ n < m, ∃ key, r.Serves n t key answer) ∨
      ∃ key i k j, i < k ∧ k < j ∧ j < m ∧ r.event i = .call t (.lookup key) ∧
        r.event k = .answer t answer ∧ r.event j = .arrive t := by
  induction m with
  | zero =>
    rw [r.starts] at h
    cases h
  | succ m ih =>
    rcases (r.move m).answered_cases h with hbefore | ⟨key, he⟩ | ⟨he, key, start, hfound⟩
    · rcases ih hbefore with ⟨n, hn, hserves⟩ | ⟨key, i, k, j, hik, hkj, hj, hend⟩
      · exact .inl ⟨n, Nat.lt_succ_of_lt hn, hserves⟩
      · exact .inr ⟨key, i, k, j, hik, hkj, Nat.lt_succ_of_lt hj, hend⟩
    · exact .inl ⟨m, Nat.lt_succ_self m, key, he, h⟩
    · obtain ⟨i, k, hik, hk, hcall, -, hanswer⟩ := exists_answer hfound
      exact .inr ⟨key, i, k, m, hik, hk, Nat.lt_succ_self m, hcall, hanswer, he⟩

/-- A write of the key begins in step `a` and is carried out by the registry in step `b`. -/
structure Writes (r : Run) (w : Ticket) (key : ServiceKey) (a b : Nat) : Prop where
  begins : ∃ q, r.event a = .call w q ∧ q.isWrite = true ∧ q.key = .ok key
  carriedOut : r.event b = .carryOut w (.ok ())
  waits : a < b

/-- A write begins, and the cache forgets the key. -/
theorem Writes.forgets {w : Ticket} {a b : Nat} (h : r.Writes w key a b) : (r.event a).Forgets key := by
  obtain ⟨q, hcall, hwrite, hkey⟩ := h.begins
  rw [hcall]
  exact ⟨hwrite, hkey⟩

end Run

/-- What is found by a look-up that begins after a write was carried out was given by the registry; and if
the registry gave it before it carried the write out, it arrived when the write had already begun. -/
theorem fetched_after_write (r : Run) {w t : Ticket} {key : ServiceKey} {a b n m : Nat} {e : Entry}
    (hw : r.Writes w key a b) (hn : b < n) (hcall : r.event n = .call t (.lookup key))
    (hanswer : (r.state m).stage t = .answered (.ok (some e))) :
    ∃ u i k j, r.Fetches u key e i k j ∧ (k < b → a < j) := by
  rcases Run.exists_end hanswer with ⟨n', -, key', hserves⟩ | ⟨key', i, k, j, hik, hkj, -, hbegins, hend⟩
  · obtain rfl := Run.call_unique hcall hserves.1
    obtain rfl : key = key' := by
      have heq := hcall.symm.trans hserves.1
      simpa using heq
    obtain ⟨e', u, i, k, j, deadline, hsame, hfetch, hj, hsince, -⟩ := hserves.exists_fetch
    obtain rfl : e = e' := by simpa using hsame
    refine ⟨u, i, k, j, hfetch, fun _ => ?_⟩
    -- had it arrived before the write began, it would have been forgotten
    have hja : ¬j < a := fun hja => hsince a hja (Nat.lt_trans hw.waits hn) hw.forgets
    have hne : j ≠ a := by
      rintro rfl
      have harrives := hw.forgets
      rw [hfetch.arrives] at harrives
      exact harrives
    omega
  · obtain rfl := Run.call_unique hcall hbegins
    obtain rfl : key = key' := by
      have heq := hcall.symm.trans hbegins
      simpa using heq
    exact ⟨t, n, k, j, ⟨hbegins, hend.1, hend.2, hik, hkj⟩, by omega⟩

namespace Sample

/-- An instance is looked up while it is being deregistered: the look-up begins after the cache has
forgotten the key, and is answered before the registry has removed the instance. -/
def staleRun : Run :=
  .ofEvents 60
    [.call 0 (.deregister menu "a"), .call 1 (.lookup menu), .answer 1 (.ok (some (entry "a" 50))),
      .arrive 1, .carryOut 0 (.ok ()), .arrive 0, .call 2 (.lookup menu)]
    rfl

/-- A registry in which the instance is registered. -/
def registry : LeaseRegistry :=
  (LeaseRegistry.empty.perform 0 (.register { entry "a" 50 with expiresAt := none })).1

end Sample

/-- An instance that was deregistered through the cache is still served from it. The registry has answered
and written as an atomic one does, and has not been asked again since. -/
theorem shows_deregistered :
    Sample.registry.lookup 0 Sample.menu = some (Sample.entry "a" 50) ∧
      (Sample.registry.perform 0 (.deregister Sample.menu "a")).2 = .ok () ∧
      (Sample.registry.perform 0 (.deregister Sample.menu "a")).1.lookup 0 Sample.menu = none ∧
      Sample.staleRun.Writes 0 Sample.menu 0 4 ∧
      (Sample.staleRun.state 6).stage 0 = .done (.ok ()) ∧
      Sample.staleRun.Serves 6 2 Sample.menu (.ok (some (Sample.entry "a" 50))) ∧
      ∀ u answer k, Sample.staleRun.event k = .answer u answer → k = 2 := by
  refine ⟨by decide, rfl, by decide, ⟨⟨_, rfl, rfl, rfl⟩, rfl, by decide⟩, rfl, ⟨rfl, rfl⟩, ?_⟩
  intro u answer k hk
  match k with
  | 2 => rfl
  | 0 | 1 | 3 | 4 | 5 | 6 => cases hk
  | k + 7 => cases hk

end SharedCache

end ServiceBinding
