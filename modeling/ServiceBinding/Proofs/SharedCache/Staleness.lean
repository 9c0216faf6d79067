import ServiceBinding.Proofs.SharedCache.Run

/-!
# How stale an answer of a shared cache can be

What is kept under a key was found by one look-up of that key, begun when the clock of the entry starts
(`Run.exists_fetch`); whatever overlaps with that look-up, and in whatever order answers arrive, an entry
is kept with the clock of its own look-up and is gone with the next event that has the key forgotten. So
what is served is never older than the cache allows (`bounded_staleness`).
-/

namespace ServiceBinding

namespace SharedCache

/-! ## Steps -/

section

variable {s s' : SharedCache} {e : Event} {u : Ticket} {key : ServiceKey} {start : Instant}

theorem Move.ttl (m : Move s e s') : s'.cache.ttl = s.cache.ttl := by
  cases m with
  | served _ _ _ _ httl | missed _ _ httl => exact httl
  | kept _ hkeep => exact LookupCache.ttl_keep? hkeep
  | _ => rfl

theorem Move.now (m : Move s e s') : s.now ≤ s'.now := by
  cases m with
  | passed d => exact Nat.le_add_right _ _
  | _ => exact Nat.le_refl _

theorem Move.stage_of_others (m : Move s e s') (h : e.ticket? ≠ some u) : s'.stage u = s.stage u := by
  cases m with
  | passed | invalidated => rfl
  | _ => exact Function.update_of_ne (fun hu => h (congrArg some hu.symm)) _ _

/-- A look-up waits for the registry since it began. -/
theorem Move.lookingUp (m : Move s e s') (h : s'.stage u = .lookingUp key start) :
    s.stage u = .lookingUp key start ∨ e = .call u (.lookup key) ∧ start = s.now := by
  by_cases hu : e.ticket? = some u
  · cases m with
    | passed | invalidated => cases hu
    | missed =>
      obtain rfl := Option.some.inj hu
      simp only [enter, Function.update_self, Stage.lookingUp.injEq] at h
      obtain ⟨rfl, rfl⟩ := h
      exact .inr ⟨rfl, rfl⟩
    | _ =>
      obtain rfl := Option.some.inj hu
      simp [enter] at h
  · rw [m.stage_of_others hu] at h
    exact .inl h

/-- An answer is on its way since the registry gave it. -/
theorem Move.found {answer : Answer} (m : Move s e s') (h : s'.stage u = .found key start answer) :
    s.stage u = .found key start answer ∨
      e = .answer u answer ∧ s.stage u = .lookingUp key start := by
  by_cases hu : e.ticket? = some u
  · cases m with
    | passed | invalidated => cases hu
    | answered hs =>
      obtain rfl := Option.some.inj hu
      simp only [enter, Function.update_self, Stage.found.injEq] at h
      obtain ⟨rfl, rfl, rfl⟩ := h
      exact .inr ⟨rfl, hs⟩
    | _ =>
      obtain rfl := Option.some.inj hu
      simp [enter] at h
  · rw [m.stage_of_others hu] at h
    exact .inl h

/-- What is kept was kept before, or is what has just arrived. -/
theorem Move.cached {kept : CachedEntry} (m : Move s e s')
    (h : s'.cache.cached.get? key = some kept) :
    s.cache.cached.get? key = some kept ∧ ¬e.Forgets key ∨
      ∃ u start deadline, e = .arrive u ∧ s.stage u = .found key start (.ok (some kept.entry)) ∧
        kept.entry.expiresAt = some deadline ∧
        kept.validUntil = min deadline (start + s.cache.ttl) := by
  cases m with
  | passed | carriedOut | answered | failed | brokeOff | told | dropped => exact .inl ⟨h, id⟩
  | served _ _ _ hcached =>
    refine .inl ⟨?_, fun hf => Bool.noConfusion hf.1⟩
    rw [← hcached]
    exact h
  | missed _ hcached => exact .inl ⟨hcached key kept h, fun hf => Bool.noConfusion hf.1⟩
  | refused _ _ hkey => exact .inl ⟨h, fun hf => by cases hkey.symm.trans hf.2⟩
  | forgot _ _ hkey =>
    simp only [enter, LookupCache.get?_forget] at h
    split at h
    · cases h
    · rename_i hk
      exact .inl ⟨h, fun hf => hk (Except.ok.inj (hf.2.symm.trans hkey))⟩
  | invalidated k =>
    simp only [LookupCache.get?_forget] at h
    split at h
    · cases h
    · rename_i hk
      exact .inl ⟨h, fun hf => hk hf.symm⟩
  | kept hs hkeep =>
    rcases LookupCache.get?_keep? hkeep h with h | ⟨rfl, rfl, deadline, hdeadline, hvalid⟩
    · exact .inl ⟨h, id⟩
    · exact .inr ⟨_, _, deadline, rfl, hs, hdeadline, hvalid⟩

/-- A look-up that is over as soon as it has begun was answered from the cache. -/
theorem Move.of_served {answer : Answer} (m : Move s (.call u (.lookup key)) s')
    (h : s'.stage u = .answered answer) :
    ∃ kept, s.cache.cached.get? key = some kept ∧ s.now < kept.validUntil ∧
      answer = .ok (some kept.entry) := by
  cases m with
  | @served _ _ kept _ hkept hvalid =>
    simp only [enter, Function.update_self, Stage.answered.injEq] at h
    exact ⟨kept, hkept, hvalid, h.symm⟩
  | missed => simp [enter] at h
  | refused _ hw | forgot _ hw => cases hw

end

/-! ## Runs -/

namespace Run

variable {r : Run} {n : Nat} {u : Ticket} {key : ServiceKey} {start : Instant}

theorem move (r : Run) (n : Nat) : Move (r.state n) (r.event n) (r.state (n + 1)) :=
  step_move (r.steps n)

theorem ttl_eq (r : Run) (n : Nat) : (r.state n).cache.ttl = r.ttl := by
  induction n with
  | zero => rw [r.starts]; rfl
  | succ n ih => rw [(r.move n).ttl, ih]

theorem now_mono (r : Run) : Monotone fun n => (r.state n).now :=
  monotone_nat_of_le_succ fun n => (r.move n).now

/-- In step `n` a look-up begins, and is over at once: it is served from the cache. -/
def Serves (r : Run) (n : Nat) (t : Ticket) (key : ServiceKey) (answer : Answer) : Prop :=
  r.event n = .call t (.lookup key) ∧ (r.state (n + 1)).stage t = .answered answer

/-- A look-up of the key begins in step `i`, is answered by the registry in step `k` with the entry, and
ends in step `j`. -/
structure Fetches (r : Run) (u : Ticket) (key : ServiceKey) (e : Entry) (i k j : Nat) : Prop where
  begins : r.event i = .call u (.lookup key)
  answered : r.event k = .answer u (.ok (some e))
  arrives : r.event j = .arrive u
  waits : i < k
  returns : k < j

theorem exists_call (h : (r.state n).stage u = .lookingUp key start) :
    ∃ i < n, r.event i = .call u (.lookup key) ∧ (r.state i).now = start := by
  induction n with
  | zero =>
    rw [r.starts] at h
    cases h
  | succ n ih =>
    rcases (r.move n).lookingUp h with h | ⟨he, hstart⟩
    · obtain ⟨i, hi, hcall⟩ := ih h
      exact ⟨i, Nat.lt_succ_of_lt hi, hcall⟩
    · exact ⟨n, Nat.lt_succ_self n, he, hstart.symm⟩

theorem exists_answer {answer : Answer} (h : (r.state n).stage u = .found key start answer) :
    ∃ i k, i < k ∧ k < n ∧ r.event i = .call u (.lookup key) ∧ (r.state i).now = start ∧
      r.event k = .answer u answer := by
  induction n with
  | zero =>
    rw [r.starts] at h
    cases h
  | succ n ih =>
    rcases (r.move n).found h with h | ⟨he, hstage⟩
    · obtain ⟨i, k, hik, hk, hcall⟩ := ih h
      exact ⟨i, k, hik, Nat.lt_succ_of_lt hk, hcall⟩
    · obtain ⟨i, hi, hcall, hstart⟩ := exists_call hstage
      exact ⟨i, n, hi, Nat.lt_succ_self n, hcall, hstart, he⟩

/-- What is kept was fetched by a look-up, from whose beginning its time is counted, and nothing has had
the key forgotten since it arrived. -/
theorem exists_fetch {kept : CachedEntry} (h : (r.state n).cache.cached.get? key = some kept) :
    ∃ u i k j deadline, r.Fetches u key kept.entry i k j ∧ j < n ∧
      (∀ m, j < m → m < n → ¬(r.event m).Forgets key) ∧ kept.entry.expiresAt = some deadline ∧
      kept.validUntil = min deadline ((r.state i).now + r.ttl) := by
  induction n with
  | zero =>
    rw [r.starts] at h
    cases h
  | succ n ih =>
    rcases (r.move n).cached h with ⟨h, hforgets⟩ | ⟨u, start, deadline, he, hstage, hdeadline, hvalid⟩
    · obtain ⟨u, i, k, j, deadline, hfetch, hj, hkept, hvalid⟩ := ih h
      refine ⟨u, i, k, j, deadline, hfetch, Nat.lt_succ_of_lt hj, fun m hjm hm => ?_, hvalid⟩
      rcases Nat.lt_succ_iff_lt_or_eq.mp hm with hm | rfl
      · exact hkept m hjm hm
      · exact hforgets
    · obtain ⟨i, k, hik, hk, hcall, rfl, hanswer⟩ := exists_answer hstage
      rw [r.ttl_eq] at hvalid
      refine ⟨u, i, k, n, deadline, ⟨hcall, hanswer, he, hik, hk⟩, Nat.lt_succ_self n, ?_, hdeadline, hvalid⟩
      intro m hnm hm
      omega

/-- What is served from the cache was fetched before, and may still be served. -/
theorem Serves.exists_fetch {t : Ticket} {answer : Answer} (h : r.Serves n t key answer) :
    ∃ e u i k j deadline, answer = .ok (some e) ∧ r.Fetches u key e i k j ∧ j < n ∧
      (∀ m, j < m → m < n → ¬(r.event m).Forgets key) ∧ e.expiresAt = some deadline ∧
      (r.state n).now < min deadline ((r.state i).now + r.ttl) := by
  obtain ⟨he, hstage⟩ := h
  have hmove := r.move n
  rw [he] at hmove
  obtain ⟨kept, hkept, hvalid, rfl⟩ := hmove.of_served hstage
  obtain ⟨u, i, k, j, deadline, hfetch, hj, hsince, hdeadline, huntil⟩ := Run.exists_fetch hkept
  rw [huntil] at hvalid
  exact ⟨kept.entry, u, i, k, j, deadline, rfl, hfetch, hj, hsince, hdeadline, hvalid⟩

end Run

/-! ## What is served -/

/-- **Bounded staleness.** What is served from the cache is an entry whose lease has a known end that has
not come, and no failure and no empty answer. The registry gave it to a look-up of the same key that began
no later than now and less than the time to live ago; and since it arrived no write of the key through the
cache has begun, nor has the key been invalidated. -/
theorem bounded_staleness (r : Run) {n : Nat} {t : Ticket} {key : ServiceKey} {answer : Answer}
    (h : r.Serves n t key answer) :
    ∃ e deadline u i k j, answer = .ok (some e) ∧
      e.expiresAt = some deadline ∧ (r.state n).now < deadline ∧
      r.Fetches u key e i k j ∧ j < n ∧
      (r.state i).now ≤ (r.state n).now ∧ (r.state n).now < (r.state i).now + r.ttl ∧
      ∀ m, j < m → m < n → ¬(r.event m).Forgets key := by
  obtain ⟨e, u, i, k, j, deadline, hanswer, hfetch, hj, hsince, hdeadline, hvalid⟩ := h.exists_fetch
  obtain ⟨hlease, hfresh⟩ := Nat.lt_min.mp hvalid
  have hin : i ≤ n := by
    have := hfetch.waits
    have := hfetch.returns
    omega
  exact ⟨e, deadline, u, i, k, j, hanswer, hdeadline, hlease, hfetch, hj, r.now_mono hin, hfresh, hsince⟩

namespace Sample

/-- Two look-ups of a key overlap, and the one that began first arrives last. What it found is kept. -/
def overlappingRun : Run :=
  .ofEvents 60
    [.call 0 (.lookup menu), .pass 10, .call 1 (.lookup menu), .answer 0 (.ok (some (entry "a" 50))),
      .answer 1 (.ok (some (entry "b" 90))), .arrive 1, .pass 10, .arrive 0, .pass 10,
      .call 2 (.lookup menu)]
    rfl

end Sample

theorem bounded_staleness_overlappingRun :
    Sample.overlappingRun.Serves 9 2 Sample.menu (.ok (some (Sample.entry "a" 50))) ∧
      ∃ e deadline u i k j, (.ok (some (Sample.entry "a" 50)) : Answer) = .ok (some e) ∧
        e.expiresAt = some deadline ∧ 30 < deadline ∧
        Sample.overlappingRun.Fetches u Sample.menu e i k j ∧ j < 9 ∧
        (Sample.overlappingRun.state i).now ≤ 30 ∧ 30 < (Sample.overlappingRun.state i).now + 60 ∧
        ∀ m, j < m → m < 9 → ¬(Sample.overlappingRun.event m).Forgets Sample.menu := by
  have hserves : Sample.overlappingRun.Serves 9 2 Sample.menu (.ok (some (Sample.entry "a" 50))) :=
    ⟨rfl, rfl⟩
  exact ⟨hserves, bounded_staleness Sample.overlappingRun hserves⟩

end SharedCache

end ServiceBinding
