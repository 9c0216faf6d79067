import ServiceBinding.Data.Table
import ServiceBinding.Service.Entry

/-!
# A cache of registry look-ups

A found entry may be answered again until its lease ends, and no longer than a fixed time after the
look-up that found it began. What was not found, and an entry whose lease has no known end, is not
kept. Every write through the cache forgets the key before the write is made.

That time may be so long that the clock cannot tell when it is over. Then a look-up that misses and finds an
entry whose lease has a known end breaks off (`keep?_eq_none_iff`).

A look-up that misses waits for the registry behind the cache between `serve` and `keep?`; other
uses of the cache may come in between. What each piece does to the kept entries is stated at the end.
-/

namespace ServiceBinding

/-- A found entry and the instant from which it may no longer be answered. -/
structure CachedEntry where
  entry : Entry
  validUntil : Instant
  deriving Inhabited

/-- What look-ups found, by key. -/
structure LookupCache where
  /-- How long a found entry is answered at most. -/
  ttl : Span
  cached : Table ServiceKey CachedEntry := Table.empty
  /-- Look-ups answered from the cache. -/
  hits : Nat := 0
  /-- Look-ups passed on to the registry. -/
  misses : Nat := 0
  deriving Inhabited

namespace LookupCache

def forget (c : LookupCache) (key : ServiceKey) : LookupCache :=
  { c with cached := c.cached.erase key }

/-- Begins a look-up: the kept entry, if it may still be answered. An outdated one is forgotten. -/
def serve (c : LookupCache) (now : Instant) (key : ServiceKey) : LookupCache × Option Entry :=
  match c.cached.get? key with
  | some kept =>
    if now < kept.validUntil then ({ c with hits := c.hits + 1 }, some kept.entry)
    else ({ c.forget key with misses := c.misses + 1 }, none)
  | none => ({ c with misses := c.misses + 1 }, none)

/-- Keeps what the registry answered to a look-up that began at `start`; `none` if the clock cannot tell
until when it is to be kept. -/
def keep? (c : LookupCache) (start : Instant) (key : ServiceKey) (found : Option Entry) :
    Option LookupCache :=
  match found with
  | some e =>
    match e.expiresAt with
    | some deadline =>
      (start.after? c.ttl).map fun limit =>
        { c with cached := c.cached.set key ⟨e, min deadline limit⟩ }
    | none => some c
  | none => some c

/-! ## What is kept -/

variable {c c' : LookupCache} {now start : Instant} {key k : ServiceKey} {found : Option Entry}
  {kept : CachedEntry}

@[simp] theorem ttl_forget (c : LookupCache) (key : ServiceKey) : (c.forget key).ttl = c.ttl := rfl

@[simp] theorem ttl_serve (c : LookupCache) (now : Instant) (key : ServiceKey) :
    (c.serve now key).1.ttl = c.ttl := by
  unfold serve
  split
  · split <;> rfl
  · rfl

/-- What can become of the answer to a look-up: it is kept under the key, or there is nothing to keep. -/
theorem keep?_cases (h : c.keep? start key found = some c') :
    c' = c ∨
      ∃ e deadline, found = some e ∧ e.expiresAt = some deadline ∧
        c' = { c with cached := c.cached.set key ⟨e, min deadline (start + c.ttl)⟩ } := by
  unfold keep? at h
  split at h
  · rename_i e
    split at h
    · rename_i deadline hdeadline
      obtain ⟨limit, hlimit, rfl⟩ := Option.map_eq_some_iff.mp h
      obtain ⟨-, rfl⟩ := Instant.after?_eq_some_iff.mp hlimit
      exact .inr ⟨e, deadline, rfl, hdeadline, rfl⟩
    · exact .inl (Option.some.inj h).symm
  · exact .inl (Option.some.inj h).symm

/-- What is found cannot be kept exactly if it is an entry whose lease has a known end, and the clock ends
before the time is over for which it could be answered. -/
theorem keep?_eq_none_iff :
    c.keep? start key found = none ↔
      (∃ e deadline, found = some e ∧ e.expiresAt = some deadline) ∧ Instant.bound ≤ start + c.ttl := by
  unfold keep?
  cases found with
  | none => simp
  | some e =>
    cases hdeadline : e.expiresAt with
    | none => simp [hdeadline]
    | some deadline => simp [hdeadline, Instant.after?_eq_none_iff]

theorem ttl_keep? (h : c.keep? start key found = some c') : c'.ttl = c.ttl := by
  rcases keep?_cases h with rfl | ⟨_, _, -, -, rfl⟩ <;> rfl

theorem get?_forget (c : LookupCache) (key k : ServiceKey) :
    (c.forget key).cached.get? k = if k = key then none else c.cached.get? k :=
  c.cached.get?_erase key k

/-- A look-up is answered by what is kept, or leaves no more than was kept before. -/
theorem serve_cases (c : LookupCache) (now : Instant) (key : ServiceKey) :
    (∃ kept, c.cached.get? key = some kept ∧ now < kept.validUntil ∧
      (c.serve now key).2 = some kept.entry ∧ (c.serve now key).1.cached = c.cached) ∨
    (c.serve now key).2 = none ∧
      ∀ k kept, (c.serve now key).1.cached.get? k = some kept → c.cached.get? k = some kept := by
  unfold serve
  cases hget : c.cached.get? key with
  | none => exact .inr ⟨rfl, fun _ _ h => h⟩
  | some kept =>
    by_cases hvalid : now < kept.validUntil
    · exact .inl ⟨kept, rfl, hvalid, by simp [hvalid], by simp [hvalid]⟩
    · refine .inr ⟨by simp [hvalid], fun k kept' h => ?_⟩
      simp only [hvalid, if_false, get?_forget] at h
      split at h
      · cases h
      · exact h

/-- What is kept of a look-up ends with the lease of the entry found, and a fixed time after the look-up
began. -/
theorem get?_keep? (h : c.keep? start key found = some c') (hkept : c'.cached.get? k = some kept) :
    c.cached.get? k = some kept ∨
      k = key ∧ found = some kept.entry ∧
        ∃ deadline, kept.entry.expiresAt = some deadline ∧
          kept.validUntil = min deadline (start + c.ttl) := by
  rcases keep?_cases h with rfl | ⟨e, deadline, rfl, hdeadline, rfl⟩
  · exact .inl hkept
  · rw [Table.get?_set] at hkept
    split at hkept
    · rename_i hk
      obtain rfl := Option.some.inj hkept
      exact .inr ⟨hk, rfl, deadline, hdeadline, rfl⟩
    · exact .inl hkept

end LookupCache

end ServiceBinding
