/-!
# Finite tables

A table holds at most one value for each key, in no particular order. Main statements:
`get?_set`, `get?_erase`, `get?_filter` and `get?_map`, which say what each change does to every
look-up, and `perm_iff`: the look-ups tell everything but the order.
-/

namespace ServiceBinding

/-- A finite map as a list of pairs with distinct keys. -/
structure Table (κ : Type u) (α : Type v) where
  entries : List (κ × α)
  nodup : (entries.map Prod.fst).Nodup

namespace Table

variable {κ : Type u} {α : Type v}

def empty : Table κ α := ⟨[], List.nodup_nil⟩

instance : Inhabited (Table κ α) := ⟨empty⟩

def size (t : Table κ α) : Nat := t.entries.length

def isEmpty (t : Table κ α) : Bool := t.entries.isEmpty

def keys (t : Table κ α) : List κ := t.entries.map Prod.fst

def values (t : Table κ α) : List α := t.entries.map Prod.snd

theorem nodup_entries (t : Table κ α) : t.entries.Nodup :=
  List.Pairwise.of_map Prod.fst (fun _ _ hne he => hne (he ▸ rfl)) t.nodup

private theorem nodup_filter {entries : List (κ × α)} (p : κ × α → Bool)
    (h : (entries.map Prod.fst).Nodup) : ((entries.filter p).map Prod.fst).Nodup :=
  List.Nodup.sublist (List.Sublist.map Prod.fst List.filter_sublist) h

/-- Keeps the pairs that satisfy `p`. -/
def filter (p : κ → α → Bool) (t : Table κ α) : Table κ α :=
  ⟨t.entries.filter fun kv => p kv.1 kv.2, nodup_filter _ t.nodup⟩

/-- Changes every value, keeping its key. -/
def map (f : κ → α → α) (t : Table κ α) : Table κ α :=
  ⟨t.entries.map fun kv => (kv.1, f kv.1 kv.2), by
    have h : (t.entries.map fun kv => (kv.1, f kv.1 kv.2)).map Prod.fst =
        t.entries.map Prod.fst := by simp [List.map_map, Function.comp_def]
    rw [h]
    exact t.nodup⟩

variable [DecidableEq κ]

/-- The value paired with `key` in a list of pairs. -/
def find (key : κ) : List (κ × α) → Option α
  | [] => none
  | (k, v) :: rest => if key = k then some v else find key rest

def get? (t : Table κ α) (key : κ) : Option α := find key t.entries

def contains (t : Table κ α) (key : κ) : Bool := (t.get? key).isSome

def erase (t : Table κ α) (key : κ) : Table κ α := t.filter fun k _ => k ≠ key

/-- Sets `key` to `value`, replacing what it held. -/
def set (t : Table κ α) (key : κ) (value : α) : Table κ α :=
  ⟨(key, value) :: (t.erase key).entries, by
    refine List.nodup_cons.2 ⟨?_, (t.erase key).nodup⟩
    simp [erase, filter]⟩

/-- Changes the value of `key`, if there is one. -/
def modify (t : Table κ α) (key : κ) (f : α → α) : Table κ α :=
  t.map fun k v => if k = key then f v else v

@[simp] theorem get?_empty (key : κ) : (empty : Table κ α).get? key = none := rfl

private theorem find_filter_ne (entries : List (κ × α)) (key other : κ) :
    find other (entries.filter fun kv => decide (kv.1 ≠ key)) =
      if other = key then none else find other entries := by
  induction entries with
  | nil => simp [find]
  | cons kv rest ih =>
    obtain ⟨k, v⟩ := kv
    by_cases hk : k = key
    · subst hk
      rw [List.filter_cons_of_neg (by simp), ih]
      by_cases ho : other = k <;> simp [find, ho]
    · rw [List.filter_cons_of_pos (by simpa using hk)]
      by_cases ho : other = key
      · subst ho
        have hok : ¬ other = k := fun h => hk h.symm
        simpa [find, hok] using ih
      · by_cases hok : other = k
        · simp [find, hok, hk]
        · simp [find, ho, hok]
          simpa [ho] using ih

theorem get?_erase (t : Table κ α) (key other : κ) :
    (t.erase key).get? other = if other = key then none else t.get? other :=
  find_filter_ne t.entries key other

theorem get?_set (t : Table κ α) (key other : κ) (value : α) :
    (t.set key value).get? other = if other = key then some value else t.get? other := by
  by_cases ho : other = key
  · simp [get?, set, find, ho]
  · have := get?_erase t key other
    simp only [ho, if_false, get?] at this
    simp [get?, set, find, ho, this]

private theorem mem_iff_find {entries : List (κ × α)} (h : (entries.map Prod.fst).Nodup) (key : κ)
    (value : α) : (key, value) ∈ entries ↔ find key entries = some value := by
  induction entries with
  | nil => simp [find]
  | cons kv rest ih =>
    obtain ⟨k, v⟩ := kv
    obtain ⟨hk, hrest⟩ := List.nodup_cons.1 h
    by_cases he : key = k
    · subst he
      have hout : (key, value) ∉ rest := fun hm => hk (List.mem_map.2 ⟨_, hm, rfl⟩)
      simp [find, hout, eq_comm]
    · simp [find, he, ih hrest]

theorem mem_entries {t : Table κ α} {key : κ} {value : α} :
    (key, value) ∈ t.entries ↔ t.get? key = some value :=
  mem_iff_find t.nodup key value

theorem mem_keys {t : Table κ α} {key : κ} : key ∈ t.keys ↔ (t.get? key).isSome = true := by
  simp [keys, mem_entries, Option.isSome_iff_exists]

theorem mem_values {t : Table κ α} {value : α} : value ∈ t.values ↔ ∃ key, t.get? key = some value := by
  simp [values, mem_entries]

theorem isEmpty_iff {t : Table κ α} : t.isEmpty = true ↔ ∀ key, t.get? key = none := by
  constructor
  · intro h key
    rw [isEmpty, List.isEmpty_iff] at h
    simp [get?, h, find]
  · intro h
    rw [isEmpty, List.isEmpty_iff, List.eq_nil_iff_forall_not_mem]
    rintro ⟨key, value⟩ hm
    rw [mem_entries, h key] at hm
    cases hm

theorem get?_filter (t : Table κ α) (p : κ → α → Bool) (key : κ) :
    (t.filter p).get? key = (t.get? key).filter (p key) := by
  refine Option.ext fun value => ?_
  simp [← mem_entries, filter, Option.filter_eq_some_iff]

theorem get?_map (t : Table κ α) (f : κ → α → α) (key : κ) :
    (t.map f).get? key = (t.get? key).map (f key) := by
  refine Option.ext fun value => ?_
  rw [← mem_entries, map, List.mem_map, Option.map_eq_some_iff]
  constructor
  · rintro ⟨⟨k, v⟩, hm, he⟩
    obtain ⟨rfl, rfl⟩ := Prod.mk.inj he
    exact ⟨v, mem_entries.1 hm, rfl⟩
  · rintro ⟨v, hv, rfl⟩
    exact ⟨(key, v), mem_entries.2 hv, rfl⟩

/-- Tables that answer every look-up alike hold the same pairs, in whatever order. -/
theorem perm_iff {t t' : Table κ α} :
    t.entries.Perm t'.entries ↔ ∀ key, t.get? key = t'.get? key := by
  rw [List.perm_ext_iff_of_nodup t.nodup_entries t'.nodup_entries]
  constructor
  · intro h key
    refine Option.ext fun value => ?_
    rw [← mem_entries, ← mem_entries, h]
  · rintro h ⟨key, value⟩
    rw [mem_entries, mem_entries, h]

/-- The table of a sequence of assignments, of which the last one of a key holds. -/
def ofList (assignments : List (κ × α)) : Table κ α :=
  assignments.foldl (fun t kv => t.set kv.1 kv.2) empty

end Table

end ServiceBinding
