/-!
# Association lists ordered by key

Lists of pairs with strictly increasing text keys. Two ordered lists that answer every look-up
alike are equal, so they are a canonical form of finite maps from texts. Main statements:
`lookup_insert`, `lookup_erase`, `Sorted.insert`, `Sorted.erase` and `Sorted.ext`.
-/

namespace ServiceBinding.Ordered

variable {α : Type u}

/-- The keys increase strictly, hence are distinct. -/
def Sorted (entries : List (String × α)) : Prop :=
  entries.Pairwise fun a b => a.1 < b.1

def lookup (key : String) : List (String × α) → Option α
  | [] => none
  | (k, v) :: rest => if key = k then some v else lookup key rest

/-- Sets `key` to `value` at its place in the order. -/
def insert (key : String) (value : α) : List (String × α) → List (String × α)
  | [] => [(key, value)]
  | (k, v) :: rest =>
    if key = k then (key, value) :: rest
    else if key < k then (key, value) :: (k, v) :: rest
    else (k, v) :: insert key value rest

def erase (key : String) : List (String × α) → List (String × α)
  | [] => []
  | (k, v) :: rest => if key = k then erase key rest else (k, v) :: erase key rest

/-- The ordered list of a sequence of assignments, of which the last one of a key holds. -/
def ofList (assignments : List (String × α)) : List (String × α) :=
  assignments.foldl (fun acc kv => insert kv.1 kv.2 acc) []

theorem lookup_insert (key other : String) (value : α) (entries : List (String × α)) :
    lookup other (insert key value entries) =
      if other = key then some value else lookup other entries := by
  induction entries with
  | nil => simp [insert, lookup]
  | cons entry rest ih =>
    obtain ⟨k, v⟩ := entry
    by_cases hk : key = k
    · subst hk
      by_cases ho : other = key <;> simp [insert, lookup, ho]
    · by_cases hlt : key < k
      · by_cases ho : other = key <;> simp [insert, lookup, hk, hlt, ho]
      · by_cases ho : other = key
        · subst ho
          simp [insert, lookup, hk, hlt, ih]
        · by_cases hok : other = k <;> simp [insert, lookup, hk, hlt, hok, ih, ho]
          intro h
          exact absurd h.symm hk

theorem lookup_erase (key other : String) (entries : List (String × α)) :
    lookup other (erase key entries) = if other = key then none else lookup other entries := by
  induction entries with
  | nil => simp [erase, lookup]
  | cons entry rest ih =>
    obtain ⟨k, v⟩ := entry
    by_cases hk : key = k
    · subst hk
      by_cases ho : other = key
      · subst ho
        simpa [erase] using ih
      · simp [erase, lookup, ho, ih]
    · by_cases ho : other = key
      · subst ho
        simp [erase, lookup, hk, ih]
      · by_cases hok : other = k <;> simp [erase, lookup, hk, hok, ih, ho]
        intro h
        exact absurd h.symm hk

private theorem mem_insert {key : String} {value : α} {entries : List (String × α)}
    {x : String × α} (h : x ∈ insert key value entries) : x = (key, value) ∨ x ∈ entries := by
  induction entries with
  | nil => exact Or.inl (by simpa [insert] using h)
  | cons entry rest ih =>
    obtain ⟨k, v⟩ := entry
    simp only [insert] at h
    split at h
    · rcases List.mem_cons.1 h with h | h
      · exact Or.inl h
      · exact Or.inr (List.mem_cons_of_mem _ h)
    · split at h
      · rcases List.mem_cons.1 h with h | h
        · exact Or.inl h
        · exact Or.inr h
      · rcases List.mem_cons.1 h with h | h
        · exact Or.inr (h ▸ List.mem_cons_self)
        · rcases ih h with h | h
          · exact Or.inl h
          · exact Or.inr (List.mem_cons_of_mem _ h)

private theorem mem_erase {key : String} {entries : List (String × α)} {x : String × α}
    (h : x ∈ erase key entries) : x ∈ entries := by
  induction entries with
  | nil => simp [erase] at h
  | cons entry rest ih =>
    obtain ⟨k, v⟩ := entry
    simp only [erase] at h
    split at h
    · exact List.mem_cons_of_mem _ (ih h)
    · rcases List.mem_cons.1 h with h | h
      · exact h ▸ List.mem_cons_self
      · exact List.mem_cons_of_mem _ (ih h)

theorem Sorted.nil : Sorted ([] : List (String × α)) := List.Pairwise.nil

theorem Sorted.insert {entries : List (String × α)} (key : String) (value : α)
    (h : Sorted entries) : Sorted (insert key value entries) := by
  induction entries with
  | nil => simp [Ordered.insert, Sorted]
  | cons entry rest ih =>
    obtain ⟨k, v⟩ := entry
    obtain ⟨hhead, htail⟩ := List.pairwise_cons.1 h
    by_cases hk : key = k
    · subst hk
      simpa [Ordered.insert, Sorted] using List.pairwise_cons.2 ⟨hhead, htail⟩
    · by_cases hlt : key < k
      · simp only [Ordered.insert, hk, hlt, if_true, if_false]
        refine List.pairwise_cons.2 ⟨?_, h⟩
        intro x hx
        rcases List.mem_cons.1 hx with rfl | hx
        · exact hlt
        · exact String.lt_trans hlt (hhead x hx)
      · simp only [Ordered.insert, hk, hlt, if_false]
        refine List.pairwise_cons.2 ⟨?_, ih htail⟩
        intro x hx
        rcases mem_insert hx with rfl | hx
        · by_cases hkk : k < key
          · exact hkk
          · exact absurd (String.le_antisymm hkk hlt) hk
        · exact hhead x hx

theorem Sorted.erase {entries : List (String × α)} (key : String) (h : Sorted entries) :
    Sorted (erase key entries) := by
  induction entries with
  | nil => simpa [Ordered.erase] using h
  | cons entry rest ih =>
    obtain ⟨k, v⟩ := entry
    obtain ⟨hhead, htail⟩ := List.pairwise_cons.1 h
    simp only [Ordered.erase]
    split
    · exact ih htail
    · exact List.pairwise_cons.2 ⟨fun x hx => hhead x (mem_erase hx), ih htail⟩

private theorem lookup_eq_none_of_lt {entries : List (String × α)} {key : String}
    (h : ∀ x ∈ entries, key < x.1) : lookup key entries = none := by
  induction entries with
  | nil => rfl
  | cons entry rest ih =>
    obtain ⟨k, v⟩ := entry
    have hk : key < k := h (k, v) List.mem_cons_self
    have hne : key ≠ k := fun he => String.lt_irrefl k (he ▸ hk)
    simp only [lookup, hne, if_false]
    exact ih fun x hx => h x (List.mem_cons_of_mem _ hx)

/-- Ordered lists are determined by their look-ups. -/
theorem Sorted.ext {a b : List (String × α)} (ha : Sorted a) (hb : Sorted b)
    (h : ∀ key, lookup key a = lookup key b) : a = b := by
  induction a generalizing b with
  | nil =>
    cases b with
    | nil => rfl
    | cons entry rest => simpa [lookup] using h entry.1
  | cons x xs ih =>
    obtain ⟨k, v⟩ := x
    cases b with
    | nil => simpa [lookup] using h k
    | cons y ys =>
      obtain ⟨l, w⟩ := y
      obtain ⟨hka, hta⟩ := List.pairwise_cons.1 ha
      obtain ⟨hlb, htb⟩ := List.pairwise_cons.1 hb
      have hkl : k = l := by
        by_cases h1 : k < l
        · have := h k
          have hnone : lookup k ((l, w) :: ys) = none := lookup_eq_none_of_lt fun x hx => by
            rcases List.mem_cons.1 hx with rfl | hx
            · exact h1
            · exact String.lt_trans h1 (hlb x hx)
          rw [hnone] at this
          simp [lookup] at this
        · by_cases h2 : l < k
          · have := h l
            have hnone : lookup l ((k, v) :: xs) = none := lookup_eq_none_of_lt fun x hx => by
              rcases List.mem_cons.1 hx with rfl | hx
              · exact h2
              · exact String.lt_trans h2 (hka x hx)
            rw [hnone] at this
            simp [lookup] at this
          · exact String.le_antisymm h2 h1
      subst hkl
      have hv : v = w := by simpa [lookup] using h k
      subst hv
      congr 1
      refine ih hta htb fun key => ?_
      by_cases hkey : key = k
      · subst hkey
        rw [lookup_eq_none_of_lt hka, lookup_eq_none_of_lt hlb]
      · simpa [lookup, hkey] using h key

theorem sorted_foldl_insert (assignments : List (String × α)) {acc : List (String × α)}
    (h : Sorted acc) : Sorted (assignments.foldl (fun acc kv => insert kv.1 kv.2 acc) acc) := by
  induction assignments generalizing acc with
  | nil => exact h
  | cons kv rest ih => exact ih (h.insert kv.1 kv.2)

theorem sorted_ofList (assignments : List (String × α)) : Sorted (ofList assignments) :=
  sorted_foldl_insert assignments Sorted.nil

theorem sorted_of_keys {entries : List (String × α)} (h : (entries.map Prod.fst).Pairwise (· < ·)) :
    Sorted entries := List.pairwise_map.1 h

theorem insert_of_lt {key k : String} (h : key < k) (value v : α) (rest : List (String × α)) :
    insert key value ((k, v) :: rest) = (key, value) :: (k, v) :: rest := by
  rw [insert, if_neg (String.ne_of_lt h), if_pos h]

theorem insert_of_forall_lt {key : String} {entries : List (String × α)}
    (h : ∀ k ∈ entries.map Prod.fst, k < key) (value : α) :
    insert key value entries = entries ++ [(key, value)] := by
  induction entries with
  | nil => rfl
  | cons entry rest ih =>
    obtain ⟨k, v⟩ := entry
    have hk : k < key := h k List.mem_cons_self
    have hne : key ≠ k := fun he => String.lt_irrefl k (he ▸ hk)
    have hge : ¬key < k := fun hlt => String.lt_irrefl k (String.lt_trans hk hlt)
    rw [insert, if_neg hne, if_neg hge, ih fun x hx => h x (List.mem_cons_of_mem _ hx)]
    rfl

theorem foldl_insert_of_sorted (acc : List (String × α)) {rest : List (String × α)} (h : Sorted (acc ++ rest)) :
    rest.foldl (fun acc kv => insert kv.1 kv.2 acc) acc = acc ++ rest := by
  induction rest generalizing acc with
  | nil => simp
  | cons kv rest ih =>
    have hlt : ∀ k ∈ acc.map Prod.fst, k < kv.1 := List.forall_mem_map.2 fun x hx =>
      (List.pairwise_append.1 h).2.2 x hx kv List.mem_cons_self
    rw [List.append_cons] at h
    rw [List.foldl_cons, insert_of_forall_lt hlt, ih _ h, List.append_assoc]
    rfl

theorem lookup_eq_none {key : String} {entries : List (String × α)}
    (h : key ∉ entries.map Prod.fst) : lookup key entries = none := by
  induction entries with
  | nil => rfl
  | cons entry rest ih =>
    obtain ⟨hne, hrest⟩ := not_or.1 (mt List.mem_cons.2 h)
    rw [lookup, if_neg hne, ih hrest]

theorem lookup_map {β : Type v} (f : α → β) (key : String) (entries : List (String × α)) :
    lookup key (entries.map fun kv => (kv.1, f kv.2)) = (lookup key entries).map f := by
  induction entries with
  | nil => rfl
  | cons entry rest ih =>
    rw [List.map_cons, lookup, lookup, ih]
    split <;> rfl

theorem Sorted.map {β : Type v} {entries : List (String × α)} (h : Sorted entries) (f : α → β) :
    Sorted (entries.map fun kv => (kv.1, f kv.2)) := List.pairwise_map.2 h

theorem Sorted.nodup {entries : List (String × α)} (h : Sorted entries) :
    (entries.map Prod.fst).Nodup :=
  List.pairwise_map.2 (List.Pairwise.imp (fun hlt => String.ne_of_lt hlt) h)

theorem ofList_pair {key k : String} (h : key < k) (value v : α) :
    ofList [(k, v), (key, value)] = [(key, value), (k, v)] := insert_of_lt h value v []

theorem ofList_concat (entries : List (String × α)) (key : String) (value : α) :
    ofList (entries ++ [(key, value)]) = insert key value (ofList entries) := by
  rw [ofList, List.foldl_append]
  rfl

/-- An ordered list is its own ordered list. -/
theorem ofList_of_sorted {entries : List (String × α)} (h : Sorted entries) :
    ofList entries = entries := by
  rw [ofList, foldl_insert_of_sorted [] h, List.nil_append]

end ServiceBinding.Ordered
