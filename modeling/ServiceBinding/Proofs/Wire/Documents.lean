import ServiceBinding.Json.Decode

/-!
# Values as documents

A value is read by way of its document. The document of a value stands for that value again
(`toValue?_ofValue`), since the fields of an object are in order, each name once; and a record finds in the
document of an object what the object has under each of its names (`record?_ofValue`).
-/

namespace ServiceBinding.Json

namespace Document

theorem ofItems_eq_map (items : List Value) : ofItems items = items.map ofValue := by
  induction items with
  | nil => rfl
  | cons v rest ih => rw [ofItems, ih, List.map_cons]

theorem ofFields_eq_map (fields : List (String × Value)) :
    ofFields fields = (fields.map fun kv => (kv.1, ofValue kv.2)).map fun kv => (some kv.1, kv.2) := by
  induction fields with
  | nil => rfl
  | cons kv rest ih =>
    obtain ⟨name, v⟩ := kv
    rw [ofFields, ih]
    rfl

/-! ## There and back -/

mutual

theorem toValue?_ofValue : (v : Value) → v.Canonical → (ofValue v).toValue? = some v
  | .null, _ | .bool _, _ | .number _, _ | .string _, _ => rfl
  | .array items, h => by
    rw [ofValue, toValue?, itemsToValues?_ofItems items h]
    rfl
  | .object fields, ⟨hsorted, h⟩ => by
    -- the fields are in order already, and reading puts them in order once more
    rw [ofValue, toValue?, fieldsToValues?_ofFields fields h, Option.map_some, Value.ofFields,
      Ordered.ofList_of_sorted hsorted]

theorem itemsToValues?_ofItems : (items : List Value) → Value.CanonicalItems items →
    itemsToValues? (ofItems items) = some items
  | [], _ => rfl
  | v :: rest, ⟨hv, hrest⟩ => by
    rw [ofItems, itemsToValues?, toValue?_ofValue v hv, itemsToValues?_ofItems rest hrest]

theorem fieldsToValues?_ofFields : (fields : List (String × Value)) → Value.CanonicalFields fields →
    fieldsToValues? (ofFields fields) = some fields
  | [], _ => rfl
  | (name, v) :: rest, ⟨hv, hrest⟩ => by
    simp only [ofFields, fieldsToValues?, toValue?_ofValue v hv, fieldsToValues?_ofFields rest hrest]

end

/-! ## Typed readings -/

/-- A list whose items are written and read one by one. -/
theorem list?_ofValue {α : Type u} {read : Document → Option α} {write : α → Value} {xs : List α}
    (h : ∀ x ∈ xs, read (ofValue (write x)) = some x) :
    (ofValue (.array (xs.map write))).list? read = some xs := by
  rw [ofValue, ofItems_eq_map, List.map_map]
  show (xs.map (ofValue ∘ write)).mapM read = some xs
  induction xs with
  | nil => rfl
  | cons x xs ih =>
    obtain ⟨hfirst, hrest⟩ := List.forall_mem_cons.1 h
    rw [List.map_cons, List.mapM_cons, ih hrest]
    simp [hfirst]

/-- A map whose values are written and read one by one. -/
theorem map?_ofValue {α : Type} {read : Document → Option α} {write : α → Value}
    {entries : List (String × α)} (hsorted : Ordered.Sorted entries)
    (h : ∀ kv ∈ entries, read (ofValue (write kv.2)) = some kv.2) :
    (ofValue (.object (entries.map fun kv => (kv.1, write kv.2)))).map? read = some entries := by
  have hread : ∀ fields : List (String × α), (∀ kv ∈ fields, read (ofValue (write kv.2)) = some kv.2) →
      (ofFields (fields.map fun kv => (kv.1, write kv.2))).mapM (fun field => do
        let name ← field.1
        let value ← read field.2
        return (name, value)) = some fields := by
    intro fields hfields
    induction fields with
    | nil => rfl
    | cons kv rest ih =>
      obtain ⟨hfirst, hrest⟩ := List.forall_mem_cons.1 hfields
      rw [List.map_cons, ofFields, List.mapM_cons, ih hrest]
      simp [hfirst]
  rw [ofValue, map?, hread entries h, Option.map_some, Ordered.ofList_of_sorted hsorted]

theorem natBelow?_nat {bound n : Nat} (h : n < bound) : (ofValue (.nat n)).natBelow? bound = some n := by
  simp only [ofValue, Value.nat, natBelow?, intWithin?, int?, Number.toInt?, Option.filter]
  rw [if_pos (by simpa using h), Option.map_some, Int.toNat_natCast]

theorem option_ofValue_nat {α : Type u} (read : Document → Option α) (n : Nat) :
    (ofValue (.nat n)).option read = (read (ofValue (.nat n))).map some := by
  rw [Value.nat, ofValue, option]
  exact nofun

/-! ## Records -/

/-- What a record finds in an object under a name of its own. -/
def slot (fields : List (String × Value)) (name : String) : Slot :=
  slotOf (fields.map fun kv => (kv.1, ofValue kv.2)) name

theorem slot_eq_given {fields : List (String × Value)} {name : String} {v : Value}
    (h : Ordered.lookup name fields = some v) : slot fields name = .given (ofValue v) := by
  rw [slot, slotOf, Ordered.lookup_map, h]
  rfl

theorem slot_eq_omitted {fields : List (String × Value)} {name : String}
    (h : Ordered.lookup name fields = none) : slot fields name = .omitted := by
  rw [slot, slotOf, Ordered.lookup_map, h]
  rfl

theorem slot_insert (fields : List (String × Value)) (name other : String) (v : Value) :
    slot (Ordered.insert name v fields) other =
      if other = name then .given (ofValue v) else slot fields other := by
  by_cases h : other = name
  · rw [if_pos h, slot_eq_given]
    rw [Ordered.lookup_insert, if_pos h]
  · rw [if_neg h, slot, slot, slotOf, slotOf, Ordered.lookup_map, Ordered.lookup_map,
      Ordered.lookup_insert, if_neg h]

theorem record?_ofValue (names : List String) {fields : List (String × Value)}
    (h : Ordered.Sorted fields) :
    (ofValue (.object fields)).record? {} names =
      some fun name => if name ∈ names then slot fields name else .omitted := by
  rw [ofValue, ofFields_eq_map, record?_object (h.map ofValue).nodup]
  rfl

end Document

end ServiceBinding.Json
