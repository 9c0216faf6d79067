import ServiceBinding.Json.Document

/-!
# Typed readings of documents

A reading takes a document to a value of a type or refuses it. Integers are read from integers
only; an option reads null as absent; a record is read from an object, where a name stands at most
once, or from an array of its fields in their order.
-/

namespace ServiceBinding.Json

/-- How a record is read. -/
structure RecordRules where
  /-- Whether fields of other names are passed over rather than refused. -/
  unknownFields : Bool := true
  /-- Whether items after the last field are passed over rather than refused. -/
  surplusItems : Bool := false

/-- What a document holds for one field of a record. -/
inductive Slot
  | given (d : Document)
  /-- The object has no such field. -/
  | omitted
  /-- The array ends before the field. -/
  | short

namespace Document

def string? : Document → Option String
  | .string s => some s
  | _ => none

def bool? : Document → Option Bool
  | .bool b => some b
  | _ => none

def int? : Document → Option Int
  | .number n => n.toInt?
  | _ => none

/-- An integer from `low` up to but not including `bound`. -/
def intWithin? (low bound : Int) (d : Document) : Option Int :=
  d.int?.filter fun i => low ≤ i ∧ i < bound

/-- A natural number below `bound`. -/
def natBelow? (bound : Nat) (d : Document) : Option Nat :=
  (d.intWithin? 0 bound).map Int.toNat

def option (read : Document → Option α) : Document → Option (Option α)
  | .null => some none
  | d => (read d).map some

def items? : Document → Option (List Document)
  | .array ds => some ds
  | _ => none

/-- A list whose items all read. -/
def list? (read : Document → Option α) (d : Document) : Option (List α) :=
  d.items?.bind fun ds => ds.mapM read

/-- The fields of an object with any names, in the order of the names; the last one of a name
holds. -/
def map? (read : Document → Option α) : Document → Option (List (String × α))
  | .object fields =>
    (fields.mapM fun (field : Option String × Document) => do
      let name ← field.1
      let value ← read field.2
      return (name, value)).map Ordered.ofList
  | _ => none

private def objectSlots (rules : RecordRules) (names : List String)
    (seen : List (String × Document)) :
    List (Option String × Document) → Option (List (String × Document))
  | [] => some seen
  | (name, d) :: rest =>
    match name with
    | none => none
    | some name =>
      if names.contains name then
        if seen.any fun s => s.1 = name then none
        else objectSlots rules names ((name, d) :: seen) rest
      else if rules.unknownFields then objectSlots rules names seen rest
      else none

/-- The slots of a record with the given field names. -/
def record? (rules : RecordRules) (names : List String) : Document → Option (String → Slot)
  | .object fields =>
    (objectSlots rules names [] fields).map fun seen name =>
      match seen.find? fun s => s.1 = name with
      | some (_, d) => .given d
      | none => .omitted
  | .array items =>
    if items.length ≤ names.length || rules.surplusItems then
      some fun name =>
        match (names.zip items).find? fun s => s.1 = name with
        | some (_, d) => .given d
        | none => .short
    else none
  | _ => none

/-- The fields of an object that has each name once. -/
private theorem objectSlots_of_nodup (names : List String) {fields seen : List (String × Document)}
    (hnodup : (fields.map Prod.fst).Nodup) (hnew : ∀ s ∈ seen, s.1 ∉ fields.map Prod.fst) :
    ∃ slots, objectSlots {} names seen (fields.map fun kv => (some kv.1, kv.2)) = some slots ∧
      ∀ name, (slots.find? fun s => s.1 = name).map Prod.snd =
        (if name ∈ names then Ordered.lookup name fields else none).or
          ((seen.find? fun s => s.1 = name).map Prod.snd) := by
  induction fields generalizing seen with
  | nil => exact ⟨seen, rfl, fun name => by simp [Ordered.lookup]⟩
  | cons kv rest ih =>
    obtain ⟨k, d⟩ := kv
    obtain ⟨hk, hrest⟩ := List.nodup_cons.1 hnodup
    have hseen : ∀ s ∈ seen, s.1 ≠ k ∧ s.1 ∉ rest.map Prod.fst := fun s hs => by
      simpa [not_or] using hnew s hs
    by_cases hmem : k ∈ names
    · have hfree : (seen.any fun s => s.1 = k) = false := by
        simpa using fun a b hab => (hseen (a, b) hab).1
      have hadded : ∀ s ∈ (k, d) :: seen, s.1 ∉ rest.map Prod.fst := by
        intro s hs
        rcases List.mem_cons.1 hs with rfl | hs
        · exact hk
        · exact (hseen s hs).2
      obtain ⟨slots, hslots, hfind⟩ := ih hrest hadded
      refine ⟨slots, by simpa [objectSlots, hmem, hfree] using hslots, fun name => ?_⟩
      rw [hfind, Ordered.lookup]
      by_cases hname : name = k
      · subst hname
        simp [Ordered.lookup_eq_none hk, hmem]
      · simp [hname, Ne.symm hname]
    · obtain ⟨slots, hslots, hfind⟩ := ih hrest fun s hs => (hseen s hs).2
      refine ⟨slots, by simpa [objectSlots, hmem] using hslots, fun name => ?_⟩
      rw [hfind, Ordered.lookup]
      by_cases hname : name = k
      · subst hname
        simp [hmem]
      · simp [hname]

/-- What a record has of an object. -/
def slotOf (fields : List (String × Document)) (name : String) : Slot :=
  match Ordered.lookup name fields with
  | some d => .given d
  | none => .omitted

theorem record?_object {names : List String} {fields : List (String × Document)}
    (h : (fields.map Prod.fst).Nodup) :
    (object (fields.map fun kv => (some kv.1, kv.2))).record? {} names =
      some fun name => if name ∈ names then slotOf fields name else .omitted := by
  have hnone : ∀ s ∈ ([] : List (String × Document)), s.1 ∉ fields.map Prod.fst := nofun
  obtain ⟨slots, hslots, hfind⟩ := objectSlots_of_nodup names h hnone
  rw [record?, hslots, Option.map_some]
  congr 1
  funext name
  have hname := hfind name
  rw [List.find?_nil, Option.map_none, Option.or_none] at hname
  unfold slotOf
  by_cases hmem : name ∈ names
  · rw [if_pos hmem] at hname ⊢
    rw [← hname]
    cases slots.find? fun s => s.1 = name <;> rfl
  · rw [if_neg hmem] at hname ⊢
    rw [Option.map_eq_none_iff.1 hname]

end Document

namespace Slot

/-- A field that has to be there. -/
def required (read : Document → Option α) : Slot → Option α
  | .given d => read d
  | _ => none

/-- An optional field, which an object may leave out and an array may not. -/
def optional (read : Document → Option α) : Slot → Option (Option α)
  | .given d => d.option read
  | .omitted => some none
  | .short => none

/-- A field with a default for when it is left out. -/
def withDefault (value : α) (read : Document → Option α) : Slot → Option α
  | .given d => read d
  | _ => some value

end Slot

end ServiceBinding.Json
