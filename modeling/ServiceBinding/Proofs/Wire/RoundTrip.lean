import ServiceBinding.Invocation.Basic
import ServiceBinding.Proofs.Wire.Documents
import ServiceBinding.Service.Wire

/-!
# What is written is read

Keys, records and invocations stand on the wire under names of their own, with a null or a missing field
where there is nothing to say. Each one is read again from what is written of it (`ofDocument?_toJson`). On
the way through a record the lease of an entry loses the part of a millisecond that it has over; a record
loses nothing on the way through an entry.
-/

namespace ServiceBinding

open Json

/-! ## Keys -/

namespace ServiceKey

/-- The fields of the wire form. -/
def fields (k : ServiceKey) : List (String × Value) :=
  [("qualifier", k.qualifier.elim .null .string), ("service_type", .string k.api)]

theorem sorted_fields (k : ServiceKey) : Ordered.Sorted k.fields :=
  Ordered.sorted_of_keys (show ["qualifier", "service_type"].Pairwise (· < ·) by decide)

theorem toJson_eq (k : ServiceKey) : k.toJson = .object k.fields := by
  obtain ⟨api, qualifier⟩ := k
  rw [toJson, Value.ofFields, Ordered.ofList_pair (by decide)]
  cases qualifier <;> rfl

theorem ofDocument?_object {fields : List (String × Value)} (h : Ordered.Sorted fields) :
    ofDocument? (.ofValue (.object fields)) =
      do
        let api ← (Document.slot fields "service_type").required Document.string?
        let qualifier ← (Document.slot fields "qualifier").optional Document.string?
        return ⟨api, qualifier⟩ := by
  rw [ofDocument?, Document.record?_ofValue _ h]
  simp

theorem ofDocument?_toJson (k : ServiceKey) : ofDocument? (.ofValue k.toJson) = some k := by
  rw [toJson_eq, ofDocument?_object k.sorted_fields]
  obtain ⟨api, qualifier⟩ := k
  cases qualifier <;> rfl

/-- A qualifier left out is one of null. -/
theorem ofDocument?_without_qualifier {fields : List (String × Value)} (h : Ordered.Sorted fields)
    (hnone : Ordered.lookup "qualifier" fields = none) :
    ofDocument? (.ofValue (.object fields)) =
      ofDocument? (.ofValue (.object (Ordered.insert "qualifier" .null fields))) := by
  rw [ofDocument?_object h, ofDocument?_object (h.insert _ _), Document.slot_insert, Document.slot_insert,
    Document.slot_eq_omitted hnone]
  rfl

end ServiceKey

/-! ## Records -/

namespace Properties

theorem ofList_entries (p : Properties) : ofList p.entries = p := by
  obtain ⟨entries, hsorted⟩ := p
  simp only [ofList, Ordered.ofList_of_sorted hsorted]

theorem toJson_eq (p : Properties) : p.toJson = .object [("properties", p.fieldsJson)] := rfl

theorem ofDocument?_toJson (p : Properties) : ofDocument? (.ofValue p.toJson) = some p := by
  have hmap : (Document.ofValue p.fieldsJson).map? Document.string? = some p.entries :=
    Document.map?_ofValue p.sorted fun _ _ => rfl
  have hslot : Document.slot [("properties", p.fieldsJson)] "properties" =
      .given (.ofValue p.fieldsJson) := rfl
  rw [ofDocument?, toJson_eq, Document.record?_ofValue _ (List.pairwise_singleton ..)]
  simp [hslot, Slot.required, hmap, ofList_entries]

end Properties

namespace Record

/-- The fields of the wire form. -/
def fields (r : Record) : List (String × Value) :=
  [("leaseMs", .nat r.leaseMillis), ("serviceProperties", r.properties.toJson)]

theorem sorted_fields (r : Record) : Ordered.Sorted r.fields :=
  Ordered.sorted_of_keys (show ["leaseMs", "serviceProperties"].Pairwise (· < ·) by decide)

theorem toJson_eq (r : Record) : r.toJson = .object r.fields := by
  rw [toJson, Value.ofFields, Ordered.ofList_pair (by decide)]
  rfl

theorem ofDocument?_object {fields : List (String × Value)} (h : Ordered.Sorted fields) :
    ofDocument? (.ofValue (.object fields)) =
      do
        let properties ← (Document.slot fields "serviceProperties").required Properties.ofDocument?
        let lease ← (Document.slot fields "leaseMs").required (Document.natBelow? Width.bound64)
        return ⟨properties, lease⟩ := by
  rw [ofDocument?, Document.record?_ofValue _ h]
  simp

theorem ofDocument?_toJson {r : Record} (h : r.leaseMillis < Width.bound64) :
    ofDocument? (.ofValue r.toJson) = some r := by
  have hproperties : Document.slot r.fields "serviceProperties" = .given (.ofValue r.properties.toJson) :=
    rfl
  have hlease : Document.slot r.fields "leaseMs" = .given (.ofValue (.nat r.leaseMillis)) := rfl
  rw [toJson_eq, ofDocument?_object r.sorted_fields, hproperties, hlease, Slot.required, Slot.required,
    Properties.ofDocument?_toJson, Document.natBelow?_nat h]
  rfl

theorem toRecord_toEntry {r : Record} (h : r.leaseMillis < Width.bound64) : r.toEntry.toRecord = r := by
  obtain ⟨properties, millis⟩ := r
  rw [toEntry, Entry.toRecord, Span.toMillis_ofMillis, Nat.mod_eq_of_lt h]

end Record

namespace Entry

theorem lease_toEntry_toRecord (e : Entry) :
    e.toRecord.toEntry.lease = Span.ofMillis (Span.toMillis e.lease % Width.bound64) := rfl

/-- Only a part of a millisecond is lost of a lease that fits the wire. -/
theorem lease_toEntry_toRecord_le {e : Entry} (h : e.lease < Span.ofMillis Width.bound64) :
    e.toRecord.toEntry.lease ≤ e.lease ∧ e.lease < e.toRecord.toEntry.lease + Span.ofMillis 1 := by
  have hfits : Span.toMillis e.lease < Width.bound64 :=
    Nat.div_lt_of_lt_mul (by rwa [Nat.mul_comm])
  rw [lease_toEntry_toRecord, Nat.mod_eq_of_lt hfits]
  constructor
  · exact Nat.div_mul_le_self _ _
  · calc e.lease < 1000000 * (Span.toMillis e.lease + 1) := Nat.lt_mul_div_succ _ (by decide)
      _ = Span.ofMillis (Span.toMillis e.lease) + Span.ofMillis 1 := by
        rw [Nat.mul_comm, Nat.add_mul]
        rfl

end Entry

/-! ## Invocations -/

namespace Invocation

/-- Arguments that are values, and a version of 32 bits. -/
structure Fits (i : Invocation) : Prop where
  args : ∀ v ∈ i.args, v.Canonical
  version : ∀ n, i.version = some n → n < Width.bound32

/-- The fields of the wire form. The version is the only one that may be left out. -/
def fields (i : Invocation) : List (String × Value) :=
  [("args", .array i.args), ("method", .string i.method)] ++
    (i.version.map fun n => ("version", .nat n)).toList

theorem sorted_fields (i : Invocation) : Ordered.Sorted i.fields := by
  apply Ordered.sorted_of_keys
  cases hi : i.version with
  | none =>
    rw [fields, hi]
    exact show ["args", "method"].Pairwise (· < ·) by decide
  | some n =>
    rw [fields, hi]
    exact show ["args", "method", "version"].Pairwise (· < ·) by decide

theorem toJson_eq (i : Invocation) : i.toJson = .object i.fields := by
  obtain ⟨method, args, version⟩ := i
  have hlast : ∀ k ∈ [("args", Value.array args), ("method", .string method)].map Prod.fst,
      k < "version" := show ∀ k ∈ ["args", "method"], k < "version" by decide
  cases version with
  | none =>
    rw [toJson, Value.ofFields, List.append_nil, Ordered.ofList_pair (by decide)]
    rfl
  | some n =>
    rw [toJson, Value.ofFields, Ordered.ofList_concat, Ordered.ofList_pair (by decide),
      Ordered.insert_of_forall_lt hlast]
    rfl

theorem ofDocument?_object {fields : List (String × Value)} (h : Ordered.Sorted fields) :
    ofDocument? (.ofValue (.object fields)) =
      do
        let method ← (Document.slot fields "method").required Document.string?
        let args ← (Document.slot fields "args").withDefault [] (Document.list? Document.toValue?)
        let version ← (Document.slot fields "version").withDefault none
          (Document.option (Document.natBelow? Width.bound32))
        return ⟨method, args, version⟩ := by
  rw [ofDocument?, Document.record?_ofValue _ h]
  simp

theorem list?_toValue? {args : List Value} (h : ∀ v ∈ args, v.Canonical) :
    (Document.ofValue (.array args)).list? Document.toValue? = some args := by
  have hmap : (Document.ofValue (.array (args.map id))).list? Document.toValue? = some args :=
    Document.list?_ofValue fun v hv => Document.toValue?_ofValue v (h v hv)
  rwa [List.map_id] at hmap

theorem ofDocument?_toJson {i : Invocation} (h : i.Fits) : ofDocument? (.ofValue i.toJson) = some i := by
  have hmethod : Document.slot i.fields "method" = .given (.string i.method) := rfl
  have hargs : Document.slot i.fields "args" = .given (.ofValue (.array i.args)) := rfl
  have hversion : (Document.slot i.fields "version").withDefault none
      (Document.option (Document.natBelow? Width.bound32)) = some i.version := by
    cases hi : i.version with
    | none =>
      rw [Document.slot_eq_omitted (by simp [fields, hi, Ordered.lookup])]
      rfl
    | some n =>
      rw [Document.slot_eq_given (v := .nat n) (by simp [fields, hi, Ordered.lookup]), Slot.withDefault,
        Document.option_ofValue_nat, Document.natBelow?_nat (h.version n hi)]
      rfl
  rw [toJson_eq, ofDocument?_object (sorted_fields i), hmethod, hargs, hversion]
  simp [Slot.required, Slot.withDefault, Document.string?, list?_toValue? h.args]

/-- Arguments left out are none at all. -/
theorem ofDocument?_without_args {fields : List (String × Value)} (h : Ordered.Sorted fields)
    (hnone : Ordered.lookup "args" fields = none) :
    ofDocument? (.ofValue (.object fields)) =
      ofDocument? (.ofValue (.object (Ordered.insert "args" (.array []) fields))) := by
  rw [ofDocument?_object h, ofDocument?_object (h.insert _ _)]
  simp only [Document.slot_insert, Document.slot_eq_omitted hnone]
  rfl

/-- A version left out is one of null. -/
theorem ofDocument?_without_version {fields : List (String × Value)} (h : Ordered.Sorted fields)
    (hnone : Ordered.lookup "version" fields = none) :
    ofDocument? (.ofValue (.object fields)) =
      ofDocument? (.ofValue (.object (Ordered.insert "version" .null fields))) := by
  rw [ofDocument?_object h, ofDocument?_object (h.insert _ _)]
  simp only [Document.slot_insert, Document.slot_eq_omitted hnone]
  rfl

end Invocation

/-! ## All of them -/

/-- **Wire forms.** Keys, records and invocations are read back from what is written of them, under these
names; of an object without them, a qualifier and a version read as null and arguments as an empty array. A
record with a lease of 64 bits is the record of its entry. The entry of the record of an entry has its
properties, so its key and its instance, and the whole milliseconds of its lease, counted in 64 bits. -/
theorem Wire.read_back :
    (∀ k : ServiceKey, ServiceKey.ofDocument? (.ofValue k.toJson) = some k ∧
      k.toJson =
        .object [("qualifier", k.qualifier.elim .null .string), ("service_type", .string k.api)]) ∧
    (∀ r : Record, r.leaseMillis < Width.bound64 →
      Record.ofDocument? (.ofValue r.toJson) = some r ∧ r.toEntry.toRecord = r ∧
      r.toJson = .object [("leaseMs", .nat r.leaseMillis),
        ("serviceProperties", .object [("properties",
          .object (r.properties.entries.map fun kv => (kv.1, .string kv.2)))])]) ∧
    (∀ i : Invocation, i.Fits →
      Invocation.ofDocument? (.ofValue i.toJson) = some i ∧
      i.toJson = .object ([("args", .array i.args), ("method", .string i.method)] ++
        (i.version.map fun n => ("version", .nat n)).toList)) ∧
    (∀ fields : List (String × Value), Ordered.Sorted fields →
      (Ordered.lookup "qualifier" fields = none →
        ServiceKey.ofDocument? (.ofValue (.object fields)) =
          ServiceKey.ofDocument? (.ofValue (.object (Ordered.insert "qualifier" .null fields)))) ∧
      (Ordered.lookup "args" fields = none →
        Invocation.ofDocument? (.ofValue (.object fields)) =
          Invocation.ofDocument? (.ofValue (.object (Ordered.insert "args" (.array []) fields)))) ∧
      (Ordered.lookup "version" fields = none →
        Invocation.ofDocument? (.ofValue (.object fields)) =
          Invocation.ofDocument? (.ofValue (.object (Ordered.insert "version" .null fields))))) ∧
    ∀ e : Entry, e.toRecord.toEntry.properties = e.properties ∧ e.toRecord.toEntry.key = e.key ∧
      e.toRecord.toEntry.instanceId = e.instanceId ∧
      e.toRecord.toEntry.lease = Span.ofMillis (Span.toMillis e.lease % Width.bound64) ∧
      (e.lease < Span.ofMillis Width.bound64 →
        e.toRecord.toEntry.lease ≤ e.lease ∧ e.lease < e.toRecord.toEntry.lease + Span.ofMillis 1) := by
  refine ⟨fun k => ⟨k.ofDocument?_toJson, k.toJson_eq⟩, fun r h => ?_, fun i h => ?_, fun fields h => ?_,
    fun e => ?_⟩
  · exact ⟨Record.ofDocument?_toJson h, Record.toRecord_toEntry h, r.toJson_eq⟩
  · exact ⟨Invocation.ofDocument?_toJson h, i.toJson_eq⟩
  · exact ⟨ServiceKey.ofDocument?_without_qualifier h, Invocation.ofDocument?_without_args h,
      Invocation.ofDocument?_without_version h⟩
  · exact ⟨rfl, rfl, rfl, e.lease_toEntry_toRecord, Entry.lease_toEntry_toRecord_le⟩

namespace Wire.Sample

/-- A lease of a millisecond and a half. -/
def entry : Entry := { properties := .forApi "lunch.Finder" "direct", lease := Span.ofMicros 1500 }

def record : Record := ⟨.forApi "lunch.Finder" "direct", 1500⟩

def call : Invocation where
  method := "find"
  args := [.string "Göteborg", .object [("open", .bool true), ("tables", .array [.nat 2, .null])]]
  version := some 2

theorem fits_call : call.Fits where
  args := by
    have htable : Ordered.Sorted [("open", Value.bool true), ("tables", .array [.nat 2, .null])] :=
      Ordered.sorted_of_keys (show ["open", "tables"].Pairwise (· < ·) by decide)
    exact List.forall_mem_cons.2 ⟨trivial, List.forall_mem_cons.2
      ⟨⟨htable, trivial, ⟨trivial, trivial, trivial⟩, trivial⟩, nofun⟩⟩
  version := by
    rintro n ⟨⟩
    decide

end Wire.Sample

/-- A record, a versioned call, a call of no arguments, and a lease that is cut. -/
theorem Wire.read_back_sample :
    (Record.ofDocument? (.ofValue Wire.Sample.record.toJson) = some Wire.Sample.record ∧
      Wire.Sample.record.toEntry.toRecord = Wire.Sample.record) ∧
    Invocation.ofDocument? (.ofValue Wire.Sample.call.toJson) = some Wire.Sample.call ∧
    Invocation.ofDocument? (.ofValue (.object [("method", .string "find")])) = some { method := "find" } ∧
    (Wire.Sample.entry.toRecord.toEntry.key = Wire.Sample.entry.key ∧
      Wire.Sample.entry.toRecord.toEntry.lease = Span.ofMillis 1 ∧
      Wire.Sample.entry.toRecord.toEntry.lease ≤ Wire.Sample.entry.lease) := by
  obtain ⟨-, hrecord, hcall, hleft, hentry⟩ := Wire.read_back
  obtain ⟨hback, hsame, -⟩ := hrecord Wire.Sample.record (by decide)
  obtain ⟨-, hargs, -⟩ := hleft [("method", .string "find")] (List.pairwise_singleton ..)
  obtain ⟨-, hkey, -, hlease, hshorter⟩ := hentry Wire.Sample.entry
  have hempty := (hcall { method := "find" } ⟨by simp, by simp⟩)
  refine ⟨⟨hback, hsame⟩, (hcall _ Wire.Sample.fits_call).1, ?_, hkey, hlease, (hshorter (by decide)).1⟩
  rw [hargs rfl, ← hempty.1, hempty.2]
  rfl

end ServiceBinding
