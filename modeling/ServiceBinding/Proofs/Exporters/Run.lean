import Mathlib.Logic.Function.Basic
import ServiceBinding.Bulkhead
import ServiceBinding.Proofs.Registry.Sound
import ServiceBinding.Registry.Exporter

/-!
# Applications that publish to one registry

Any number of applications, each with an exporter, publish services to one registry, take them back and
renew them; others may write to it as they like. A call of an exporter begins with all that it does to the
exporter (`Exporter.after`), and knows from then on the writes of the registry that it makes
(`Exporter.writes`). It makes them one at a time, later and later, and between two of them there may be
calls and writes of anybody, also of the same application.

A run is any sequence of such operations, each at its time; times do not go back. The order in which a
table is gone through means nothing, neither in the registry nor in an exporter, so in between every table
may be in another order (`Exporters.Reorders`).
-/

namespace ServiceBinding

open LeaseRegistry (Write)

/-! ## Calls of an exporter -/

namespace Exporter

/-- What an application calls its exporter for. -/
inductive Call
  | publish (p : Properties)
  | withdraw (key : ServiceKey)
  /-- Renews all that was published. -/
  | renewAll

/-- The writes that a call makes, one after the other. -/
def writes (x : Exporter) : Call → List Write
  | .publish p =>
    match x.remember p with
    | .error _ => []
    | .ok (_, e) => [.register e]
  | .withdraw key => if (x.forget key).2 then [.deregister key x.settings.instanceId] else []
  | .renewAll => x.renewals.map .renew

/-- The exporter after a call. -/
def after (x : Exporter) : Call → Exporter
  | .publish p =>
    match x.remember p with
    | .error _ => x
    | .ok (x', _) => x'
  | .withdraw key => (x.forget key).1
  | .renewAll => x

variable {x : Exporter} {p : Properties} {key : ServiceKey} {e : Entry}

theorem writes_publish (hkey : p.key = .ok key) : x.writes (.publish p) = [.register (x.entryOf p)] := by
  rw [writes, remember_of_key hkey]

theorem after_publish (hkey : p.key = .ok key) :
    x.after (.publish p) = { x with exported := x.exported.set key (x.entryOf p) } := by
  rw [after, remember_of_key hkey]

theorem refused_publish {err : RegistryError} (hkey : p.key = .error err) :
    x.writes (.publish p) = [] ∧ x.after (.publish p) = x := by
  rw [writes, after, remember_of_error hkey]
  exact ⟨rfl, rfl⟩

theorem settings_after (x : Exporter) (c : Call) : (x.after c).settings = x.settings := by
  cases c with
  | publish p =>
    cases hkey : p.key with
    | error err => rw [(refused_publish hkey).2]
    | ok key => rw [after_publish hkey]
  | withdraw | renewAll => rfl

/-- What an exporter remembers it has published, now or before. -/
theorem get?_after {c : Call} (h : (x.after c).exported.get? key = some e) :
    x.exported.get? key = some e ∨ ∃ p, c = .publish p ∧ p.key = .ok key ∧ e = x.entryOf p := by
  cases c with
  | publish p =>
    cases hkey : p.key with
    | error err =>
      rw [(refused_publish hkey).2] at h
      exact .inl h
    | ok k =>
      rw [after_publish hkey, Table.get?_set] at h
      split at h
      · rename_i hk
        exact .inr ⟨p, rfl, hk ▸ hkey, (Option.some.inj h).symm⟩
      · exact .inl h
  | withdraw k =>
    simp only [after, forget, Table.get?_erase] at h
    split at h
    · cases h
    · exact .inl h
  | renewAll => exact .inl h

/-- Whatever a call writes is the entry it publishes, the instance it takes back, or an entry that the exporter
remembers. -/
theorem mem_writes {c : Call} {w : Write} (h : w ∈ x.writes c) :
    (∃ p key, c = .publish p ∧ p.key = .ok key ∧ w = .register (x.entryOf p)) ∨
      (∃ key, c = .withdraw key ∧ w = .deregister key x.settings.instanceId) ∨
      ∃ key e, c = .renewAll ∧ x.exported.get? key = some e ∧ w = .renew e := by
  cases c with
  | publish p =>
    cases hkey : p.key with
    | error err => simp [(refused_publish hkey).1] at h
    | ok key =>
      rw [writes_publish hkey, List.mem_singleton] at h
      exact .inl ⟨p, key, rfl, hkey, h⟩
  | withdraw key =>
    simp only [writes] at h
    split at h
    · exact .inr (.inl ⟨key, rfl, List.mem_singleton.1 h⟩)
    · cases h
  | renewAll =>
    obtain ⟨e, he, rfl⟩ := List.mem_map.1 h
    obtain ⟨key, hkey⟩ := Table.mem_values.1 he
    exact .inr (.inr ⟨key, e, rfl, hkey, rfl⟩)

end Exporter

/-! ## Exporters on one registry -/

/-- A registry, and the exporters of the applications that publish to it. -/
structure Exporters (ι : Type) where
  registry : LeaseRegistry
  exporter : ι → Exporter
  /-- What a call has still to write. -/
  pending : Ticket → List Write := fun _ => []

namespace Exporters

/-- What is done with exporters and their registry. -/
inductive Operation (ι : Type)
  /-- An exporter is called. -/
  | call (k : Ticket) (i : ι) (c : Exporter.Call)
  /-- A call makes its next write. -/
  | proceed (k : Ticket)
  /-- A call is not waited for any longer, and makes no more writes. -/
  | drop (k : Ticket)
  /-- Someone else writes to the registry. -/
  | write (w : Write)

variable {ι : Type} {s s' : Exporters ι} {settings : ι → ExporterSettings} {now : Instant}
  {op : Operation ι}

/-- An empty registry, to which nobody has published. -/
def new (settings : ι → ExporterSettings) : Exporters ι :=
  { registry := .empty, exporter := fun i => { settings := settings i } }

/-- The write that an operation makes. -/
def written? (s : Exporters ι) : Operation ι → Option Write
  | .call .. | .drop _ => none
  | .proceed k => (s.pending k).head?
  | .write w => some w

/-- An exporter is called, if the ticket is not in use. -/
def beginCall [DecidableEq ι] (s : Exporters ι) (k : Ticket) (i : ι) (c : Exporter.Call) :
    Exporters ι :=
  match s.pending k with
  | [] =>
    { s with
      exporter := Function.update s.exporter i ((s.exporter i).after c)
      pending := Function.update s.pending k ((s.exporter i).writes c) }
  | _ :: _ => s

/-- A call makes its next write, whatever comes of it. -/
def proceed (s : Exporters ι) (now : Instant) (k : Ticket) : Exporters ι :=
  match s.pending k with
  | [] => s
  | w :: ws =>
    { s with
      registry := (s.registry.perform now w).1
      pending := Function.update s.pending k ws }

def perform [DecidableEq ι] (s : Exporters ι) (now : Instant) : Operation ι → Exporters ι
  | .call k i c => s.beginCall k i c
  | .proceed k => s.proceed now k
  | .drop k => { s with pending := Function.update s.pending k [] }
  | .write w => { s with registry := (s.registry.perform now w).1 }

/-! ## The order of tables -/

/-- The same, each table in an order of its own. -/
structure Reorders (s s' : Exporters ι) : Prop where
  registry : s.registry.Reorders s'.registry
  settings : ∀ i, (s.exporter i).settings = (s'.exporter i).settings
  exported : ∀ i, (s.exporter i).exported.entries.Perm (s'.exporter i).exported.entries
  pending : s.pending = s'.pending

theorem Reorders.refl (s : Exporters ι) : Reorders s s := ⟨.refl _, fun _ => rfl, fun _ => .refl _, rfl⟩

theorem Reorders.get? (h : Reorders s s') (i : ι) (key : ServiceKey) :
    (s.exporter i).exported.get? key = (s'.exporter i).exported.get? key :=
  Table.perm_iff.1 (h.exported i) key

/-! ## What an operation changes -/

section

variable [DecidableEq ι]

theorem registry_perform (s : Exporters ι) (now : Instant) (op : Operation ι) :
    (s.perform now op).registry =
      ((s.written? op).map fun w => (s.registry.perform now w).1).getD s.registry := by
  cases op with
  | call k i c =>
    simp only [perform, beginCall, written?]
    split <;> rfl
  | proceed k =>
    simp only [perform, proceed, written?]
    split
    · rename_i hk
      rw [hk]
      rfl
    · rename_i hk
      rw [hk]
      rfl
  | drop k | write w => rfl

/-- An exporter changes when it is called. -/
theorem exporter_perform (s : Exporters ι) (now : Instant) (op : Operation ι) (i : ι) :
    (s.perform now op).exporter i = s.exporter i ∨
      ∃ k c, op = .call k i c ∧ (s.perform now op).exporter i = (s.exporter i).after c := by
  cases op with
  | call k j c =>
    by_cases hij : i = j
    · subst hij
      simp only [perform, beginCall]
      split
      · exact .inr ⟨k, c, rfl, Function.update_self ..⟩
      · exact .inl rfl
    · refine .inl ?_
      simp only [perform, beginCall]
      split
      · exact Function.update_of_ne hij ..
      · rfl
  | proceed k =>
    refine .inl ?_
    simp only [perform, proceed]
    split <;> rfl
  | drop k | write w => exact .inl rfl

/-- What is to be written was to be written before, or a call of an exporter has just begun. -/
theorem mem_pending_perform {k : Ticket} {w : Write} (h : w ∈ (s.perform now op).pending k) :
    w ∈ s.pending k ∨ ∃ i c, op = .call k i c ∧ w ∈ (s.exporter i).writes c := by
  cases op with
  | call j i c =>
    simp only [perform, beginCall] at h
    split at h
    · by_cases hj : k = j
      · subst hj
        simp only [Function.update_self] at h
        exact .inr ⟨i, c, rfl, h⟩
      · simp only [Function.update_of_ne hj] at h
        exact .inl h
    · exact .inl h
  | proceed j =>
    refine .inl ?_
    simp only [perform, proceed] at h
    split at h
    · exact h
    · rename_i hj
      by_cases hk : k = j
      · subst hk
        simp only [Function.update_self] at h
        exact hj ▸ List.mem_cons_of_mem _ h
      · simp only [Function.update_of_ne hk] at h
        exact h
  | drop j =>
    refine .inl ?_
    by_cases hk : k = j
    · subst hk
      simp [perform] at h
    · simpa [perform, hk] using h
  | write w => exact .inl h

/-- The last write of a call stays to be made until the call goes on or is dropped. -/
theorem pending_perform_of_single {k : Ticket} {w : Write} (h : s.pending k = [w]) (now : Instant)
    (op : Operation ι) :
    ((s.perform now op).pending k = [w] ∧ op ≠ .proceed k) ∨ (s.perform now op).pending k = [] := by
  cases op with
  | call j i c =>
    refine .inl ⟨?_, nofun⟩
    simp only [perform, beginCall]
    split
    · rename_i hj
      have hne : k ≠ j := by
        rintro rfl
        cases h.symm.trans hj
      simpa [hne] using h
    · exact h
  | proceed j =>
    by_cases hk : k = j
    · subst hk
      simp [perform, proceed, h]
    · refine .inl ⟨?_, fun heq => hk (Operation.proceed.inj heq).symm⟩
      simp only [perform, proceed]
      split
      · exact h
      · simpa [hk] using h
  | drop j =>
    by_cases hk : k = j
    · subst hk
      exact .inr (Function.update_self ..)
    · exact .inl ⟨by simpa [perform, hk] using h, nofun⟩
  | write w => exact .inl ⟨h, nofun⟩

end

/-! ## The invariant -/

/-- Each exporter has its settings, and remembers entries that it publishes for its own instance. -/
structure Sound (s : Exporters ι) (settings : ι → ExporterSettings) : Prop where
  registry : LeaseRegistry.Sound s.registry
  configured : ∀ i, (s.exporter i).settings = settings i
  exported : ∀ i key e, (s.exporter i).exported.get? key = some e → e.IsOf key (settings i).instanceId

theorem new_sound (settings : ι → ExporterSettings) : Sound (new settings) settings :=
  ⟨LeaseRegistry.empty_sound, fun _ => rfl, nofun⟩

theorem Sound.reorders (hs : Sound s settings) (h : Reorders s s') : Sound s' settings where
  registry := hs.registry.reorders h.registry
  configured i := (h.settings i).symm.trans (hs.configured i)
  exported i key e he := hs.exported i key e ((h.get? i key).trans he)

theorem Sound.isOf_entryOf (hs : Sound s settings) (i : ι) {p : Properties} {key : ServiceKey}
    (hkey : p.key = .ok key) : ((s.exporter i).entryOf p).IsOf key (settings i).instanceId := by
  refine ⟨((s.exporter i).key_entryOf p).trans hkey, ?_⟩
  rw [Exporter.instanceId_entryOf, hs.configured]

theorem Sound.perform [DecidableEq ι] (hs : Sound s settings) (now : Instant) (op : Operation ι) :
    Sound (s.perform now op) settings where
  registry := by
    rw [registry_perform]
    cases s.written? op with
    | none => exact hs.registry
    | some w => exact hs.registry.perform now w
  configured i := by
    rcases exporter_perform s now op i with h | ⟨k, c, -, h⟩
    · rw [h, hs.configured]
    · rw [h, Exporter.settings_after, hs.configured]
  exported i key e he := by
    rcases exporter_perform s now op i with h | ⟨k, c, -, h⟩
    · exact hs.exported i key e (h ▸ he)
    · rw [h] at he
      rcases Exporter.get?_after he with he | ⟨p, -, hkey, rfl⟩
      · exact hs.exported i key e he
      · exact hs.isOf_entryOf i hkey

/-! ## Runs -/

/-- A run of exporters that share an empty registry. -/
structure Run (ι : Type) [DecidableEq ι] where
  settings : ι → ExporterSettings
  time : Nat → Instant
  operation : Nat → Operation ι
  /-- What there is before step `n`. -/
  state : Nat → Exporters ι
  mono : Monotone time
  starts : state 0 = new settings
  steps : ∀ n, Reorders ((state n).perform (time n) (operation n)) (state (n + 1))

namespace Run

variable [DecidableEq ι]

/-- The write of step `n`. -/
def written? (r : Run ι) (n : Nat) : Option Write := (r.state n).written? (r.operation n)

theorem sound (r : Run ι) (n : Nat) : Sound (r.state n) r.settings := by
  induction n with
  | zero =>
    rw [r.starts]
    exact new_sound r.settings
  | succ n ih => exact (ih.perform (r.time n) (r.operation n)).reorders (r.steps n)

/-- The entry that an application publishes for a service. -/
def entryOf (r : Run ι) (i : ι) (p : Properties) : Entry := Exporter.entryOf { settings := r.settings i } p

theorem entryOf_eq (r : Run ι) (i : ι) (p : Properties) (n : Nat) :
    ((r.state n).exporter i).entryOf p = r.entryOf i p := by
  simp only [entryOf, Exporter.entryOf, Exporter.stamp, (r.sound n).configured]

theorem isOf_entryOf (r : Run ι) (i : ι) {p : Properties} {key : ServiceKey} (hkey : p.key = .ok key) :
    (r.entryOf i p).IsOf key (r.settings i).instanceId :=
  r.entryOf_eq i p 0 ▸ (r.sound 0).isOf_entryOf i hkey

theorem registry_of_written {r : Run ι} {n : Nat} {w : Write} (h : r.written? n = some w) :
    ((r.state n).registry.perform (r.time n) w).1.Reorders (r.state (n + 1)).registry := by
  have hr := (r.steps n).registry
  rw [registry_perform, ← Run.written?, h] at hr
  exact hr

theorem registry_of_not_written {r : Run ι} {n : Nat} (h : r.written? n = none) :
    (r.state n).registry.Reorders (r.state (n + 1)).registry := by
  have hr := (r.steps n).registry
  rw [registry_perform, ← Run.written?, h] at hr
  exact hr

/-- A run given by its first operations and the time that passes before each; from then on the registry is
swept again and again. -/
def ofSteps (settings : ι → ExporterSettings) (steps : List (Span × Operation ι)) : Run ι :=
  let operation n := (steps[n]?.map Prod.snd).getD (.write .evict)
  { settings
    time := Trace.clock steps
    operation
    state := Nat.rec (new settings) fun n s => s.perform (Trace.clock steps n) (operation n)
    mono := Trace.clock_mono steps
    starts := rfl
    steps := fun _ => .refl _ }

end Run

/-! ## A service for examples -/

namespace Sample

def menu : ServiceKey := ⟨"Menu", none⟩

def service : Properties := Properties.forApi "Menu" "direct"

end Sample

end Exporters

end ServiceBinding
