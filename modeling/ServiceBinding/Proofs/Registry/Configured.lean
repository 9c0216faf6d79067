import ServiceBinding.Component.Direct
import ServiceBinding.Proofs.Component.Uri
import ServiceBinding.Registry.Configured

/-!
# Configured services keep their key

A service configured by a URI has the properties that a component reads off the URI, put under the
configured key (`Properties.under`). Whatever the component reads, they name the component and the API of
the key, and `key_under_iff` says when they have the key itself. A registry of configured services is indexed
by the configured keys and not by those of its entries. `perform_change` says what one write can do to it;
from there `lookup_state_iff` tells a look-up by the last write about the key, and `configured_services` that
the entry found has the key.
-/

namespace ServiceBinding

/-! ## Services at a URI -/

namespace Properties

variable (given : Properties) (component : String) (key : ServiceKey)

/-- The properties that a component reads off a URI, put under a key. -/
def under : Properties :=
  let p := (given.set componentName component).set apiName key.api
  match key.qualifier with
  | some q => p.set qualifierName q
  | none => p

theorem get?_under (name : String) : (given.under component key).get? name =
    if name = qualifierName then key.qualifier.or (given.get? name)
    else if name = apiName then some key.api
    else if name = componentName then some component
    else given.get? name := by
  have hapi : qualifierName ≠ apiName := by decide
  have hcomponent : qualifierName ≠ componentName := by decide
  unfold under
  by_cases hname : name = qualifierName
  · subst hname
    cases key.qualifier with
    | none => simp [get?_set, hapi, hcomponent]
    | some q => simp [get?_set]
  · cases key.qualifier with
    | none => simp [get?_set, hname]
    | some q => simp [get?_set, hname]

@[simp] theorem component?_under : (given.under component key).component? = some component := by
  have hqualifier : componentName ≠ qualifierName := by decide
  have hapi : componentName ≠ apiName := by decide
  rw [component?, get?_under, if_neg hqualifier, if_neg hapi, if_pos rfl]

@[simp] theorem api?_under : (given.under component key).api? = some key.api := by
  have hqualifier : apiName ≠ qualifierName := by decide
  rw [api?, get?_under, if_neg hqualifier, if_pos rfl]

@[simp] theorem qualifier?_under :
    (given.under component key).qualifier? = key.qualifier.or given.qualifier? := by
  rw [qualifier?, get?_under, if_pos rfl]
  rfl

theorem key_under : (given.under component key).key =
    .ok ⟨key.api, key.qualifier.or given.qualifier?⟩ := by
  simp [Properties.key, key?]

/-- The properties have the key they are put under, if they bring no qualifier to a key without one. -/
theorem key_under_iff : (given.under component key).key = .ok key ↔
    key.qualifier = none → given.qualifier? = none := by
  rw [key_under]
  obtain ⟨api, qualifier⟩ := key
  cases qualifier with
  | none => simp
  | some q => simp

end Properties

namespace Components

variable {cs : Components} {key : ServiceKey} {uri : String} {p given : Properties} {u : ServiceUri}

/-- The URI names a component of the table, which reads these properties off its parameters. -/
structure Describes (cs : Components) (uri : String) (u : ServiceUri) (given : Properties) : Prop where
  parsed : ServiceUri.parse uri = .ok u
  read : ∃ c, cs.resolve u.component = .ok c ∧ c.readParams u.params = .ok given

theorem propertiesOfUri_eq_ok_iff : cs.propertiesOfUri key uri = .ok p ↔
    ∃ u given, cs.Describes uri u given ∧ p = given.under u.component key := by
  unfold propertiesOfUri
  constructor
  · intro h
    cases hu : ServiceUri.parse uri with
    | error e => simp [hu] at h
    | ok u =>
      cases hc : cs.resolve u.component with
      | error e => simp [hu, hc] at h
      | ok c =>
        cases hread : c.readParams u.params with
        | error e => simp [hu, hc, hread] at h
        | ok given =>
          refine ⟨u, given, ⟨hu, c, hc, hread⟩, ?_⟩
          simp only [hu, hc, hread] at h
          unfold Properties.under
          cases hq : key.qualifier with
          | none => simpa [hq, eq_comm] using h
          | some q => simpa [hq, eq_comm] using h
  · rintro ⟨u, given, ⟨hu, c, hc, hread⟩, rfl⟩
    simp only [hu, hc, hread, Properties.under]
    cases key.qualifier with
    | none => rfl
    | some q => rfl

end Components

/-! ## Writes -/

namespace ConfiguredRegistry

/-- What changes a registry of configured services. A component may read a URI another way each time, so
every configuration comes with its own table. -/
inductive Write
  | configure (components : Components) (key : ServiceKey) (uri : String)
  | register (e : Entry)
  /-- Takes the entry of a key away, whichever instance it is of. -/
  | deregister (key : ServiceKey)

/-- Why a write is refused. -/
inductive Refusal
  | configuration (e : BindError)
  | registry (e : RegistryError)

/-- The registry after an operation that may fail, and whether it has. -/
def attempt {ε : Type} (r : ConfiguredRegistry) (refusal : ε → Refusal) :
    Except ε ConfiguredRegistry → ConfiguredRegistry × Except Refusal Unit
  | .ok r' => (r', .ok ())
  | .error e => (r, .error (refusal e))

def perform (r : ConfiguredRegistry) : Write → ConfiguredRegistry × Except Refusal Unit
  | .configure components key uri => r.attempt .configuration (r.configure components key uri)
  | .register e => r.attempt .registry (r.register e)
  | .deregister key => r.attempt .registry (r.deregister key)

namespace Write

/-- The properties that a write puts under a key: those found at a URI, if there are any, or those of an
entry. -/
def Puts (key : ServiceKey) (p : Properties) : Write → Prop
  | .configure components k uri => k = key ∧ components.propertiesOfUri key uri = .ok p
  | .register e => e.key = .ok key ∧ e.properties = p
  | .deregister _ => False

/-- A write that leaves a key alone. -/
def Spares (key : ServiceKey) (w : Write) : Prop := (∀ p, ¬w.Puts key p) ∧ w ≠ .deregister key

/-- A key without a qualifier is configured with a component that brings none. -/
def AddsNoQualifier (key : ServiceKey) : Write → Prop
  | .configure components _ uri =>
    key.qualifier = none → ∀ u given, components.Describes uri u given → given.qualifier? = none
  | .register _ => True
  | .deregister _ => True

variable {w : Write} {key key' : ServiceKey} {p p' : Properties}

theorem not_puts_deregister (k : ServiceKey) : ¬(deregister k).Puts key p := id

theorem Puts.unique (h : w.Puts key p) (h' : w.Puts key' p') : key = key' ∧ p = p' := by
  cases w with
  | configure components k uri =>
    obtain ⟨rfl, hp⟩ := h
    obtain ⟨rfl, hp'⟩ := h'
    exact ⟨rfl, Except.ok.inj (hp.symm.trans hp')⟩
  | register e =>
    obtain ⟨hkey, rfl⟩ := h
    obtain ⟨hkey', rfl⟩ := h'
    exact ⟨Except.ok.inj (hkey.symm.trans hkey'), rfl⟩
  | deregister k => exact absurd h (not_puts_deregister k)

/-- What is put under a key has the key. -/
theorem Puts.key_eq (h : w.Puts key p) (hw : w.AddsNoQualifier key) : p.key = .ok key := by
  cases w with
  | configure components k uri =>
    obtain ⟨u, given, hdescribes, rfl⟩ := Components.propertiesOfUri_eq_ok_iff.1 h.2
    apply (given.key_under_iff u.component key).2
    intro hnone
    exact hw hnone u given hdescribes
  | register e =>
    obtain ⟨hkey, rfl⟩ := h
    exact hkey
  | deregister k => exact absurd h (not_puts_deregister k)

end Write

/-! ## One write -/

/-- What a write can do: it puts an entry without a lease under a key, or takes one away, or fails. -/
inductive Change (r : ConfiguredRegistry) : Write → ConfiguredRegistry × Except Refusal Unit → Prop
  | put {w : Write} {key : ServiceKey} {p : Properties} (puts : w.Puts key p) :
    Change r w (⟨r.entries.set key ⟨p, 0, none⟩⟩, .ok ())
  | removed {key : ServiceKey} (found : r.lookup key ≠ none) :
    Change r (.deregister key) (⟨r.entries.erase key⟩, .ok ())
  | failed {w : Write} {refusal : Refusal} (puts : ∀ key p, ¬w.Puts key p)
    (gone : ∀ key, w = .deregister key → r.lookup key = none) : Change r w (r, .error refusal)

theorem contains_iff (r : ConfiguredRegistry) (key : ServiceKey) :
    r.entries.contains key = true ↔ r.lookup key ≠ none := by
  show (r.entries.get? key).isSome = true ↔ r.entries.get? key ≠ none
  exact Option.isSome_iff_ne_none

theorem perform_change (r : ConfiguredRegistry) (w : Write) : Change r w (r.perform w) := by
  cases w with
  | configure components key uri =>
    cases hp : components.propertiesOfUri key uri with
    | error e =>
      have hperform : r.perform (.configure components key uri) = (r, .error (.configuration e)) := by
        simp only [perform, configure, hp, attempt]
      rw [hperform]
      refine .failed ?_ nofun
      rintro k p ⟨rfl, hp'⟩
      cases hp.symm.trans hp'
    | ok p =>
      have hperform : r.perform (.configure components key uri) =
          (⟨r.entries.set key ⟨p, 0, none⟩⟩, .ok ()) := by
        simp only [perform, configure, hp]
        rfl
      rw [hperform]
      exact .put ⟨rfl, hp⟩
  | register e =>
    cases hkey : e.key with
    | error err =>
      have hperform : r.perform (.register e) = (r, .error (.registry err)) := by
        simp only [perform, register, hkey, attempt]
      rw [hperform]
      refine .failed ?_ nofun
      rintro k p ⟨hkey', -⟩
      cases hkey.symm.trans hkey'
    | ok key =>
      have hperform : r.perform (.register e) =
          (⟨r.entries.set key ⟨e.properties, 0, none⟩⟩, .ok ()) := by
        simp only [perform, register, hkey]
        rfl
      rw [hperform]
      exact .put ⟨hkey, rfl⟩
  | deregister key =>
    by_cases hfound : r.entries.contains key = true
    · have hperform : r.perform (.deregister key) = (⟨r.entries.erase key⟩, .ok ()) := by
        simp only [perform, deregister, hfound, if_true, attempt]
      rw [hperform]
      exact .removed ((r.contains_iff key).1 hfound)
    · have hperform : r.perform (.deregister key) =
          (r, .error (.registry (.notRegistered key.text))) := by
        rw [perform, deregister, if_neg hfound, attempt]
      rw [hperform]
      refine .failed (fun k p => Write.not_puts_deregister key) ?_
      rintro k ⟨rfl⟩
      exact Classical.not_not.1 (mt (r.contains_iff key).2 hfound)

section

variable {r : ConfiguredRegistry} {w : Write} {key : ServiceKey} {p : Properties}

theorem lookup_set (r : ConfiguredRegistry) (k key : ServiceKey) (e : Entry) :
    (ConfiguredRegistry.mk (r.entries.set k e)).lookup key = if key = k then some e else r.lookup key :=
  Table.get?_set r.entries k key e

theorem lookup_erase (r : ConfiguredRegistry) (k key : ServiceKey) :
    (ConfiguredRegistry.mk (r.entries.erase k)).lookup key = if key = k then none else r.lookup key :=
  Table.get?_erase r.entries k key

/-- What a write puts under a key is found there, without a lease. -/
theorem lookup_of_puts (r : ConfiguredRegistry) (h : w.Puts key p) :
    (r.perform w).1.lookup key = some ⟨p, 0, none⟩ := by
  have hchange := r.perform_change w
  generalize r.perform w = next at hchange ⊢
  cases hchange with
  | put puts =>
    obtain ⟨rfl, rfl⟩ := h.unique puts
    rw [lookup_set, if_pos rfl]
  | removed found => exact absurd h (Write.not_puts_deregister _)
  | failed puts gone => exact absurd h (puts key p)

theorem lookup_of_deregister (r : ConfiguredRegistry) (key : ServiceKey) :
    (r.perform (.deregister key)).1.lookup key = none := by
  have hchange := r.perform_change (.deregister key)
  generalize r.perform (.deregister key) = next at hchange ⊢
  cases hchange with
  | put puts => exact absurd puts (Write.not_puts_deregister key)
  | removed found => rw [lookup_erase, if_pos rfl]
  | failed puts gone => exact gone key rfl

theorem lookup_of_spares (r : ConfiguredRegistry) (h : w.Spares key) :
    (r.perform w).1.lookup key = r.lookup key := by
  have hchange := r.perform_change w
  generalize r.perform w = next at hchange ⊢
  cases hchange with
  | put puts =>
    rw [lookup_set, if_neg]
    rintro rfl
    exact h.1 _ puts
  | removed found =>
    rw [lookup_erase, if_neg]
    rintro rfl
    exact h.2 rfl
  | failed puts gone => rfl

/-- A write fails if it puts nothing and finds nothing to take away. -/
theorem perform_eq_error_iff : (∃ refusal, (r.perform w).2 = .error refusal) ↔
    (∀ key p, ¬w.Puts key p) ∧ ∀ key, w = .deregister key → r.lookup key = none := by
  have hchange := r.perform_change w
  generalize r.perform w = next at hchange ⊢
  cases hchange with
  | put puts =>
    constructor
    · rintro ⟨refusal, ⟨⟩⟩
    · rintro ⟨hputs, -⟩
      exact absurd puts (hputs _ _)
  | removed found =>
    constructor
    · rintro ⟨refusal, ⟨⟩⟩
    · rintro ⟨-, hgone⟩
      exact absurd (hgone _ rfl) found
  | failed puts gone => exact ⟨fun _ => ⟨puts, gone⟩, fun _ => ⟨_, rfl⟩⟩

/-- A write that fails leaves the registry as it was. -/
theorem perform_of_error {refusal : Refusal} (h : (r.perform w).2 = .error refusal) :
    (r.perform w).1 = r := by
  have hchange := r.perform_change w
  generalize r.perform w = next at hchange h ⊢
  cases hchange with
  | put puts => cases h
  | removed found => cases h
  | failed puts gone => rfl

end

/-! ## Runs -/

/-- The registry after the writes of a run, the last one first. No operation looks at the clock. -/
def state : List Write → ConfiguredRegistry
  | [] => {}
  | w :: ws => ((state ws).perform w).1

/-- Of the writes of a run, the last one first, `w` is the last one about the key, and puts these properties
under it. -/
inductive LastPut (key : ServiceKey) (p : Properties) (w : Write) : List Write → Prop
  | now (ws : List Write) (puts : w.Puts key p) : LastPut key p w (w :: ws)
  | earlier (w' : Write) (ws : List Write) (spares : w'.Spares key) (last : LastPut key p w ws) :
    LastPut key p w (w' :: ws)

variable {key : ServiceKey} {p : Properties} {w : Write} {ws : List Write}

theorem LastPut.puts (h : LastPut key p w ws) : w.Puts key p := by
  induction h with
  | now ws puts => exact puts
  | earlier w' ws spares last ih => exact ih

/-- One write is the last one about a key. -/
theorem LastPut.unique {p' : Properties} {w' : Write} (h : LastPut key p w ws) (h' : LastPut key p' w' ws) :
    w = w' ∧ p = p' := by
  induction h with
  | now ws puts =>
    cases h' with
    | now _ puts' => exact ⟨rfl, (puts.unique puts').2⟩
    | earlier _ _ spares _ => exact absurd puts (spares.1 p)
  | earlier w' ws spares last ih =>
    cases h' with
    | now _ puts' => exact absurd puts' (spares.1 p')
    | earlier _ _ _ last' => exact ih last'

theorem LastPut.lookup (h : LastPut key p w ws) : (state ws).lookup key = some ⟨p, 0, none⟩ := by
  induction h with
  | now ws puts => exact lookup_of_puts (state ws) puts
  | earlier w' ws spares last ih => exact (lookup_of_spares (state ws) spares).trans ih

theorem exists_lastPut {e : Entry} (h : (state ws).lookup key = some e) :
    ∃ p w, LastPut key p w ws ∧ e = ⟨p, 0, none⟩ := by
  induction ws with
  | nil => cases h
  | cons w ws ih =>
    by_cases hputs : ∃ p, w.Puts key p
    · obtain ⟨p, hp⟩ := hputs
      have hfound := lookup_of_puts (state ws) hp
      exact ⟨p, w, .now ws hp, Option.some.inj (h.symm.trans hfound)⟩
    · by_cases htakes : w = .deregister key
      · subst htakes
        have hgone := lookup_of_deregister (state ws) key
        cases h.symm.trans hgone
      · have hspares : w.Spares key := ⟨not_exists.1 hputs, htakes⟩
        have hbefore : (state ws).lookup key = some e := (lookup_of_spares (state ws) hspares).symm.trans h
        obtain ⟨p, w', hlast, he⟩ := ih hbefore
        exact ⟨p, w', .earlier w ws hspares hlast, he⟩

theorem lookup_state_iff {e : Entry} : (state ws).lookup key = some e ↔
    ∃ p w, LastPut key p w ws ∧ e = ⟨p, 0, none⟩ := by
  constructor
  · exact exists_lastPut
  · rintro ⟨p, w, hlast, rfl⟩
    exact hlast.lookup

/-- **Configured services keep their key.** The properties found at a URI name the component that stands
before the first colon of the URI, without the blanks at its ends, and have the API of the key they are
found for. They have the key itself, provided that the component brings no qualifier to a key without one.
After any writes a look-up finds an entry exactly if the last write about the key put one there. The entry
has the properties of that write and neither a lease nor the end of one, and it has the key, with the same
proviso. A write fails if it has nothing to put and nothing to take away, and then it changes no look-up. -/
theorem configured_services :
    (∀ (components : Components) (key : ServiceKey) (uri : String) (p : Properties),
      components.propertiesOfUri key uri = .ok p →
        ∃ name u given, ServiceUri.Cut uri name u.params ∧
          Text.TrimsTo name.toList u.component.toList ∧ components.Describes uri u given ∧
          p.component? = some u.component ∧ p.api? = some key.api ∧
          ((key.qualifier = none → given.qualifier? = none) → p.key = .ok key)) ∧
    (∀ (ws : List Write) (key : ServiceKey) (e : Entry), (state ws).lookup key = some e →
      e.expiresAt = none ∧ e.lease = 0 ∧
        ∃ w, LastPut key e.properties w ws ∧ (w.AddsNoQualifier key → e.key = .ok key)) ∧
    (∀ (ws : List Write) (key : ServiceKey) (p : Properties) (w : Write), LastPut key p w ws →
      (state ws).lookup key = some ⟨p, 0, none⟩) ∧
    ∀ (ws : List Write) (w : Write),
      ((∃ refusal, ((state ws).perform w).2 = .error refusal) ↔
        (∀ key p, ¬w.Puts key p) ∧ ∀ key, w = .deregister key → (state ws).lookup key = none) ∧
      ∀ refusal, ((state ws).perform w).2 = .error refusal →
        ∀ key, (state (w :: ws)).lookup key = (state ws).lookup key := by
  refine ⟨?_, ?_, ?_, ?_⟩
  · intro components key uri p hp
    obtain ⟨u, given, hdescribes, rfl⟩ := Components.propertiesOfUri_eq_ok_iff.1 hp
    obtain ⟨name, hread⟩ := ServiceUri.parse_eq_ok_iff.1 hdescribes.parsed
    exact ⟨name, u, given, hread.cut, hread.trim, hdescribes, given.component?_under u.component key,
      given.api?_under u.component key, (given.key_under_iff u.component key).2⟩
  · intro ws key e he
    obtain ⟨p, w, hlast, rfl⟩ := lookup_state_iff.1 he
    exact ⟨rfl, rfl, w, hlast, hlast.puts.key_eq⟩
  · intro ws key p w hlast
    exact hlast.lookup
  · intro ws w
    refine ⟨perform_eq_error_iff, ?_⟩
    intro refusal hrefused key
    show ((state ws).perform w).1.lookup key = (state ws).lookup key
    rw [perform_of_error hrefused]

namespace Sample

def components : Components := .ofList [Direct.component, Queue.component "queue"]

def finder : ServiceKey := ⟨"lunch.Finder", none⟩

def listener : ServiceKey := ⟨"lunch.Listener", some "eu"⟩

/-- A provider of the finder with a lease of a minute. -/
def leased : Entry :=
  ⟨(Properties.forApi "lunch.Finder" "direct").set Direct.providerName "finder-1", Span.ofSeconds 60, none⟩

/-- The finder is configured, and then a provider of it registered; a listener is configured, and taken back
when it is; last, there is no such component. -/
def writes : List Write :=
  [.configure components finder "mail:lunch", .deregister listener,
    .configure components listener " queue : lunch: events", .register leased,
    .configure components finder "direct:finder-0"]

/-- A component that reads its parameters as a qualifier. -/
def regional : Component :=
  { Queue.component "regional" with
    readParams := fun region => .ok (Properties.empty.set Properties.qualifierName region) }

end Sample

theorem Sample.lastPut_finder :
    LastPut finder leased.properties (.register leased) writes := by
  have hmail : Write.Spares finder (.configure components finder "mail:lunch") := by
    refine ⟨?_, nofun⟩
    rintro p ⟨-, hp⟩
    cases hp
  have hback : Write.Spares finder (.deregister listener) := by
    refine ⟨fun p => Write.not_puts_deregister listener, ?_⟩
    intro h
    exact absurd (Write.deregister.inj h) (by decide)
  have hqueue : Write.Spares finder (.configure components listener " queue : lunch: events") := by
    refine ⟨?_, nofun⟩
    rintro p ⟨hkey, -⟩
    exact absurd hkey (by decide)
  exact .earlier _ _ hmail (.earlier _ _ hback (.earlier _ _ hqueue (.now _ ⟨rfl, rfl⟩)))

/-- A qualified key under a URI with blanks and colons, and a run in which a registration takes the place of a
configuration, another key is taken back, and a configuration fails. -/
theorem configured_services_lunch :
    (∃ p, Sample.components.propertiesOfUri Sample.listener " queue : lunch: events" = .ok p ∧
      p.component? = some "queue" ∧ p.key = .ok Sample.listener) ∧
    LastPut Sample.finder Sample.leased.properties (.register Sample.leased) Sample.writes ∧
    (∃ e, (state Sample.writes).lookup Sample.finder = some e ∧ e.properties = Sample.leased.properties ∧
      e.expiresAt = none ∧ e.lease = 0 ∧ e.key = .ok Sample.finder) ∧
    ∀ key, (state Sample.writes).lookup key = (state Sample.writes.tail).lookup key := by
  obtain ⟨hplaced, hfound, hput, hfails⟩ := configured_services
  have hp : Sample.components.propertiesOfUri Sample.listener " queue : lunch: events" =
      .ok ((Properties.empty.set Queue.queueName " lunch: events").under "queue" Sample.listener) := rfl
  obtain ⟨name, u, given, -, -, hdescribes, -, -, hkey⟩ := hplaced _ _ _ _ hp
  have hlookup := hput _ _ _ _ Sample.lastPut_finder
  obtain ⟨hend, hlease, w, hlast, hfinder⟩ := hfound _ _ _ hlookup
  obtain ⟨rfl, -⟩ := Sample.lastPut_finder.unique hlast
  refine ⟨⟨_, hp, rfl, hkey nofun⟩, Sample.lastPut_finder, ⟨_, hlookup, rfl, hend, hlease, ?_⟩, ?_⟩
  · exact hfinder trivial
  · exact (hfails Sample.writes.tail (.configure Sample.components Sample.finder "mail:lunch")).2 _ rfl

/-- A key without a qualifier is configured with a component that brings one, and so another key stands under
it. Nor is an entry found as it was registered, for it has lost its lease. -/
theorem another_key_configured :
    (∃ p, (Components.ofList [Sample.regional]).propertiesOfUri Sample.finder "regional:eu" = .ok p ∧
      p.key = .ok ⟨"lunch.Finder", some "eu"⟩ ∧ p.key ≠ .ok Sample.finder) ∧
    (∃ e, (state [.configure (.ofList [Sample.regional]) Sample.finder "regional:eu"]).lookup
        Sample.finder = some e ∧ e.key ≠ .ok Sample.finder) ∧
    (Sample.leased.key = .ok Sample.finder ∧
      (state [.register Sample.leased]).lookup Sample.finder ≠ some Sample.leased) := by
  have hp : (Components.ofList [Sample.regional]).propertiesOfUri Sample.finder "regional:eu" =
      .ok ((Properties.empty.set Properties.qualifierName "eu").under "regional" Sample.finder) := rfl
  have hne : (.ok ⟨"lunch.Finder", some "eu"⟩ : Except RegistryError ServiceKey) ≠ .ok Sample.finder := by
    intro h
    exact absurd (Except.ok.inj h) (by decide)
  refine ⟨⟨_, hp, rfl, hne⟩, ⟨_, lookup_of_puts {} ⟨rfl, hp⟩, hne⟩, rfl, by decide⟩

end ConfiguredRegistry

end ServiceBinding
