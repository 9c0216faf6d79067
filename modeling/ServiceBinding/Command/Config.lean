import ServiceBinding.Command.Overrides
import ServiceBinding.Data.Table
import ServiceBinding.Json.Reader
import ServiceBinding.Text.Lowercase
import ServiceBinding.Toml.Reader

/-!
# Configuration of all commands

The settings of a command are the built-in defaults, overridden by the configured defaults,
overridden by what is configured for the command itself. A configuration is read from a TOML or
JSON document, and its defaults may be set from environment variables.
-/

namespace ServiceBinding

open Json

/-- The formats of configuration documents. -/
inductive FileFormat
  | json | toml
  deriving DecidableEq, Inhabited

namespace FileFormat

def ofExtension? (extension : String) : Option FileFormat :=
  let e := Text.lowercase extension
  if e = "json" then some .json else if e = "toml" then some .toml else none

end FileFormat

/-- The content of a file as it is read: its text, or why there is none. -/
abbrev FileContent := Except FileError String

/-- The overrides of the built-in settings. -/
structure CommandConfig where
  /-- Overrides for every command. -/
  defaults : SettingsOverride := {}
  /-- Overrides for single commands. -/
  commands : Table String SettingsOverride := Table.empty
  deriving Inhabited

namespace CommandConfig

def withDefaults (c : CommandConfig) (o : SettingsOverride) : CommandConfig :=
  { c with defaults := o }

def withCommand (c : CommandConfig) (key : String) (o : SettingsOverride) : CommandConfig :=
  { c with commands := c.commands.set key o }

/-! ## Documents -/

def ofDocument? (surplusItems : Bool) (d : Document) : Option CommandConfig := do
  let slots ← d.record? { unknownFields := false, surplusItems } ["defaults", "commands"]
  let defaults ← (slots "defaults").withDefault {} (SettingsOverride.ofDocument? surplusItems)
  let commands ← (slots "commands").withDefault []
    (Document.map? (SettingsOverride.ofDocument? surplusItems))
  return ⟨defaults, Table.ofList commands⟩

/-- Reads a document. In TOML an array standing for a record may be too long. -/
def parse (format : FileFormat) (text : String) : Except ConfigError CommandConfig :=
  match format with
  | .json =>
    match (Document.read? text).bind (ofDocument? false) with
    | some c => .ok c
    | none => .error (.document "json")
  | .toml =>
    match (Toml.read? text).bind (ofDocument? true) with
    | some c => .ok c
    | none => .error (.document "toml")

def toJson (c : CommandConfig) : Value :=
  .ofFields [("defaults", c.defaults.toJson),
    ("commands", .ofFields (c.commands.entries.map fun kv => (kv.1, kv.2.toJson)))]

/-! ## Environment -/

private def withoutUnderscores (cs : List Char) : List Char :=
  (cs.reverse.dropWhile (· = '_')).reverse

private theorem getLast?_withoutUnderscores (cs : List Char) :
    (withoutUnderscores cs).getLast? ≠ some '_' := by
  intro h
  rw [withoutUnderscores, List.getLast?_reverse] at h
  have hnot := List.head?_dropWhile_not (· = '_') cs.reverse
  rw [h] at hnot
  exact absurd hnot (by decide)

private theorem exists_underscores (cs : List Char) :
    ∃ k, cs = withoutUnderscores cs ++ List.replicate k '_' := by
  have hall : ∀ c ∈ cs.reverse.takeWhile (· = '_'), c = '_' := fun c hc => by
    simpa using List.all_eq_true.1 List.all_takeWhile c hc
  have hcut := List.takeWhile_append_dropWhile (p := (· = '_')) (l := cs.reverse)
  rw [List.eq_replicate_iff.2 ⟨rfl, hall⟩] at hcut
  exact ⟨_, by simpa [withoutUnderscores] using (congrArg List.reverse hcut).symm⟩

private theorem withoutUnderscores_append {base : List Char} (hbase : base.getLast? ≠ some '_')
    (k : Nat) : withoutUnderscores (base ++ List.replicate k '_') = base := by
  have hkept : base.reverse.dropWhile (· = '_') = base.reverse := by
    cases hrev : base.reverse with
    | nil => rfl
    | cons c rest =>
      have hlast : base.getLast? = some c := by rw [← List.head?_reverse, hrev]; rfl
      rw [List.dropWhile_cons_of_neg]
      simpa [hlast] using hbase
  rw [withoutUnderscores, List.reverse_append, List.reverse_replicate,
    List.dropWhile_append_of_pos (by simp), hkept, List.reverse_reverse]

/-- The part of a variable name after the stem and one underscore. Underscores at the end of the
stem itself do not count. -/
def settingName? (stem name : String) : Option String :=
  let start := withoutUnderscores stem.toList ++ ['_']
  let cs := name.toList
  if start.isPrefixOf cs then some (String.ofList (cs.drop start.length)) else none

private theorem settingName?_iff_append {stem name setting : String} :
    settingName? stem name = some setting ↔
      name.toList = withoutUnderscores stem.toList ++ '_' :: setting.toList := by
  simp only [settingName?]
  constructor
  · intro h
    split at h
    · rename_i hprefix
      obtain ⟨rest, hrest⟩ := List.isPrefixOf_iff_prefix.1 hprefix
      rw [← hrest, List.drop_left] at h
      rw [← Option.some.inj h, ← hrest]
      simp
    · cases h
  · intro hname
    rw [hname, if_pos]
    · simp
    · rw [List.isPrefixOf_iff_prefix]
      exact ⟨setting.toList, by simp⟩

/-- The stem may end in underscores. The name has just one in their place, and behind it the name of the
setting. -/
theorem settingName?_eq_some_iff {stem name setting : String} :
    settingName? stem name = some setting ↔
      ∃ base k, stem.toList = base ++ List.replicate k '_' ∧ base.getLast? ≠ some '_' ∧
        name.toList = base ++ '_' :: setting.toList := by
  rw [settingName?_iff_append]
  constructor
  · intro hname
    obtain ⟨k, hk⟩ := exists_underscores stem.toList
    exact ⟨_, k, hk, getLast?_withoutUnderscores _, hname⟩
  · rintro ⟨base, k, hstem, hlast, hname⟩
    rw [hstem, withoutUnderscores_append hlast k, hname]

theorem name_unique {stem name name' setting : String} (h : settingName? stem name = some setting)
    (h' : settingName? stem name' = some setting) : name = name' := by
  rw [settingName?_iff_append] at h h'
  exact String.toList_inj.1 (h.trans h'.symm)

/-- Sets defaults from environment variables whose names begin with the stem, in their order, and
counts them. After the first bad value no further variable is taken over. -/
def applyEnvironment (stem : String) (c : CommandConfig) :
    List (String × String) → CommandConfig × Except ConfigError Nat
  | [] => (c, .ok 0)
  | (name, value) :: rest =>
    match settingName? stem name with
    | none => applyEnvironment stem c rest
    | some setting =>
      match c.defaults.setFromEnvironment setting value with
      | .error e => (c, .error e)
      | .ok none => applyEnvironment stem c rest
      | .ok (some defaults) =>
        let (c, count) := applyEnvironment stem { c with defaults } rest
        (c, count.map (· + 1))

/-! ## Settings -/

/-- The settings of a command. -/
def settingsFor (c : CommandConfig) (key : String) : CommandSettings :=
  let s := c.defaults.applyTo {}
  match c.commands.get? key with
  | some o => o.applyTo s
  | none => s

/-- Whether the defaults and every configured command can be run with. -/
def validate (c : CommandConfig) : Except ConfigError Unit :=
  let defaults := c.defaults.applyTo {}
  match defaults.validate with
  | .error e => .error e
  | .ok () => go defaults c.commands.entries
where
  go (defaults : CommandSettings) : List (String × SettingsOverride) → Except ConfigError Unit
    | [] => .ok ()
    | (key, o) :: rest =>
      match (o.applyTo defaults).validate with
      | .error e => .error (.validation ("command '" ++ key ++ "': " ++ e.message))
      | .ok () => go defaults rest

/-! ## Files -/

/-- Loads the configuration of a file, whose format its extension tells. -/
def load (path : String) (content : FileContent) : Except ConfigError CommandConfig :=
  match Path.extension? path with
  | none => .error (.load "No file extension found")
  | some e =>
    match FileFormat.ofExtension? e with
    | none => .error (.load ("Unsupported format: " ++ e))
    | some format =>
      match content with
      | .error e => .error (.io e)
      | .ok text =>
        match parse format text with
        | .error e => .error e
        | .ok c =>
          match c.validate with
          | .error e => .error e
          | .ok () => .ok c

end CommandConfig

end ServiceBinding
