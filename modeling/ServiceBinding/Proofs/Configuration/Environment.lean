import ServiceBinding.Proofs.Configuration.Layers

/-!
# Settings from the environment

Variables of the environment are a layer over the configured defaults. They are gone through in their order:
one that no setting has is passed over, the last one of a setting counts, and at the first whose value is no
number in range the rest is left alone (`applyEnvironment_append`, from which all else follows). If no name
stands twice, the order does not matter (`applyEnvironment_of_perm`).
-/

namespace ServiceBinding

/-! ## Variables -/

namespace Setting

variable {f : Setting} {stem name name' text : String} {n : Nat}

/-- The name of a variable that a setting has: the stem without the underscores at its end, one underscore
and the name of the setting. -/
def IsVariable (f : Setting) (stem name : String) : Prop :=
  ∃ base k, stem.toList = base ++ List.replicate k '_' ∧ base.getLast? ≠ some '_' ∧
    name.toList = base ++ '_' :: f.environmentName.toList

/-- The setting that has a variable of the name. -/
def ofVariable? (stem name : String) : Option Setting :=
  (CommandConfig.settingName? stem name).bind ofEnvironmentName?

theorem ofVariable?_eq_some_iff : ofVariable? stem name = some f ↔ f.IsVariable stem name := by
  rw [ofVariable?, Option.bind_eq_some_iff, IsVariable, ← CommandConfig.settingName?_eq_some_iff]
  constructor
  · rintro ⟨setting, hname, hsetting⟩
    rw [ofEnvironmentName?_eq_some_iff.1 hsetting, hname]
  · intro hname
    exact ⟨_, hname, ofEnvironmentName?_eq_some_iff.2 rfl⟩

instance (f : Setting) (stem name : String) : Decidable (f.IsVariable stem name) :=
  decidable_of_iff _ ofVariable?_eq_some_iff

/-- A setting has variables of one name only. -/
theorem IsVariable.unique (h : f.IsVariable stem name) (h' : f.IsVariable stem name') : name = name' :=
  CommandConfig.name_unique (CommandConfig.settingName?_eq_some_iff.2 h)
    (CommandConfig.settingName?_eq_some_iff.2 h')

/-- Some setting has a variable of the name. -/
def Recognised (stem name : String) : Prop := ∃ f : Setting, f.IsVariable stem name

theorem recognised_iff : Recognised stem name ↔ (ofVariable? stem name).isSome = true := by
  simp only [Recognised, Option.isSome_iff_exists, ofVariable?_eq_some_iff]

instance (stem name : String) : Decidable (Recognised stem name) :=
  decidable_of_iff _ recognised_iff.symm

/-- The trimmed text is a decimal number in the range of the setting. -/
def Reads (f : Setting) (text : String) (n : Nat) : Prop :=
  Text.IsNumeral n (Text.trimChars text.toList) ∧ n < f.bound

def value? (f : Setting) (text : String) : Option Nat :=
  Text.numeralBelow? f.bound (Text.trimChars text.toList)

theorem value?_eq_some_iff : f.value? text = some n ↔ f.Reads text n := Text.numeralBelow?_eq_some_iff

theorem value?_eq_none_iff : f.value? text = none ↔ ∀ n, ¬f.Reads text n := by
  simp only [Option.eq_none_iff_forall_ne_some, ne_eq, value?_eq_some_iff]

end Setting

namespace CommandConfig

open CommandSettings (ofFields)

variable {config : CommandConfig} {stem name text : String} {f : Setting} {n : Nat}
  {v : String × String} {vars vars' before after : List (String × String)}

/-- Every setting that has the variable reads its value. -/
def Fine (stem : String) (v : String × String) : Prop :=
  ∀ f : Setting, f.IsVariable stem v.1 → ∃ n, f.Reads v.2 n

/-- The value of the last variable of a setting. -/
def lastValue? (stem : String) (vars : List (String × String)) (f : Setting) : Option Nat :=
  (vars.filter fun v => f.IsVariable stem v.1).getLast?.bind fun v => f.value? v.2

/-! ## One variable -/

theorem applyEnvironment_of_unknown (hname : Setting.ofVariable? stem name = none)
    (vars : List (String × String)) :
    config.applyEnvironment stem ((name, text) :: vars) = config.applyEnvironment stem vars := by
  cases hsetting : settingName? stem name with
  | none => simp [applyEnvironment, hsetting]
  | some setting =>
    have hunknown : Setting.ofEnvironmentName? setting = none := by
      simpa [Setting.ofVariable?, hsetting] using hname
    simp [applyEnvironment, hsetting, SettingsOverride.setFromEnvironment, hunknown]

theorem applyEnvironment_of_value (hname : Setting.ofVariable? stem name = some f)
    (hvalue : f.value? text = some n) (vars : List (String × String)) :
    config.applyEnvironment stem ((name, text) :: vars) =
      let rest := { config with defaults := config.defaults.set f (some n) }.applyEnvironment stem vars
      (rest.1, rest.2.map (· + 1)) := by
  obtain ⟨setting, hsetting, hf⟩ := Option.bind_eq_some_iff.1 hname
  rw [Setting.value?] at hvalue
  simp [applyEnvironment, hsetting, SettingsOverride.setFromEnvironment, hf, hvalue]

theorem applyEnvironment_of_no_value (hname : Setting.ofVariable? stem name = some f)
    (hvalue : f.value? text = none) (vars : List (String × String)) :
    config.applyEnvironment stem ((name, text) :: vars) =
      (config, .error (.parse (f.environmentName ++ ": invalid number '" ++ text ++ "'"))) := by
  obtain ⟨setting, hsetting, hf⟩ := Option.bind_eq_some_iff.1 hname
  rw [Setting.value?] at hvalue
  simp [applyEnvironment, hsetting, SettingsOverride.setFromEnvironment, hf, hvalue,
    Setting.ofEnvironmentName?_eq_some_iff.1 hf]

/-! ## All variables -/

theorem lastValue?_nil (stem : String) : lastValue? stem [] = fun _ => none := rfl

theorem lastValue?_cons_of_not (h : ¬f.IsVariable stem v.1) :
    lastValue? stem (v :: vars) f = lastValue? stem vars f := by
  rw [lastValue?, lastValue?, List.filter_cons_of_neg (by simpa using h)]

/-- A variable counts if no other one of its setting comes later. -/
theorem lastValue?_cons (h : f.IsVariable stem v.1) (hvars : ∀ u ∈ vars, Fine stem u) :
    lastValue? stem (v :: vars) f = (lastValue? stem vars f).or (f.value? v.2) := by
  rw [lastValue?, lastValue?, List.filter_cons_of_pos (by simpa using h), List.getLast?_cons]
  cases hlast : (vars.filter fun v => f.IsVariable stem v.1).getLast? with
  | none => simp
  | some u =>
    obtain ⟨hu, hname⟩ := List.mem_filter.1 (List.mem_of_getLast? hlast)
    obtain ⟨n, hn⟩ := hvars u hu f (of_decide_eq_true hname)
    simp [Setting.value?_eq_some_iff.2 hn]

/-- Variables that are all fine are all taken over, each over those before it. -/
theorem applyEnvironment_append (hfine : ∀ v ∈ before, Fine stem v) (config : CommandConfig)
    (after : List (String × String)) :
    config.applyEnvironment stem (before ++ after) =
      let rest := { config with
        defaults := config.defaults.under (lastValue? stem before) }.applyEnvironment stem after
      (rest.1, rest.2.map (· + before.countP fun v => Setting.Recognised stem v.1)) := by
  induction before generalizing config with
  | nil =>
    rw [lastValue?_nil, SettingsOverride.under_none, List.nil_append]
    rcases config.applyEnvironment stem after with ⟨config', _ | count⟩ <;> rfl
  | cons v before ih =>
    obtain ⟨name, text⟩ := v
    obtain ⟨hfirst, hrest⟩ := List.forall_mem_cons.1 hfine
    rw [List.cons_append]
    cases hname : Setting.ofVariable? stem name with
    | none =>
      have hnot : ¬Setting.Recognised stem name := by simp [Setting.recognised_iff, hname]
      have hlast : lastValue? stem ((name, text) :: before) = lastValue? stem before :=
        funext fun f => lastValue?_cons_of_not fun h => hnot ⟨f, h⟩
      rw [applyEnvironment_of_unknown hname, ih hrest, hlast,
        List.countP_cons_of_neg (by simpa using hnot)]
    | some f =>
      have hvariable := Setting.ofVariable?_eq_some_iff.1 hname
      obtain ⟨n, hn⟩ := hfirst f hvariable
      have hvalue := Setting.value?_eq_some_iff.2 hn
      -- of the setting itself a later variable counts first; no other setting has this one
      have hlast : lastValue? stem ((name, text) :: before) =
          fun g => (lastValue? stem before g).or (if g = f then some n else none) := by
        funext g
        by_cases hg : g = f
        · subst hg
          rw [lastValue?_cons hvariable hrest, hvalue, if_pos rfl]
        · have hnot : ¬g.IsVariable stem name := by
            rw [← Setting.ofVariable?_eq_some_iff, hname]
            simpa using Ne.symm hg
          rw [lastValue?_cons_of_not hnot, if_neg hg, Option.or_none]
      have hrecognised : Setting.Recognised stem name := ⟨f, hvariable⟩
      rw [applyEnvironment_of_value hname hvalue, ih hrest, SettingsOverride.under_set, hlast,
        List.countP_cons_of_pos (by simpa using hrecognised)]
      generalize applyEnvironment _ _ after = rest
      rcases rest with ⟨config', _ | count⟩
      · rfl
      · simp [Except.map, Nat.add_assoc]

/-- Variables that are all fine. -/
theorem applyEnvironment_of_fine (hfine : ∀ v ∈ vars, Fine stem v) (config : CommandConfig) :
    config.applyEnvironment stem vars =
      ({ config with defaults := config.defaults.under (lastValue? stem vars) },
        .ok (vars.countP fun v => Setting.Recognised stem v.1)) := by
  have h := applyEnvironment_append hfine config []
  rw [List.append_nil] at h
  rw [h]
  simp [applyEnvironment, Except.map]

/-- The first variable that is not fine ends it. -/
theorem applyEnvironment_of_not_fine (hfine : ∀ u ∈ before, Fine stem u)
    (hvariable : f.IsVariable stem v.1) (hbad : ∀ n, ¬f.Reads v.2 n) (config : CommandConfig)
    (after : List (String × String)) :
    config.applyEnvironment stem (before ++ v :: after) =
      ({ config with defaults := config.defaults.under (lastValue? stem before) },
        .error (.parse (f.environmentName ++ ": invalid number '" ++ v.2 ++ "'"))) := by
  rw [applyEnvironment_append hfine, applyEnvironment_of_no_value
    (Setting.ofVariable?_eq_some_iff.2 hvariable) (Setting.value?_eq_none_iff.2 hbad)]
  rfl

theorem fine_or_exists (stem : String) (vars : List (String × String)) :
    (∀ v ∈ vars, Fine stem v) ∨
      ∃ before v after, vars = before ++ v :: after ∧ (∀ u ∈ before, Fine stem u) ∧
        ∃ f : Setting, f.IsVariable stem v.1 ∧ ∀ n, ¬f.Reads v.2 n := by
  induction vars with
  | nil => exact .inl nofun
  | cons v vars ih =>
    by_cases hv : Fine stem v
    · rcases ih with hvars | ⟨before, u, after, rfl, hbefore, hu⟩
      · exact .inl (List.forall_mem_cons.2 ⟨hv, hvars⟩)
      · exact .inr ⟨v :: before, u, after, rfl, List.forall_mem_cons.2 ⟨hv, hbefore⟩, hu⟩
    · simp only [Fine, Classical.not_forall, not_exists] at hv
      obtain ⟨f, hvariable, hbad⟩ := hv
      exact .inr ⟨[], v, vars, rfl, nofun, f, hvariable, hbad⟩

theorem applyEnvironment_eq_ok_iff :
    (∃ count, (config.applyEnvironment stem vars).2 = .ok count) ↔ ∀ v ∈ vars, Fine stem v := by
  constructor
  · rintro ⟨count, hcount⟩
    rcases fine_or_exists stem vars with hfine | ⟨before, v, after, rfl, hfine, f, hvariable, hbad⟩
    · exact hfine
    · rw [applyEnvironment_of_not_fine hfine hvariable hbad] at hcount
      cases hcount
  · intro hfine
    rw [applyEnvironment_of_fine hfine]
    exact ⟨_, rfl⟩

/-! ## The order of variables -/

/-- Of variables with names of their own a setting has one at most. -/
theorem filter_of_perm (hperm : vars.Perm vars') (hnames : (vars.map Prod.fst).Nodup) (f : Setting) :
    vars.filter (fun v => f.IsVariable stem v.1) = vars'.filter (fun v => f.IsVariable stem v.1) := by
  have hfiltered := hperm.filter fun v => f.IsVariable stem v.1
  have hdistinct : ((vars.filter fun v => f.IsVariable stem v.1).map Prod.fst).Nodup :=
    hnames.sublist (List.filter_sublist.map Prod.fst)
  have hown : ∀ v ∈ vars.filter (fun v => f.IsVariable stem v.1), f.IsVariable stem v.1 :=
    fun v hv => of_decide_eq_true (List.mem_filter.1 hv).2
  generalize vars.filter _ = own, vars'.filter _ = own' at hfiltered hdistinct hown ⊢
  match own with
  | [] => exact (List.perm_nil.1 hfiltered.symm).symm
  | [v] => exact (List.perm_singleton.1 hfiltered.symm).symm
  | v :: u :: rest =>
    have hname : v.1 = u.1 := (hown v (by simp)).unique (hown u (by simp))
    simp [hname] at hdistinct

theorem applyEnvironment_of_perm (hperm : vars.Perm vars') (hnames : (vars.map Prod.fst).Nodup)
    (hfine : ∀ v ∈ vars, Fine stem v) (config : CommandConfig) :
    config.applyEnvironment stem vars' = config.applyEnvironment stem vars := by
  have hfine' : ∀ v ∈ vars', Fine stem v := fun v hv => hfine v (hperm.mem_iff.2 hv)
  have hlast : lastValue? stem vars' = lastValue? stem vars := by
    funext f
    rw [lastValue?, lastValue?, filter_of_perm hperm hnames]
  rw [applyEnvironment_of_fine hfine, applyEnvironment_of_fine hfine', hlast, hperm.countP_eq]

/-- **Layered settings from the environment.** The variables are taken over if and only if each one that a
setting has reads as a number in the range of that setting. Then they are counted, and every field of the
settings of a key is its own override, else the last variable of the field, else the configured default, else
the built-in value. If not, the variables before the first one that does not read have been taken over, and
the error tells its setting and its value. The commands stay as they are, and the order of variables with
names of their own does not matter. -/
theorem layered_environment (config : CommandConfig) (stem : String) (vars : List (String × String)) :
    ((∃ count, (config.applyEnvironment stem vars).2 = .ok count) ↔
      ∀ v ∈ vars, ∀ f : Setting, f.IsVariable stem v.1 → ∃ n, f.Reads v.2 n) ∧
    (∀ count, (config.applyEnvironment stem vars).2 = .ok count →
      count = vars.countP (fun v => Setting.Recognised stem v.1) ∧
      ∀ key, (config.applyEnvironment stem vars).1.settingsFor key = ofFields fun f =>
        ((config.own? key f).or
          ((lastValue? stem vars f).or (config.defaults.get? f))).getD (f.read {})) ∧
    (∀ err, (config.applyEnvironment stem vars).2 = .error err →
      ∃ before v after, ∃ f : Setting, vars = before ++ v :: after ∧ (∀ u ∈ before, Fine stem u) ∧
        f.IsVariable stem v.1 ∧ (∀ n, ¬f.Reads v.2 n) ∧
        err = .parse (f.environmentName ++ ": invalid number '" ++ v.2 ++ "'") ∧
        (config.applyEnvironment stem vars).1 =
          { config with defaults := config.defaults.under (lastValue? stem before) }) ∧
    (config.applyEnvironment stem vars).1.commands = config.commands ∧
    ∀ vars', vars.Perm vars' → (vars.map Prod.fst).Nodup →
      ((∃ count, (config.applyEnvironment stem vars).2 = .ok count) ↔
        ∃ count, (config.applyEnvironment stem vars').2 = .ok count) ∧
      ∀ count, (config.applyEnvironment stem vars).2 = .ok count →
        config.applyEnvironment stem vars' = config.applyEnvironment stem vars := by
  refine ⟨applyEnvironment_eq_ok_iff, ?_, ?_, ?_, ?_⟩
  · intro count hcount
    have hfine := applyEnvironment_eq_ok_iff.1 ⟨count, hcount⟩
    rw [applyEnvironment_of_fine hfine] at hcount ⊢
    refine ⟨(Except.ok.inj hcount).symm, fun key => ?_⟩
    rw [settingsFor_eq]
    simp only [own?, SettingsOverride.get?_under]
  · intro err herr
    rcases fine_or_exists stem vars with hfine | ⟨before, v, after, rfl, hfine, f, hvariable, hbad⟩
    · rw [applyEnvironment_of_fine hfine] at herr
      cases herr
    · rw [applyEnvironment_of_not_fine hfine hvariable hbad] at herr ⊢
      exact ⟨before, v, after, f, rfl, hfine, hvariable, hbad, (Except.error.inj herr).symm, rfl⟩
  · rcases fine_or_exists stem vars with hfine | ⟨before, v, after, rfl, hfine, f, hvariable, hbad⟩
    · rw [applyEnvironment_of_fine hfine]
    · rw [applyEnvironment_of_not_fine hfine hvariable hbad]
  · intro vars' hperm hnames
    constructor
    · rw [applyEnvironment_eq_ok_iff, applyEnvironment_eq_ok_iff]
      simp only [hperm.mem_iff]
    · intro count hcount
      exact applyEnvironment_of_perm hperm hnames (applyEnvironment_eq_ok_iff.1 ⟨count, hcount⟩) config

namespace Sample

/-- Defaults for all commands, and an override for one. -/
def lunchtime : CommandConfig :=
  { defaults := { coreSize := some 5, timeout := some 250 }
    commands := Table.ofList [("lunch", { coreSize := some 3 })] }

def environment : List (String × String) :=
  [("FT_CORE_SIZE", "4"), ("PATH", "/bin"), ("FT_TIMEOUT_MS", " +0750\t"), ("FT_UNKNOWN", "x")]

end Sample

/-- Variables in two orders, one of them set again, and one that does not read. -/
theorem layered_environment_lunchtime :
    Sample.lunchtime.applyEnvironment "FT__" Sample.environment.reverse =
      Sample.lunchtime.applyEnvironment "FT__" Sample.environment ∧
    (Sample.lunchtime.applyEnvironment "FT__" Sample.environment).1.settingsFor "lunch" =
      { coreSize := 3, timeout := Span.ofMillis 750 } ∧
    (Sample.lunchtime.applyEnvironment "FT" (Sample.environment ++ [("FT_CORE_SIZE", "7")])).1.settingsFor
        "dinner" = { coreSize := 7, timeout := Span.ofMillis 750 } ∧
    (Sample.lunchtime.applyEnvironment "FT" (("FT_TIMEOUT_MS", "soon") :: Sample.environment)).2 =
      .error (.parse "TIMEOUT_MS: invalid number 'soon'") ∧
    ∃ before v after, ("FT_TIMEOUT_MS", "soon") :: Sample.environment = before ++ v :: after ∧
      (∀ u ∈ before, Fine "FT" u) ∧ ¬Fine "FT" v := by
  have hok : (Sample.lunchtime.applyEnvironment "FT__" Sample.environment).2 = .ok 2 := rfl
  have hagain : (Sample.lunchtime.applyEnvironment "FT"
      (Sample.environment ++ [("FT_CORE_SIZE", "7")])).2 = .ok 3 := rfl
  have hsoon : (Sample.lunchtime.applyEnvironment "FT"
      (("FT_TIMEOUT_MS", "soon") :: Sample.environment)).2 =
        .error (.parse "TIMEOUT_MS: invalid number 'soon'") := rfl
  obtain ⟨-, hsettings, -, -, horder⟩ :=
    layered_environment Sample.lunchtime "FT__" Sample.environment
  obtain ⟨-, hsettings', -, -, -⟩ :=
    layered_environment Sample.lunchtime "FT" (Sample.environment ++ [("FT_CORE_SIZE", "7")])
  obtain ⟨-, -, hfirst, -, -⟩ :=
    layered_environment Sample.lunchtime "FT" (("FT_TIMEOUT_MS", "soon") :: Sample.environment)
  obtain ⟨before, v, after, f, heq, hfine, hvariable, hbad, -, -⟩ := hfirst _ hsoon
  refine ⟨?_, ?_, ?_, hsoon, before, v, after, heq, hfine, ?_⟩
  · exact (horder _ (List.reverse_perm Sample.environment).symm (by decide)).2 2 hok
  · rw [(hsettings 2 hok).2 "lunch"]
    rfl
  · rw [(hsettings' 3 hagain).2 "dinner"]
    rfl
  · intro h
    obtain ⟨n, hn⟩ := h f hvariable
    exact hbad n hn

end CommandConfig

end ServiceBinding
