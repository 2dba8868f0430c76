import ShootingStar.Utilities.ConfigArguments
import ShootingStar.Utilities.ConfigYaml

/-!
# Runs of the configuration

A service starts from the defaults, reads a file and then its command line.  A call that throws
leaves what it has set before.  Whatever calls are made, every field keeps a text that passes its own
check, so that the getters of its type do not throw (`readable_run`).

After a start the text of a field is that of its last argument, else that of the file, else the
default (`getString_startService`).  A file with the resolved values of one configuration gives them
to any other (`values_applyFile_dump`).
-/

namespace GlobalConfig

/-! ### Calls -/

/-- `Initialize`, with the configuration it leaves. -/
def initializeConfig (serviceName : String) (config : GlobalConfig) :
    Except ConfigError Unit × GlobalConfig :=
  if serviceName = "" then
    (.error (.invalidArgument "service_name must not be empty"), config)
  else if config.serviceName = "" then (.ok (), { config with serviceName := serviceName })
  else if config.serviceName ≠ serviceName then
    (.error (.invalidArgument ("GlobalConfig already initialized for service '"
      ++ config.serviceName ++ "', cannot re-initialize with '" ++ serviceName ++ "'")), config)
  else (.ok (), config)

/-- The files: which paths are absolute, where a relative path leads from the executable and from the
current directory, which files exist, or the message where that cannot be told, and what the parser
makes of a file. -/
structure FileSystem where
  isAbsolute : String → Bool
  executableRelative : String → String
  currentPathRelative : String → String
  fileExists : String → Bool
  inspect : String → Except String Bool
  loadFile : String → Except String YamlNode

/-- The file that is read for a path.  A path that is not from the command line is also looked for in
the current directory. -/
def resolveStartupConfigPath (files : FileSystem) (startupConfigPath : StartupConfigPath) : String :=
  if startupConfigPath.path = "" then startupConfigPath.path
  else if files.isAbsolute startupConfigPath.path then startupConfigPath.path
  else
    let executableRelativePath := files.executableRelative startupConfigPath.path
    let currentPathRelative := files.currentPathRelative startupConfigPath.path
    if startupConfigPath.fromCommandLine ∨ files.fileExists executableRelativePath then
      executableRelativePath
    else if files.fileExists currentPathRelative then currentPathRelative
    else executableRelativePath

/-- `ApplyStartupFile`, with the configuration it leaves.  A file that the command line does not name
may be missing. -/
def applyStartupFile (files : FileSystem) (args : List String) (config : GlobalConfig) :
    Except ConfigError Unit × GlobalConfig :=
  match findStartupConfigPath config args with
  | .error e => (.error e, config)
  | .ok startupConfigPath =>
    let resolvedConfigPath := resolveStartupConfigPath files startupConfigPath
    if startupConfigPath.fromCommandLine = false ∧ files.fileExists resolvedConfigPath = false then
      (.ok (), config)
    else
      match applyFile resolvedConfigPath (files.loadFile resolvedConfigPath) config with
      | (.error e, config) => (.error e, config)
      | (.ok (), config) =>
        match config.set .configPath resolvedConfigPath with
        | .error e => (.error e, config)
        | .ok config => (.ok (), config)

/-- `ApplyFileIfExists`, with the configuration it leaves. -/
def applyFileIfExists (files : FileSystem) (filePath : String) (config : GlobalConfig) :
    Except ConfigError Unit × GlobalConfig :=
  match files.inspect filePath with
  | .error what =>
    (.error (.invalidArgument ("Failed to inspect YAML config file '" ++ filePath ++ "': " ++ what)),
      config)
  | .ok false => (.ok (), config)
  | .ok true => applyFile filePath (files.loadFile filePath) config

/-- The calls that change the configuration. -/
inductive Call where
  | initializeConfig (serviceName : String)
  | applyStartupFile (files : FileSystem) (args : List String)
  | applyFile (filePath : String) (loaded : Except String YamlNode)
  | applyFileIfExists (files : FileSystem) (filePath : String)
  | apply (args : List String)

/-- What a call returns, and the configuration it leaves. -/
def Call.make : Call → GlobalConfig → Except ConfigError Unit × GlobalConfig
  | .initializeConfig serviceName => GlobalConfig.initializeConfig serviceName
  | .applyStartupFile files args => GlobalConfig.applyStartupFile files args
  | .applyFile filePath loaded => GlobalConfig.applyFile filePath loaded
  | .applyFileIfExists files filePath => GlobalConfig.applyFileIfExists files filePath
  | .apply args => GlobalConfig.apply args

/-- The configuration after some calls, whether they throw or not. -/
def run (calls : List Call) (config : GlobalConfig) : GlobalConfig :=
  calls.foldl (fun config call => (call.make config).2) config

/-! ### What a call sets -/

/-- Some fields of the first configuration are set in the second. -/
inductive Sets (config : GlobalConfig) : GlobalConfig → Prop where
  | refl : Sets config config
  | set {config' config'' : GlobalConfig} {entry : ConfigEntry} {value : String} :
    Sets config config' → entry ∈ kConfigEntries → config'.set entry.field value = .ok config'' →
    Sets config config''

theorem Sets.trans {config config' config'' : GlobalConfig} (h : Sets config config')
    (h' : Sets config' config'') :
  Sets config config''
  := by
  induction h' with
  | refl => exact h
  | set _ hentry hset ih => exact ih.set hentry hset

theorem mem_of_readArgument {rawArg : String} {next : Option String} {entry : ConfigEntry}
    {read : String × Bool} (h : readArgument rawArg next = .ok (entry, read)) :
  entry ∈ kConfigEntries
  := by
  simp only [readArgument] at h
  split at h
  · split at h
    · cases h
    next found hfound =>
      have hmem := (findEntry_eq_some hfound).1
      split at h
      · split at h
        · cases h
        · obtain ⟨rfl, -⟩ := Prod.mk.inj (Except.ok.inj h)
          exact hmem
      · cases hvalue : readArgumentValue next _ _ found with
        | error e =>
            rw [hvalue] at h
            cases h
        | ok value =>
            rw [hvalue] at h
            obtain ⟨rfl, -⟩ := Prod.mk.inj (Except.ok.inj h)
            exact hmem
  · cases h

theorem sets_applyFrom (skip : Bool) (args : List String) (config : GlobalConfig) :
  Sets config (applyFrom skip args config).2
  := by
  induction args generalizing skip config with
  | nil => exact .refl
  | cons rawArg rest ih =>
      rw [applyFrom]
      split
      · exact ih false config
      split
      · exact .refl
      split
      · exact .refl
      next entry value consumed hread =>
        split
        · exact ih consumed config
        split
        · exact .refl
        next config' hset => exact (Sets.refl.set (mem_of_readArgument hread) hset).trans (ih _ _)

theorem sets_applyValues (values : List (String × String)) (rankingRankers : List (ℤ × String))
    (config : GlobalConfig) :
  Sets config (applyValues values rankingRankers config).2
  := by
  induction values generalizing rankingRankers config with
  | nil => exact .refl
  | cons p values ih =>
      obtain ⟨key, value⟩ := p
      rw [applyValues]
      split
      · exact ih _ config
      split
      · exact .refl
      next entry hentry =>
        split
        · exact .refl
        next config' hset =>
          exact (Sets.refl.set (mem_of_findEntryByYamlKey hentry).1 hset).trans (ih _ _)

theorem sets_applyFile (filePath : String) (loaded : Except String YamlNode)
    (config : GlobalConfig) :
  Sets config (applyFile filePath loaded config).2
  := by
  rw [applyFile.eq_def]
  split
  · exact .refl
  split
  · exact .refl
  next values _ =>
    have hvalues := sets_applyValues (loadedValues values) [] config
    split
    next heq =>
      rw [heq] at hvalues
      exact hvalues
    next heq =>
      rw [heq] at hvalues
      split
      · exact hvalues
      split
      · exact hvalues
      next hset =>
        have hentry : (⟨.rankingRankers, "ranking.rankers", "ranking_rankers", .string,
            "heuristic_v1"⟩ : ConfigEntry) ∈ kConfigEntries := by decide
        exact hvalues.set hentry hset

theorem sets_applyStartupFile (files : FileSystem) (args : List String) (config : GlobalConfig) :
  Sets config (applyStartupFile files args config).2
  := by
  rw [applyStartupFile]
  split
  · exact .refl
  next startupConfigPath _ =>
    dsimp only
    split
    · exact .refl
    · have hfile := sets_applyFile (resolveStartupConfigPath files startupConfigPath)
        (files.loadFile (resolveStartupConfigPath files startupConfigPath)) config
      split
      next heq =>
        rw [heq] at hfile
        exact hfile
      next heq =>
        rw [heq] at hfile
        split
        · exact hfile
        next hset =>
          have hentry : (⟨.configPath, "config.path", "config_path", .string, "config.debug.yaml"⟩ :
              ConfigEntry) ∈ kConfigEntries := by decide
          exact hfile.set hentry hset

/-- Every call sets some fields; only one names the service, and only once. -/
theorem sets_make (call : Call) (config : GlobalConfig) :
  Sets config (call.make config).2 ∨ (config.serviceName = "" ∧ ∃ serviceName,
    (call.make config).2 = { config with serviceName := serviceName })
  := by
  cases call with
  | initializeConfig serviceName =>
      rw [Call.make, initializeConfig]
      split
      · exact .inl .refl
      split
      next hname => exact .inr ⟨hname, serviceName, rfl⟩
      · split <;> exact .inl .refl
  | applyStartupFile files args => exact .inl (sets_applyStartupFile files args config)
  | applyFile filePath loaded => exact .inl (sets_applyFile filePath loaded config)
  | applyFileIfExists files filePath =>
      left
      rw [Call.make, applyFileIfExists]
      split
      · exact .refl
      · exact .refl
      · exact sets_applyFile _ _ config
  | apply args => exact .inl (sets_applyFrom false args config)

/-! ### Texts that pass their check -/

theorem bounds_of_parseIntValue {key value : String} {n : ℤ} (h : parseIntValue key value = .ok n) :
  -2 ^ 31 ≤ n ∧ n ≤ 2 ^ 31 - 1
  := by
  rw [parseIntValue] at h
  split at h
  next hread =>
    obtain rfl := Except.ok.inj h
    exact Text.bounds_of_readSigned (by norm_num) (by norm_num) hread
  · cases h

theorem parseBoolValue_printed (key : String) (flag : Bool) :
  parseBoolValue key (if flag then "true" else "false") = .ok flag
  := by
  have htrue : lowercase "true" ∈ ["true", "1", "yes", "on"] := by decide +kernel
  have hnot : lowercase "false" ∉ ["true", "1", "yes", "on"] := by decide +kernel
  have hfalse : lowercase "false" ∈ ["false", "0", "no", "off"] := by decide +kernel
  cases flag with
  | true => exact if_pos htrue
  | false => exact (if_neg hnot).trans (if_pos hfalse)

/-- The text under which a value is stored is stored as it is. -/
theorem canonicalizeValue_canonicalizeValue {entry : ConfigEntry} {value text : String}
    (h : canonicalizeValue entry value = .ok text) :
  canonicalizeValue entry text = .ok text
  := by
  have hint : ∀ {n : ℤ}, parseIntValue entry.key value = .ok n →
      parseIntValue entry.key (toString n) = .ok n := by
    intro n hn
    have hbounds : -2 ^ 31 ≤ n ∧ n ≤ 2 ^ 31 - 1 := bounds_of_parseIntValue hn
    rw [parseIntValue, Text.readSigned_toString_int hbounds.1 hbounds.2 (by norm_num)]
  cases htype : entry.valueType with
  | string =>
      simp only [canonicalizeValue, htype]
  | int =>
      simp only [canonicalizeValue, htype] at h ⊢
      cases hparse : parseIntValue entry.key value with
      | error e =>
          rw [hparse] at h
          cases h
      | ok n =>
          rw [hparse] at h
          obtain rfl := Except.ok.inj h
          rw [hint hparse]
          rfl
  | double =>
      have hvalue : ∃ v, parseDoubleValue entry.key value = .ok v ∧ toStringDouble v = text := by
        simp only [canonicalizeValue, htype] at h
        cases hparse : parseDoubleValue entry.key value with
        | error e =>
            rw [hparse] at h
            cases h
        | ok v =>
            rw [hparse] at h
            exact ⟨v, rfl, Except.ok.inj h⟩
      obtain ⟨v, hv, rfl⟩ := hvalue
      exact canonicalizeValue_toStringDouble htype hv
  | uint16 =>
      simp only [canonicalizeValue, htype] at h ⊢
      obtain ⟨n, hparse, h⟩ := Batch.of_bind_eq_ok h
      split at h
      · cases h
      next hrange =>
        obtain rfl := Except.ok.inj h
        rw [hint hparse]
        exact if_neg hrange
  | bool =>
      simp only [canonicalizeValue, htype] at h ⊢
      cases hparse : parseBoolValue entry.key value with
      | error e =>
          rw [hparse] at h
          cases h
      | ok flag =>
          rw [hparse] at h
          obtain rfl := Except.ok.inj h
          rw [parseBoolValue_printed]
          rfl

/-! ### Complete configurations -/

/-- Every field has a text that passes its own check, in the order of the fields. -/
structure Complete (config : GlobalConfig) : Prop where
  fields : config.values.map Prod.fst = kConfigEntries.map ConfigEntry.field
  canonical : ∀ entry ∈ kConfigEntries, ∀ text, config.values.lookup entry.field = some text →
    canonicalizeValue entry text = .ok text

theorem Complete.exists_text {config : GlobalConfig} (h : Complete config) {entry : ConfigEntry}
    (hentry : entry ∈ kConfigEntries) :
  ∃ text, config.values.lookup entry.field = some text
    ∧ config.getString entry.field = .ok text ∧ canonicalizeValue entry text = .ok text
  := by
  cases hlookup : config.values.lookup entry.field with
  | none =>
      rw [Keyed.lookup_eq_none, h.fields] at hlookup
      exact absurd (List.mem_map_of_mem hentry) hlookup
  | some text =>
      refine ⟨text, rfl, ?_, h.canonical entry hentry text hlookup⟩
      rw [getString, hlookup]

/-- A text that passes its own check may be stored. -/
theorem Complete.store {config : GlobalConfig} (h : Complete config) {entry : ConfigEntry}
    (hentry : entry ∈ kConfigEntries) {text : String}
    (htext : canonicalizeValue entry text = .ok text) :
  Complete (config.store entry.field text)
  := by
  constructor
  case fields =>
    rw [GlobalConfig.store, Keyed.map_fst_upsert, h.fields, if_pos (List.mem_map_of_mem hentry)]
  case canonical =>
    intro entry' hentry' text' hlookup
    rw [GlobalConfig.store, Keyed.lookup_upsert] at hlookup
    split at hlookup
    next hfield =>
      obtain rfl := Option.some.inj hlookup
      rwa [List.inj_on_of_nodup_map nodup_map_field hentry' hentry hfield]
    · exact h.canonical entry' hentry' text' hlookup

theorem Complete.set {config config' : GlobalConfig} (h : Complete config) {entry : ConfigEntry}
    (hentry : entry ∈ kConfigEntries) {value : String}
    (hset : config.set entry.field value = .ok config') :
  Complete config'
  := by
  obtain ⟨text, htext, rfl⟩ := exists_of_set_eq_ok hentry hset
  exact h.store hentry (canonicalizeValue_canonicalizeValue htext)

theorem Complete.sets {config config' : GlobalConfig} (h : Complete config)
    (hsets : Sets config config') :
  Complete config'
  := by
  induction hsets with
  | refl => exact h
  | set _ hentry hset ih => exact ih.set hentry hset

/-- Whatever calls are made, also calls that throw, a complete configuration stays complete. -/
theorem Complete.run {config : GlobalConfig} (h : Complete config) (calls : List Call) :
  Complete (run calls config)
  := by
  induction calls generalizing config with
  | nil => exact h
  | cons call calls ih =>
      apply ih
      rcases sets_make call config with hsets | ⟨-, serviceName, hmake⟩
      · exact h.sets hsets
      · dsimp only
        rw [hmake]
        exact ⟨h.fields, h.canonical⟩

/-- The text under which the default of a field is stored. -/
def defaultText (entry : ConfigEntry) : String :=
  (canonicalizeValue entry entry.defaultValue).toOption.getD ""

theorem canonicalizeValue_eq_defaultText {entry : ConfigEntry} (hentry : entry ∈ kConfigEntries) :
  canonicalizeValue entry entry.defaultValue = .ok (defaultText entry)
  := by
  obtain ⟨text, htext⟩ := canonicalizeValue_defaultValue hentry
  rw [defaultText, htext]
  rfl

/-- The configuration of the defaults. -/
def defaults : GlobalConfig where
  values := kConfigEntries.map fun entry => (entry.field, defaultText entry)

/-- The constructor sets the defaults. -/
theorem resetToDefaults_eq :
  resetToDefaults = .ok defaults
  := by
  have hloop : resetToDefaults = .ok (kConfigEntries.foldl
      (fun config entry => config.store entry.field (defaultText entry)) {}) := by
    apply Batch.foldlM_eq_ok
    intro config entry hentry
    exact set_eq config hentry (canonicalizeValue_eq_defaultText hentry)
  have hstored : ∀ (entries : List ConfigEntry) (config : GlobalConfig),
      entries.foldl (fun config entry => config.store entry.field (defaultText entry)) config
        = { config with
            values := entries.foldl
              (fun values entry => Keyed.upsert entry.field (fun _ => defaultText entry) values)
              config.values } := by
    intro entries
    induction entries with
    | nil => exact fun _ => rfl
    | cons entry entries ih => exact fun config => ih _
  have hvalues := Keyed.collect_of_nodup (f := fun entry _ => defaultText entry) nodup_map_field
  rw [Keyed.collect] at hvalues
  rw [hloop, hstored, hvalues]
  rfl

theorem lookup_defaults {entry : ConfigEntry} (hentry : entry ∈ kConfigEntries) :
  defaults.values.lookup entry.field = some (defaultText entry)
  := by
  have hnodup : (defaults.values.map Prod.fst).Nodup := by
    rw [defaults, List.map_map]
    exact nodup_map_field
  exact Keyed.lookup_eq_of_mem hnodup (List.mem_map.mpr ⟨entry, hentry, rfl⟩)

theorem complete_defaults :
  Complete defaults
  := by
  constructor
  case fields =>
    rw [defaults, List.map_map]
    rfl
  case canonical =>
    intro entry hentry text hlookup
    rw [lookup_defaults hentry] at hlookup
    obtain rfl := Option.some.inj hlookup
    exact canonicalizeValue_canonicalizeValue (canonicalizeValue_eq_defaultText hentry)

/-- The getters of the type of a field return a value, and its text may be set again. -/
structure Readable (config : GlobalConfig) (entry : ConfigEntry) : Prop where
  string : ∃ text, config.getString entry.field = .ok text
    ∧ config.set entry.field text = .ok config
  int : entry.valueType = .int → ∃ n, config.getInt entry.field = .ok n
  double : entry.valueType = .double → ∃ v, config.getDouble entry.field = .ok v
  uint16 : entry.valueType = .uint16 → ∃ n, config.getUInt16 entry.field = .ok n
  bool : entry.valueType = .bool → ∃ flag, config.getBool entry.field = .ok flag

theorem exists_of_map_eq_ok {α β : Type} {x : Except ConfigError α} {f : α → β} {b : β}
    (h : x.map f = .ok b) :
  ∃ a, x = .ok a
  := by
  cases x with
  | error e => cases h
  | ok a => exact ⟨a, rfl⟩

theorem Complete.readable {config : GlobalConfig} (h : Complete config) {entry : ConfigEntry}
    (hentry : entry ∈ kConfigEntries) :
  Readable config entry
  := by
  obtain ⟨text, hlookup, hstring, htext⟩ := h.exists_text hentry
  have hkey := key_eq hentry
  constructor
  case string =>
    refine ⟨text, hstring, ?_⟩
    rw [set_eq config hentry htext, GlobalConfig.store, Keyed.upsert_of_lookup_eq hlookup]
  case int =>
    intro htype
    simp only [canonicalizeValue, htype] at htext
    rw [getInt, hstring, hkey]
    exact exists_of_map_eq_ok htext
  case double =>
    intro htype
    simp only [canonicalizeValue, htype] at htext
    rw [getDouble, hstring, hkey]
    exact exists_of_map_eq_ok htext
  case uint16 =>
    intro htype
    simp only [canonicalizeValue, htype] at htext
    obtain ⟨n, hparse, hrange⟩ := Batch.of_bind_eq_ok htext
    split at hrange
    · cases hrange
    next hrange' =>
      use n
      simp only [getUInt16, getInt, hstring, hkey, hparse, bind, Except.bind]
      exact if_neg hrange'
  case bool =>
    intro htype
    simp only [canonicalizeValue, htype] at htext
    rw [getBool, hstring, hkey]
    exact exists_of_map_eq_ok htext

/-- From the defaults on, whatever calls are made, also calls that throw, every field can be read. -/
theorem readable_run (calls : List Call) :
  ∃ config, resetToDefaults = .ok config
    ∧ ∀ entry ∈ kConfigEntries, Readable (GlobalConfig.run calls config) entry
  := by
  refine ⟨defaults, resetToDefaults_eq, ?_⟩
  intro entry hentry
  exact (complete_defaults.run calls).readable hentry

/-! ### Texts of a file -/

theorem nodup_map_key :
  (kConfigEntries.map ConfigEntry.key).Nodup
  := by
  decide +kernel

/-- Every entry is found by its key, which is no number of a ranker. -/
theorem findEntryByYamlKey_key {entry : ConfigEntry} (hentry : entry ∈ kConfigEntries) :
  findEntryByYamlKey entry.key = some entry ∧ parseRankingRankerArrayIndex entry.key = none
  := by
  have hfind : findEntryByYamlKey entry.key = some entry :=
    Keyed.find?_eq_some_of_nodup nodup_map_key hentry
  use hfind
  cases hindex : parseRankingRankerArrayIndex entry.key with
  | none => rfl
  | some index =>
      have hstart := startsWith_of_parseRankingRankerArrayIndex (Option.isSome_of_eq_some hindex)
      rw [findEntryByYamlKey_eq_none hstart] at hfind
      cases hfind

/-- The loop over texts of distinct keys sets the field of each key. -/
theorem getString_applyValues_eq {values : List (String × String)}
    (hnodup : (values.map Prod.fst).Nodup) {rankingRankers names : List (ℤ × String)}
    {config config' : GlobalConfig}
    (h : applyValues values rankingRankers config = (.ok names, config')) {entry : ConfigEntry}
    (hentry : entry ∈ kConfigEntries) :
  config'.getString entry.field
    = (values.lookup entry.key).elim (config.getString entry.field) (canonicalizeValue entry)
  := by
  induction values generalizing rankingRankers config with
  | nil =>
      cases h
      rfl
  | cons p values ih =>
      obtain ⟨key, value⟩ := p
      obtain ⟨hkey, hrest⟩ := List.nodup_cons.mp hnodup
      obtain ⟨hfind, hindex⟩ := findEntryByYamlKey_key hentry
      rw [applyValues] at h
      rw [Keyed.lookup_cons_eq_ite]
      split at h
      next index hfound =>
        have hne : entry.key ≠ key := by
          rintro rfl
          rw [hindex] at hfound
          cases hfound
        rw [if_neg hne]
        exact ih hrest h
      split at h
      · cases h
      next found hfound =>
        obtain ⟨hmem, hfoundKey⟩ := mem_of_findEntryByYamlKey hfound
        split at h
        · cases h
        next stored hset =>
          obtain ⟨text, htext, rfl⟩ := exists_of_set_eq_ok hmem hset
          rw [ih hrest h, getString_store]
          by_cases heq : entry.key = key
          · rw [← heq, hfind] at hfound
            obtain rfl := Option.some.inj hfound
            rw [if_pos heq, if_pos rfl, Option.elim_some, htext,
              Keyed.lookup_eq_none.mpr (heq ▸ hkey), Option.elim_none]
          · have hfield : entry.field ≠ found.field := by
              intro hfield
              apply heq
              rw [List.inj_on_of_nodup_map nodup_map_field hentry hmem hfield, hfoundKey]
            rw [if_neg heq, if_neg hfield]

theorem nodup_loadedValues (values : List (String × String)) :
  ((loadedValues values).map Prod.fst).Nodup
  := by
  rw [loadedValues, ((Ranked.sortBy_perm _ _).map Prod.fst).nodup_iff]
  exact nodup_collect values

/-- The text that a file gives a field: the last under its key, or the names of the rankers. -/
def fileText (values : List (String × String)) (entry : ConfigEntry) : Option String :=
  if entry.field = .rankingRankers ∧ indexedNames (loadedValues values) ≠ [] then
    some (joinCommaSeparatedValues (rankerNames (indexedNames (loadedValues values))))
  else (loadedValues values).lookup entry.key

/-- A file that is accepted gives each field its text. -/
theorem getString_applyFile {filePath : String} {root : YamlNode} {values : List (String × String)}
    (hvalues : flattenYamlNode "" root = .ok values) {config config' : GlobalConfig}
    (h : applyFile filePath (.ok root) config = (.ok (), config')) {entry : ConfigEntry}
    (hentry : entry ∈ kConfigEntries) :
  config'.getString entry.field
    = (fileText values entry).elim (config.getString entry.field) (canonicalizeValue entry)
  := by
  have hnames := applyValues_eq (loadedValues values) [] config
  simp only [applyFile, hvalues] at h
  cases hloop : applyValues (loadedValues values) [] config with
  | mk result stored =>
      rw [hloop] at h
      cases result with
      | error e => cases h
      | ok names =>
          have hstored := getString_applyValues_eq (nodup_loadedValues values) hloop hentry
          have heq : names = indexedNames (loadedValues values) := by
            rw [hloop] at hnames
            have hfst := congrArg Prod.fst hnames
            cases hothers : (applyValues (otherValues (loadedValues values)) [] config).1 with
            | error e =>
                rw [hothers] at hfst
                cases hfst
            | ok others =>
                rw [hothers] at hfst
                exact Except.ok.inj hfst
          subst heq
          dsimp only at h
          rw [fileText]
          split at h
          next hnone =>
            cases h
            rw [if_neg (fun hsome => hsome.2 hnone)]
            exact hstored
          next hsome =>
            split at h
            · cases h
            next config'' hset =>
              cases h
              have hrankers : (⟨.rankingRankers, "ranking.rankers", "ranking_rankers", .string,
                  "heuristic_v1"⟩ : ConfigEntry) ∈ kConfigEntries := by decide
              obtain ⟨text, htext, rfl⟩ := exists_of_set_eq_ok hrankers hset
              rw [getString_store]
              by_cases hfield : entry.field = .rankingRankers
              · have hentryEq := List.inj_on_of_nodup_map nodup_map_field hentry hrankers hfield
                rw [if_pos hfield, if_pos ⟨hfield, hsome⟩, Option.elim_some, hentryEq, htext]
              · rw [if_neg hfield, if_neg (fun hboth => hfield hboth.1)]
                exact hstored

/-! ### Texts of the arguments -/

/-- The text that the arguments give a field: that of its last argument. -/
def lastArgument (args : List String) (entry : ConfigEntry) : Option String :=
  (((argumentsFrom false args).filterMap readFirst).reverse.find?
    (·.1.field = entry.field)).map Prod.snd

theorem mem_of_readFirst {argument : List String} {read : ConfigEntry × String}
    (h : readFirst argument = some read) :
  read.1 ∈ kConfigEntries
  := by
  cases argument with
  | nil => cases h
  | cons rawArg rest =>
      rw [readFirst] at h
      split at h
      · cases h
      next hread =>
        cases h
        exact mem_of_readArgument hread

/-- Arguments that are set one after the other leave each field with its last text. -/
theorem getString_foldlM_reads {reads : List (ConfigEntry × String)}
    (hreads : ∀ read ∈ reads, read.1 ∈ kConfigEntries) {config config' : GlobalConfig}
    (h : reads.foldlM (fun config read =>
        if read.1.field = .configPath then .ok config else config.set read.1.field read.2) config
      = .ok config')
    {entry : ConfigEntry} (hentry : entry ∈ kConfigEntries) :
  config'.getString entry.field
    = if entry.field = .configPath then config.getString entry.field
      else (reads.reverse.find? (·.1.field = entry.field)).elim (config.getString entry.field)
        fun read => canonicalizeValue entry read.2
  := by
  induction reads generalizing config with
  | nil =>
      cases h
      split <;> rfl
  | cons read reads ih =>
      have hrest := fun read h => hreads read (List.mem_cons_of_mem _ h)
      rw [List.foldlM_cons] at h
      rw [List.reverse_cons, List.find?_append]
      split at h
      next hpath =>
        rw [ih hrest h]
        split
        · rfl
        next hfield =>
          have hne : read.1.field ≠ entry.field := fun heq => hfield (heq ▸ hpath)
          rw [List.find?_cons_of_neg (by rwa [decide_eq_true_iff]), List.find?_nil, Option.or_none]
      next hpath =>
        obtain ⟨stored, hset, h⟩ := Batch.of_bind_eq_ok h
        have hread := hreads read List.mem_cons_self
        obtain ⟨text, htext, rfl⟩ := exists_of_set_eq_ok hread hset
        rw [ih hrest h, getString_store]
        by_cases heq : entry.field = read.1.field
        · obtain rfl := List.inj_on_of_nodup_map nodup_map_field hentry hread heq
          rw [if_neg hpath, if_neg hpath, if_pos rfl, List.find?_cons_of_pos (by simp)]
          cases reads.reverse.find? (·.1.field = read.1.field) with
          | none => exact htext.symm
          | some last => rfl
        · rw [if_neg heq, List.find?_cons_of_neg (by rw [decide_eq_true_iff]; exact Ne.symm heq),
            List.find?_nil, Option.or_none]

/-- A command line that is accepted gives each field the text of its last argument. -/
theorem getString_apply {args : List String} {config config' : GlobalConfig}
    (h : apply args config = (.ok (), config')) {entry : ConfigEntry}
    (hentry : entry ∈ kConfigEntries) :
  config'.getString entry.field
    = if entry.field = .configPath then config.getString entry.field
      else (lastArgument args entry).elim (config.getString entry.field) (canonicalizeValue entry)
  := by
  obtain ⟨reads, hmap, hfold⟩ := applyFrom_arguments h
  have hfilter : (argumentsFrom false args).filterMap readFirst = reads := by
    have hid := congrArg (List.filterMap id) hmap
    rwa [List.filterMap_map, List.filterMap_map, Function.id_comp, Function.id_comp,
      List.filterMap_some] at hid
  have hreads : ∀ read ∈ reads, read.1 ∈ kConfigEntries := by
    intro read hread
    rw [← hfilter] at hread
    obtain ⟨argument, -, hfirst⟩ := List.mem_filterMap.mp hread
    exact mem_of_readFirst hfirst
  rw [getString_foldlM_reads hreads hfold hentry, lastArgument, hfilter, Option.elim_map]
  rfl

/-! ### Starts -/

/-- The configuration of a service that starts: it is named, then its file and its arguments are
read, as in `RunGrpcService`. -/
def startService (serviceName : String) (files : FileSystem) (args : List String)
    (config : GlobalConfig) : Except ConfigError Unit × GlobalConfig :=
  match initializeConfig serviceName config with
  | (.error e, config) => (.error e, config)
  | (.ok (), config) =>
    match applyStartupFile files args config with
    | (.error e, config) => (.error e, config)
    | (.ok (), config) => apply args config

/-- The file that a start reads, if there is one. -/
def startupFile (files : FileSystem) (args : List String) (config : GlobalConfig) : Option String :=
  match findStartupConfigPath config args with
  | .error _ => none
  | .ok startupConfigPath =>
    let resolvedConfigPath := resolveStartupConfigPath files startupConfigPath
    if startupConfigPath.fromCommandLine = false ∧ files.fileExists resolvedConfigPath = false then
      none
    else some resolvedConfigPath

/-- The text that the file of a start gives a field. -/
def startupText (files : FileSystem) (args : List String) (config : GlobalConfig)
    (entry : ConfigEntry) : Option String :=
  (startupFile files args config).bind fun path => (files.loadFile path).toOption.bind fun root =>
    (flattenYamlNode "" root).toOption.bind fun values => fileText values entry

theorem findStartupConfigPath_serviceName (config : GlobalConfig) (serviceName : String)
    (args : List String) :
  findStartupConfigPath { config with serviceName := serviceName } args
    = findStartupConfigPath config args
  := by
  induction args with
  | nil => rfl
  | cons rawArg rest ih =>
      rw [findStartupConfigPath, findStartupConfigPath, ih]

/-- The texts of a configuration after its startup file. -/
theorem getString_applyStartupFile {files : FileSystem} {args : List String}
    {config config' : GlobalConfig} (h : applyStartupFile files args config = (.ok (), config'))
    {entry : ConfigEntry} (hentry : entry ∈ kConfigEntries) :
  config'.getString entry.field
    = if entry.field = .configPath then
        (startupFile files args config).elim (config.getString entry.field) .ok
      else (startupText files args config entry).elim (config.getString entry.field)
        (canonicalizeValue entry)
  := by
  rw [applyStartupFile] at h
  rw [startupText, startupFile]
  split at h
  · cases h
  next startupConfigPath hfound =>
    dsimp only at h ⊢
    split at h
    next hmissing =>
      cases h
      rw [if_pos hmissing]
      split <;> rfl
    next hread =>
      rw [if_neg hread]
      generalize resolveStartupConfigPath files startupConfigPath = path at h ⊢
      cases hfile : applyFile path (files.loadFile path) config with
      | mk result stored =>
          rw [hfile] at h
          cases result with
          | error e => cases h
          | ok _ =>
              have hpath : (⟨.configPath, "config.path", "config_path", .string,
                  "config.debug.yaml"⟩ : ConfigEntry) ∈ kConfigEntries := by decide
              dsimp only at h
              split at h
              · cases h
              next hset =>
                cases h
                obtain ⟨text, htext, rfl⟩ := exists_of_set_eq_ok hpath hset
                obtain rfl : path = text := Except.ok.inj htext
                rw [getString_store]
                by_cases hfield : entry.field = .configPath
                · rw [if_pos hfield, if_pos hfield, Option.elim_some]
                · rw [if_neg hfield, if_neg hfield, Option.bind_some]
                  cases hload : files.loadFile path with
                  | error what =>
                      rw [hload] at hfile
                      cases hfile
                  | ok root =>
                      rw [hload] at hfile
                      cases hvalues : flattenYamlNode "" root with
                      | error e =>
                          simp only [applyFile, hvalues] at hfile
                          cases hfile
                      | ok values =>
                          rw [getString_applyFile hvalues hfile hentry, Except.toOption,
                            Option.bind_some, hvalues]
                          rfl

theorem canonicalizeValue_configPath {entry : ConfigEntry} (hentry : entry ∈ kConfigEntries)
    (hfield : entry.field = .configPath) (value : String) :
  canonicalizeValue entry value = .ok value
  := by
  have htype : ∀ entry ∈ kConfigEntries, entry.field = .configPath →
      entry.valueType = .string := by decide
  simp only [canonicalizeValue, htype entry hentry hfield]

theorem exists_of_initializeConfig {serviceName : String} {config config' : GlobalConfig}
    {result : Except ConfigError Unit}
    (h : initializeConfig serviceName config = (result, config')) :
  ∃ name, config' = { config with serviceName := name }
  := by
  rw [initializeConfig] at h
  split at h
  · exact ⟨config.serviceName, (Prod.mk.inj h).2.symm⟩
  split at h
  · exact ⟨serviceName, (Prod.mk.inj h).2.symm⟩
  split at h <;> exact ⟨config.serviceName, (Prod.mk.inj h).2.symm⟩

/-- A file with a host and a port. -/
def redisFiles : FileSystem where
  isAbsolute := fun _ => true
  executableRelative := id
  currentPathRelative := id
  fileExists := fun _ => true
  inspect := fun _ => .ok true
  loadFile := fun _ =>
    .ok (.map [(some "redis", .map [(some "host", .scalar "filed"), (some "port", .scalar "007")])])

/-- The file that holds some texts under their keys. -/
def yamlOfValues (values : List (String × String)) : YamlNode :=
  .map (values.map fun p => (some p.1, .scalar p.2))

theorem flattenYamlNode_yamlOfValues {values : List (String × String)}
    (h : ∀ p ∈ values, p.1 ≠ "") :
  flattenYamlNode "" (yamlOfValues values) = .ok values
  := by
  rw [yamlOfValues, flattenYamlNode]
  induction values with
  | nil => rfl
  | cons p values ih =>
      have hp : p.1 ≠ "" := h p List.mem_cons_self
      rw [List.map_cons, flattenYamlEntries, joinKey, if_pos rfl, flattenYamlNode, if_neg hp,
        ih fun q hq => h q (List.mem_cons_of_mem p hq)]
      rfl

theorem lookup_loadedValues {values : List (String × String)}
    (hnodup : (values.map Prod.fst).Nodup) (key : String) :
  (loadedValues values).lookup key = values.lookup key
  := by
  rw [loadedValues, Keyed.collect_of_nodup hnodup, List.map_id']
  exact Keyed.lookup_perm (((Ranked.sortBy_perm _ values).map Prod.fst).nodup_iff.mpr hnodup)
    (Ranked.sortBy_perm _ values) key

/-- Texts that pass the check of their keys are set. -/
theorem exists_applyValues {values : List (String × String)}
    (h : ∀ p ∈ values, ∃ entry ∈ kConfigEntries, entry.key = p.1
      ∧ ∃ text, canonicalizeValue entry p.2 = .ok text)
    (rankingRankers : List (ℤ × String)) (config : GlobalConfig) :
  ∃ config', applyValues values rankingRankers config = (.ok rankingRankers, config')
  := by
  induction values generalizing config with
  | nil => exact ⟨config, rfl⟩
  | cons p values ih =>
      obtain ⟨key, value⟩ := p
      obtain ⟨entry, hentry, hkey, text, htext⟩ := h (key, value) List.mem_cons_self
      obtain rfl : entry.key = key := hkey
      obtain ⟨hfind, hindex⟩ := findEntryByYamlKey_key hentry
      rw [applyValues]
      simp only [hindex, hfind, set_eq config hentry htext]
      exact ih (fun q hq => h q (List.mem_cons_of_mem _ hq)) _

theorem applyFile_eq_ok {filePath : String} {root : YamlNode} {values : List (String × String)}
    (hvalues : flattenYamlNode "" root = .ok values) {config config' : GlobalConfig}
    (h : applyValues (loadedValues values) [] config = (.ok [], config')) :
  applyFile filePath (.ok root) config = (.ok (), config')
  := by
  simp only [applyFile, hvalues, h, if_true]

/-- The text of every field of a complete configuration, by key. -/
def resolvedValues (config : GlobalConfig) : List (String × String) :=
  kConfigEntries.map fun entry => (entry.key, (config.values.lookup entry.field).getD "")

theorem map_fst_resolvedValues (config : GlobalConfig) :
  (resolvedValues config).map Prod.fst = kConfigEntries.map ConfigEntry.key
  := by
  rw [resolvedValues, List.map_map]
  rfl

theorem nodup_resolvedValues (config : GlobalConfig) :
  ((resolvedValues config).map Prod.fst).Nodup
  := by
  rw [map_fst_resolvedValues]
  exact nodup_map_key

theorem lookup_resolvedValues (config : GlobalConfig) {entry : ConfigEntry}
    (hentry : entry ∈ kConfigEntries) :
  (resolvedValues config).lookup entry.key = some ((config.values.lookup entry.field).getD "")
  := by
  exact Keyed.lookup_eq_of_mem (nodup_resolvedValues config) (List.mem_map.mpr ⟨entry, hentry, rfl⟩)

theorem mem_loadedValues_resolvedValues {config : GlobalConfig} {p : String × String} :
  p ∈ loadedValues (resolvedValues config) ↔ p ∈ resolvedValues config
  := by
  rw [loadedValues, Keyed.collect_of_nodup (nodup_resolvedValues config), List.map_id']
  exact (Ranked.sortBy_perm _ _).mem_iff

/-- The resolved values give each field its text. -/
theorem fileText_resolvedValues (config : GlobalConfig) {entry : ConfigEntry}
    (hentry : entry ∈ kConfigEntries) :
  fileText (resolvedValues config) entry = some ((config.values.lookup entry.field).getD "")
  := by
  have hnames : indexedNames (loadedValues (resolvedValues config)) = [] := by
    rw [indexedNames, List.filterMap_eq_nil_iff]
    intro p hp
    obtain ⟨found, hfound, rfl⟩ := List.mem_map.mp (mem_loadedValues_resolvedValues.mp hp)
    rw [(findEntryByYamlKey_key hfound).2]
    rfl
  rw [fileText, if_neg (fun h => h.2 hnames), lookup_loadedValues (nodup_resolvedValues config),
    lookup_resolvedValues config hentry]

theorem Complete.getResolvedValues {config : GlobalConfig} (h : Complete config) :
  config.getResolvedValues = .ok (resolvedValues config)
  := by
  apply Batch.mapM_eq_ok
  intro entry hentry
  obtain ⟨text, hlookup, hstring, -⟩ := h.exists_text hentry
  rw [hstring, hlookup]
  rfl

/-- The resolved values of a complete configuration, read from a file, give any other its texts. -/
theorem Complete.exists_applyFile {config config' : GlobalConfig} (h : Complete config)
    (h' : Complete config') (filePath : String) :
  ∃ loaded, applyFile filePath (.ok (yamlOfValues (resolvedValues config))) config'
      = (.ok (), loaded)
    ∧ loaded.values = config.values
  := by
  have hentries : ∀ p ∈ resolvedValues config, ∃ entry ∈ kConfigEntries, entry.key = p.1
      ∧ ∃ text, canonicalizeValue entry p.2 = .ok text := by
    intro p hp
    obtain ⟨entry, hentry, rfl⟩ := List.mem_map.mp hp
    obtain ⟨text, hlookup, -, htext⟩ := h.exists_text hentry
    refine ⟨entry, hentry, rfl, text, ?_⟩
    rw [hlookup]
    exact htext
  have hflat : flattenYamlNode "" (yamlOfValues (resolvedValues config))
      = .ok (resolvedValues config) := by
    apply flattenYamlNode_yamlOfValues
    intro p hp
    obtain ⟨entry, hentry, hkey, -⟩ := hentries p hp
    have hne : ∀ entry ∈ kConfigEntries, entry.key ≠ "" := by decide +kernel
    rw [← hkey]
    exact hne entry hentry
  obtain ⟨loaded, hloop⟩ :=
    exists_applyValues (fun p hp => hentries p (mem_loadedValues_resolvedValues.mp hp)) [] config'
  have happly : applyFile filePath (.ok (yamlOfValues (resolvedValues config))) config'
      = (.ok (), loaded) := applyFile_eq_ok hflat hloop
  refine ⟨loaded, happly, ?_⟩
  have hcomplete : Complete loaded := by
    have hsets := sets_applyFile filePath (.ok (yamlOfValues (resolvedValues config))) config'
    rw [happly] at hsets
    exact h'.sets hsets
  apply Keyed.eq_of_lookup
  · rw [hcomplete.fields, h.fields]
  · rw [hcomplete.fields]
    exact nodup_map_field
  · intro field hfield
    rw [hcomplete.fields] at hfield
    obtain ⟨entry, hentry, rfl⟩ := List.mem_map.mp hfield
    obtain ⟨text, hlookup, -, htext⟩ := h.exists_text hentry
    obtain ⟨text', hlookup', hstring', -⟩ := hcomplete.exists_text hentry
    have hstored := getString_applyFile hflat happly hentry
    rw [fileText_resolvedValues config hentry, hlookup, Option.elim_some, Option.getD_some, htext,
      hstring'] at hstored
    rw [hlookup, hlookup', Except.ok.inj hstored]

/-- A file with the resolved values of one configuration gives its texts to any other, whatever calls
were made on both. -/
theorem values_applyFile_dump (calls calls' : List Call) (filePath : String) :
  ∃ config values loaded, resetToDefaults = .ok config
    ∧ (GlobalConfig.run calls config).getResolvedValues = .ok values
    ∧ applyFile filePath (.ok (yamlOfValues values)) (GlobalConfig.run calls' config)
      = (.ok (), loaded)
    ∧ loaded.values = (GlobalConfig.run calls config).values
  := by
  have hcomplete := complete_defaults.run calls
  obtain ⟨loaded, happly, hvalues⟩ :=
    hcomplete.exists_applyFile (complete_defaults.run calls') filePath
  exact ⟨defaults, _, loaded, resetToDefaults_eq, hcomplete.getResolvedValues, happly, hvalues⟩

end GlobalConfig
