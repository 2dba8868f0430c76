import ShootingStar.Utilities.ConfigRuns
import ShootingStar.Utilities.Logger

/-!
# Logged configurations

A service logs its configuration: all of it, or the section under a key.  The section of a key has the
keys whose parts between dots start with the parts of that key (`belongsToConfigSection_iff`).

The lines do not depend on the texts of sensitive keys (`logs_congr`), and the fields of a section can be
read back from its line (`readObject_logResolvedConfigSection`).
-/

namespace GlobalConfig

open Logger JsonText
open Utf8 (bytesOf)

/-! ### Lines -/

/-- What is logged in place of a sensitive text. -/
def kRedactedValue : String := "<redacted>"

/-- The key is in the section of a prefix. -/
def belongsToConfigSection (key configKeyPrefix : String) : Bool :=
  if configKeyPrefix = "" then true
  else if startsWith key configKeyPrefix then
    decide (key.toList.length = configKeyPrefix.toList.length)
      || key.toList[configKeyPrefix.toList.length]? == some '.'
  else false

/-- The text of the key must not be logged. -/
def isSensitiveConfigKey (key : String) : Bool :=
  "password".toList <:+: key.toList

/-- The field that is logged for a key. -/
def resolvedField (p : String × String) : LogField where
  key := bytesOf p.1
  value := bytesOf (if isSensitiveConfigKey p.1 then kRedactedValue else p.2)

/-- `LogResolvedConfig`: the line that is written, if one is. -/
def logResolvedConfig (formatUtcTimestamp : List UInt8) (minLogLevel : LogLevel)
    (loggerName : List UInt8) (config : GlobalConfig) : Except ConfigError (Option (List UInt8)) := do
  let values ← config.getResolvedValues
  .ok (logStructured formatUtcTimestamp minLogLevel (ascii "info") loggerName
    (ascii "resolved_config") (values.map resolvedField))

/-- The fields of a section. -/
def sectionFields (configKeyPrefix : String) (values : List (String × String)) : List LogField :=
  ⟨ascii "config_section", bytesOf configKeyPrefix⟩
    :: (values.filter fun p => belongsToConfigSection p.1 configKeyPrefix).map resolvedField

/-- `LogResolvedConfigSection`: the line that is written, if one is. -/
def logResolvedConfigSection (formatUtcTimestamp : List UInt8) (minLogLevel : LogLevel)
    (loggerName : List UInt8) (configKeyPrefix : String) (config : GlobalConfig) :
    Except ConfigError (Option (List UInt8)) := do
  let values ← config.getResolvedValues
  .ok (logStructured formatUtcTimestamp minLogLevel (ascii "info") loggerName
    (ascii "resolved_config_section") (sectionFields configKeyPrefix values))

/-! ### Sections -/

/-- The parts of a key between dots. -/
def components (key : String) : List (List Char) :=
  key.toList.splitOn '.'

/-- Texts that are joined after others are joined to them. -/
theorem intercalate_append {α : Type*} {a : α} {ls ls' : List (List α)} (h : ls ≠ []) (h' : ls' ≠ []) :
  [a].intercalate (ls ++ ls') = [a].intercalate ls ++ a :: [a].intercalate ls'
  := by
  induction ls with
  | nil => exact absurd rfl h
  | cons l ls ih =>
      rw [List.cons_append, List.intercalate_cons_of_ne_nil (List.append_ne_nil_of_right_ne_nil _ h')]
      by_cases hls : ls = []
      · simp [hls]
      · rw [ih hls, List.intercalate_cons_of_ne_nil hls]
        simp

/-- The parts of a text begin with the parts of another when it is the other, or goes on with the
separator. -/
theorem splitOn_prefix_iff {α : Type*} [DecidableEq α] {a : α} {start l : List α} :
  start.splitOn a <+: l.splitOn a ↔ start = l ∨ start ++ [a] <+: l
  := by
  constructor
  · rintro ⟨ls, hls⟩
    have hjoined := congrArg [a].intercalate hls
    rw [List.intercalate_splitOn] at hjoined
    by_cases hnil : ls = []
    · left
      rwa [hnil, List.append_nil, List.intercalate_splitOn] at hjoined
    · right
      rw [intercalate_append (List.splitOn_ne_nil a start) hnil, List.intercalate_splitOn] at hjoined
      exact ⟨[a].intercalate ls, by rw [← hjoined, List.append_assoc, List.singleton_append]⟩
  · rintro (rfl | ⟨rest, rfl⟩)
    · exact List.prefix_rfl
    · rw [List.append_assoc, List.singleton_append, List.splitOn_append_cons_self]
      exact List.prefix_append _ _

/-- The section of a key has the keys whose parts start with its parts. -/
theorem belongsToConfigSection_iff {key configKeyPrefix : String} (h : configKeyPrefix ≠ "") :
  belongsToConfigSection key configKeyPrefix = true ↔ components configKeyPrefix <+: components key
  := by
  rw [components, components, splitOn_prefix_iff, belongsToConfigSection, if_neg h]
  split
  next hstart =>
    obtain ⟨rest, hrest⟩ := List.isPrefixOf_iff_prefix.mp hstart
    rw [← hrest, List.getElem?_append_right le_rfl, Nat.sub_self, List.length_append]
    cases rest with
    | nil => simp
    | cons c rest => simp [List.prefix_append_right_inj, List.cons_prefix_cons, @eq_comm _ '.' c]
  next hstart =>
    have hnot : ¬ configKeyPrefix.toList <+: key.toList := fun hprefix =>
      hstart (List.isPrefixOf_iff_prefix.mpr hprefix)
    constructor
    · nofun
    · rintro (heq | hprefix)
      · exact absurd (heq ▸ List.prefix_rfl) hnot
      · exact absurd ((List.prefix_append _ _).trans hprefix) hnot

/-! ### What the lines tell -/

/-- The fields of sensitive keys are logged without their texts. -/
theorem resolvedField_congr {key value value' : String}
    (h : isSensitiveConfigKey key = false → value = value') :
  resolvedField (key, value) = resolvedField (key, value')
  := by
  cases hsensitive : isSensitiveConfigKey key with
  | true => simp [resolvedField, hsensitive]
  | false =>
      obtain rfl : value = value' := h hsensitive
      rfl

/-- The field that is logged for an entry. -/
def entryField (config : GlobalConfig) (entry : ConfigEntry) : LogField :=
  resolvedField (entry.key, (config.values.lookup entry.field).getD "")

theorem Complete.logResolvedConfig_eq {config : GlobalConfig} (h : Complete config)
    (formatUtcTimestamp : List UInt8) (minLogLevel : LogLevel) (loggerName : List UInt8) :
  logResolvedConfig formatUtcTimestamp minLogLevel loggerName config
    = .ok (logStructured formatUtcTimestamp minLogLevel (ascii "info") loggerName
      (ascii "resolved_config") (kConfigEntries.map (entryField config)))
  := by
  rw [logResolvedConfig, h.getResolvedValues, resolvedValues]
  simp only [bind, Except.bind, List.map_map]
  rfl

theorem Complete.logResolvedConfigSection_eq {config : GlobalConfig} (h : Complete config)
    (formatUtcTimestamp : List UInt8) (minLogLevel : LogLevel) (loggerName : List UInt8)
    (configKeyPrefix : String) :
  logResolvedConfigSection formatUtcTimestamp minLogLevel loggerName configKeyPrefix config
    = .ok (logStructured formatUtcTimestamp minLogLevel (ascii "info") loggerName
      (ascii "resolved_config_section")
      (⟨ascii "config_section", bytesOf configKeyPrefix⟩
        :: (kConfigEntries.filter fun entry => belongsToConfigSection entry.key configKeyPrefix).map
          (entryField config)))
  := by
  rw [logResolvedConfigSection, h.getResolvedValues, resolvedValues]
  simp only [bind, Except.bind, sectionFields, List.filter_map, List.map_map]
  rfl

/-- Configurations that only differ in texts of sensitive keys log the same lines. -/
theorem logs_congr (calls calls' : List Call) {config : GlobalConfig}
    (hreset : resetToDefaults = .ok config)
    (h : ∀ entry ∈ kConfigEntries, isSensitiveConfigKey entry.key = false →
      (GlobalConfig.run calls config).getString entry.field
        = (GlobalConfig.run calls' config).getString entry.field)
    (formatUtcTimestamp : List UInt8) (minLogLevel : LogLevel) (loggerName : List UInt8) :
  logResolvedConfig formatUtcTimestamp minLogLevel loggerName (GlobalConfig.run calls config)
      = logResolvedConfig formatUtcTimestamp minLogLevel loggerName (GlobalConfig.run calls' config)
    ∧ ∀ configKeyPrefix,
      logResolvedConfigSection formatUtcTimestamp minLogLevel loggerName configKeyPrefix
          (GlobalConfig.run calls config)
        = logResolvedConfigSection formatUtcTimestamp minLogLevel loggerName configKeyPrefix
          (GlobalConfig.run calls' config)
  := by
  obtain rfl := Except.ok.inj (resetToDefaults_eq.symm.trans hreset)
  have hcomplete := complete_defaults.run calls
  have hcomplete' := complete_defaults.run calls'
  have hfields : ∀ entry ∈ kConfigEntries, entryField (GlobalConfig.run calls defaults) entry
      = entryField (GlobalConfig.run calls' defaults) entry := by
    intro entry hentry
    apply resolvedField_congr
    intro hsensitive
    obtain ⟨text, hlookup, hstring, -⟩ := hcomplete.exists_text hentry
    obtain ⟨text', hlookup', hstring', -⟩ := hcomplete'.exists_text hentry
    have heq := h entry hentry hsensitive
    rw [hstring, hstring'] at heq
    rw [hlookup, hlookup', Except.ok.inj heq]
  constructor
  · rw [hcomplete.logResolvedConfig_eq, hcomplete'.logResolvedConfig_eq,
      List.map_congr_left hfields]
  · intro configKeyPrefix
    rw [hcomplete.logResolvedConfigSection_eq, hcomplete'.logResolvedConfigSection_eq,
      List.map_congr_left fun entry hentry => hfields entry (List.mem_of_mem_filter hentry)]

/-- A password that is set in one of two configurations is not logged. -/
theorem logs_congr_password :
  logResolvedConfig [] .info [] (GlobalConfig.run [.apply ["--redis_password=secret"]] defaults)
    = logResolvedConfig [] .info [] (GlobalConfig.run [] defaults)
  := by
  have happly : (apply ["--redis_password=secret"] defaults).1 = .ok () := by decide +kernel
  have hread : (argumentsFrom false ["--redis_password=secret"]).filterMap readFirst
      = [(⟨.redisPassword, "redis.password", "redis_password", .string, ""⟩, "secret")] := by
    decide +kernel
  have hsensitive : isSensitiveConfigKey "redis.password" = true := by decide +kernel
  have h : ∀ entry ∈ kConfigEntries, isSensitiveConfigKey entry.key = false →
      (GlobalConfig.run [.apply ["--redis_password=secret"]] defaults).getString entry.field
        = (GlobalConfig.run [] defaults).getString entry.field := by
    intro entry hentry hvisible
    have hfield : Field.redisPassword ≠ entry.field := by
      intro hfield
      have hkey : "redis.password" = entry.key := (congrArg key hfield).trans (key_eq hentry)
      rw [← hkey, hsensitive] at hvisible
      cases hvisible
    apply (getString_apply (Prod.ext happly rfl) hentry).trans
    rw [lastArgument, hread]
    split
    · rfl
    · simp [hfield, GlobalConfig.run]
  apply (logs_congr [.apply ["--redis_password=secret"]] [] resetToDefaults_eq h [] .info []).1

/-- The keys of a section with a name. -/
theorem filter_belongsToConfigSection {configKeyPrefix : String} (h : configKeyPrefix ≠ "") :
  (kConfigEntries.filter fun entry => belongsToConfigSection entry.key configKeyPrefix)
    = kConfigEntries.filter fun entry => components configKeyPrefix <+: components entry.key
  := by
  apply List.filter_congr
  intro entry _
  rw [Bool.eq_iff_iff, belongsToConfigSection_iff h, decide_eq_true_iff]

/-- The text of a field is logged unless its key is sensitive. -/
theorem Complete.value_entryField {config : GlobalConfig} (h : Complete config)
    {entry : ConfigEntry} (hentry : entry ∈ kConfigEntries) :
  if isSensitiveConfigKey entry.key then (entryField config entry).value = bytesOf kRedactedValue
  else ∃ text, config.getString entry.field = .ok text
    ∧ (entryField config entry).value = bytesOf text
  := by
  obtain ⟨text, hlookup, hstring, -⟩ := h.exists_text hentry
  split
  next hsensitive => rw [entryField, resolvedField, if_pos hsensitive]
  next hsensitive =>
    use text, hstring
    rw [entryField, resolvedField, if_neg hsensitive, hlookup, Option.getD_some]

/-- Whatever calls are made, the line of a section with a name is read back as one field for each key
whose parts start with the parts of the section, with its text unless the key is sensitive. -/
theorem readObject_logResolvedConfigSection (calls : List Call) {config : GlobalConfig}
    (hreset : resetToDefaults = .ok config) {configKeyPrefix : String} (h : configKeyPrefix ≠ "")
    {minLogLevel : LogLevel} (hlevel : shouldLog .info minLogLevel)
    (formatUtcTimestamp loggerName : List UInt8) :
  ∃ line, logResolvedConfigSection formatUtcTimestamp minLogLevel loggerName configKeyPrefix
        (GlobalConfig.run calls config) = .ok (some line)
    ∧ ∃ members, readObject line = some
        ([(ascii "timestamp", .string formatUtcTimestamp), (ascii "logger_name", .string loggerName),
          (ascii "severity", .string (ascii "info")),
          (ascii "event", .string (ascii "resolved_config_section")),
          (ascii "config_section", .string (bytesOf configKeyPrefix))] ++ members)
    ∧ List.Forall₂ (fun entry member => member.1 = bytesOf entry.key
        ∧ if isSensitiveConfigKey entry.key then member.2 = .string (bytesOf kRedactedValue)
          else ∃ text, (GlobalConfig.run calls config).getString entry.field = .ok text
            ∧ member.2 = .string (bytesOf text))
      (kConfigEntries.filter fun entry => components configKeyPrefix <+: components entry.key) members
  := by
  obtain rfl := Except.ok.inj (resetToDefaults_eq.symm.trans hreset)
  have hcomplete := complete_defaults.run calls
  rw [hcomplete.logResolvedConfigSection_eq, filter_belongsToConfigSection h]
  generalize hlog : logStructured _ _ _ _ _ _ = logged
  cases logged with
  | none =>
      have hinfo : logLevelFromSeverity (ascii "info") = .info := by decide +kernel
      rw [logStructured, hinfo, if_pos hlevel] at hlog
      cases hlog
  | some line =>
      use line, rfl, ((kConfigEntries.filter fun entry =>
        components configKeyPrefix <+: components entry.key).map
          (entryField (GlobalConfig.run calls defaults))).map fun field => (field.key, .string field.value)
      constructor
      · rw [logStructured_eq_some hlog, readObject_writeObject escapes_escapeByte, List.map_cons]
        rfl
      · rw [List.map_map, List.forall₂_map_right_iff, List.forall₂_same]
        intro entry hentry
        refine ⟨rfl, ?_⟩
        have hvalue := hcomplete.value_entryField (List.mem_of_mem_filter hentry)
        split
        next hsensitive =>
          rw [if_pos hsensitive] at hvalue
          exact congrArg Value.string hvalue
        next hsensitive =>
          rw [if_neg hsensitive] at hvalue
          obtain ⟨text, hstring, htext⟩ := hvalue
          exact ⟨text, hstring, congrArg Value.string htext⟩

/-- The section of the redis client is logged with its password redacted. -/
theorem readObject_logResolvedConfigSection_redis :
  ∃ line, logResolvedConfigSection [] .debug [] "redis" (GlobalConfig.run [] defaults)
      = .ok (some line)
    ∧ ∃ members, readObject line = some
        ([(ascii "timestamp", .string []), (ascii "logger_name", .string []),
          (ascii "severity", .string (ascii "info")),
          (ascii "event", .string (ascii "resolved_config_section")),
          (ascii "config_section", .string (bytesOf "redis"))] ++ members)
      ∧ (bytesOf "redis.password", .string (bytesOf "<redacted>")) ∈ members
  := by
  have hname : "redis" ≠ "" := by decide
  obtain ⟨line, hline, members, hread, hmembers⟩ :=
    readObject_logResolvedConfigSection [] resetToDefaults_eq hname
      (by decide : shouldLog .info .debug) [] []
  use line, hline, members, hread
  have hentry : (⟨.redisPassword, "redis.password", "redis_password", .string, ""⟩ : ConfigEntry)
      ∈ kConfigEntries.filter fun entry => components "redis" <+: components entry.key := by
    decide +kernel
  have hsensitive : isSensitiveConfigKey "redis.password" = true := by decide +kernel
  obtain ⟨⟨i, hi⟩, hget⟩ := List.get_of_mem hentry
  have hmember := hmembers.get hi (hmembers.length_eq ▸ hi)
  rw [hget, if_pos hsensitive] at hmember
  have hpassword : members.get ⟨i, hmembers.length_eq ▸ hi⟩
      = (bytesOf "redis.password", .string (bytesOf "<redacted>")) := Prod.ext hmember.1 hmember.2
  rw [← hpassword]
  apply List.get_mem

end GlobalConfig
