import ShootingStar.Utilities.GlobalConfig

/-!
# Command line arguments

A command line is scanned twice: once for the path of the configuration file, and once for all
arguments, which are set.  The first scan knows neither which tokens are values of other arguments nor
that `--` ends the arguments.  On a command line that the second scan accepts, both find the same path
unless the first token that is spelled as its argument is such a token (`agrees_iff`).
-/

namespace GlobalConfig

/-! ### Tokens -/

/-- The text begins with another one. -/
def startsWith (value start : String) : Bool :=
  start.toList.isPrefixOf value.toList

/-- A token without its first characters. -/
def dropChars (n : ℕ) (value : String) : String :=
  String.ofList (value.toList.drop n)

/-- The name of an argument, and the value after the first equals sign. -/
def splitArgument (arg : String) : String × Option String :=
  (String.ofList (arg.toList.takeWhile (· ≠ '=')),
    match arg.toList.dropWhile (· ≠ '=') with
    | [] => none
    | _ :: inlineValue => some (String.ofList inlineValue))

/-- The value of an argument, and whether it is the next token. -/
def readArgumentValue (next : Option String) (name : String) (inlineValue : Option String)
    (entry : ConfigEntry) : Except ConfigError (String × Bool) :=
  match inlineValue with
  | some value => .ok (value, false)
  | none =>
    if entry.valueType = .bool then .ok ("true", false)
    else
      match next with
      | none =>
        .error (.invalidArgument ("Missing value for command line argument: --" ++ name))
      | some value => .ok (value, true)

/-! ### The scan for the path -/

/-- The path of the startup file, and whether the command line gives it. -/
structure StartupConfigPath where
  path : String
  fromCommandLine : Bool := false
  deriving DecidableEq, Repr

/-- `FindStartupConfigPath` over the tokens after the first. -/
def findStartupConfigPath (config : GlobalConfig) :
    List String → Except ConfigError StartupConfigPath
  | [] => config.getConfigPath.map fun path => { path := path }
  | rawArg :: rest =>
    if startsWith rawArg "--" then
      let (name, inlineValue) := splitArgument (dropChars 2 rawArg)
      match findEntryByArgumentName name with
      | none => findStartupConfigPath config rest
      | some entry =>
        if entry.field ≠ .configPath then findStartupConfigPath config rest
        else
          match inlineValue, rest with
          | some value, _ => .ok { path := value, fromCommandLine := true }
          | none, [] =>
            .error (.invalidArgument ("Missing value for command line argument: --" ++ name))
          | none, value :: _ => .ok { path := value, fromCommandLine := true }
    else findStartupConfigPath config rest

/-! ### The scan of the arguments -/

/-- The name of a boolean argument that is negated. -/
def negatedBool (arg : String) : Option String :=
  if startsWith arg "no" then
    match findEntryByArgumentName (dropChars 2 arg) with
    | some entry => if entry.valueType = .bool then some (dropChars 2 arg) else none
    | none => none
  else none

/-- A token read as an argument: its entry, its value, and whether the value is the next token. -/
def readArgument (rawArg : String) (next : Option String) :
    Except ConfigError (ConfigEntry × String × Bool) :=
  if startsWith rawArg "--" then
    let arg := dropChars 2 rawArg
    let negated := negatedBool arg
    let (name, inlineValue) := splitArgument (negated.getD arg)
    match findEntryByArgumentName name with
    | none => .error (.invalidArgument ("Unknown command line argument: --" ++ name))
    | some entry =>
      if negated.isSome then
        if inlineValue.isSome then
          .error (.invalidArgument ("Negated boolean argument does not accept a value: --no" ++ name))
        else .ok (entry, "false", false)
      else (readArgumentValue next name inlineValue entry).map fun read => (entry, read)
  else
    .error (.invalidArgument ("Unexpected positional command line argument: " ++ rawArg))

/-- `Apply` over the tokens after the first, with the configuration it leaves; `skip` tells that the
next token has been read as a value. -/
def applyFrom (skip : Bool) : List String → GlobalConfig → Except ConfigError Unit × GlobalConfig
  | [], config => (.ok (), config)
  | rawArg :: rest, config =>
    if skip then applyFrom false rest config
    else if rawArg = "--" then (.ok (), config)
    else
      match readArgument rawArg rest.head? with
      | .error e => (.error e, config)
      | .ok (entry, value, consumed) =>
        if entry.field = .configPath then applyFrom consumed rest config
        else
          match config.set entry.field value with
          | .error e => (.error e, config)
          | .ok config => applyFrom consumed rest config

/-- The arguments are applied in turn, up to the first that throws. -/
def apply (args : List String) (config : GlobalConfig) : Except ConfigError Unit × GlobalConfig :=
  applyFrom false args config

/-! ### The arguments read -/

/-- The tokens that are read as arguments, each with those after it. -/
def argumentsFrom (skip : Bool) : List String → List (List String)
  | [] => []
  | rawArg :: rest =>
    if skip then argumentsFrom false rest
    else if rawArg = "--" then []
    else
      match readArgument rawArg rest.head? with
      | .error _ => [rawArg :: rest]
      | .ok (_, _, consumed) => (rawArg :: rest) :: argumentsFrom consumed rest

/-- The entry and the value read from the first of some tokens. -/
def readFirst : List String → Option (ConfigEntry × String)
  | [] => none
  | rawArg :: rest =>
    match readArgument rawArg rest.head? with
    | .error _ => none
    | .ok (entry, value, _) => some (entry, value)

/-- The value of the first argument that is read as the path. -/
def configPathRead (args : List String) : Option String :=
  (((argumentsFrom false args).filterMap readFirst).find? (·.1.field = .configPath)).map Prod.snd

/-- The first token is spelled as the argument of the path. -/
def spelledConfigPath : List String → Bool
  | [] => false
  | rawArg :: _ =>
    startsWith rawArg "--"
      && (findEntryByArgumentName (splitArgument (dropChars 2 rawArg)).1).any
        (·.field = .configPath)

/-- The value written with the first token: after its equals sign, or in the next token. -/
def writtenValue : List String → Option String
  | [] => none
  | rawArg :: rest => (splitArgument (dropChars 2 rawArg)).2.or rest.head?

/-! ### Entries and their names -/

theorem findEntry_eq_some {name : String} {entry : ConfigEntry}
    (h : findEntryByArgumentName name = some entry) :
  entry ∈ kConfigEntries ∧ (entry.argumentName = name ∨ entry.key = name)
  := by
  have hname := List.find?_some h
  rw [decide_eq_true_iff] at hname
  exact ⟨List.mem_of_find?_eq_some h, hname⟩

/-- The path is a text, and no name of it starts as a negated boolean. -/
theorem configPath_entry {name : String} {entry : ConfigEntry}
    (h : findEntryByArgumentName name = some entry) (hfield : entry.field = .configPath) :
  entry.valueType = .string ∧ name.toList.head? = some 'c'
  := by
  have hall : ∀ entry ∈ kConfigEntries, entry.field = .configPath →
      entry.valueType = .string ∧ entry.argumentName.toList.head? = some 'c'
        ∧ entry.key.toList.head? = some 'c' := by decide +kernel
  obtain ⟨hmem, hname⟩ := findEntry_eq_some h
  obtain ⟨htype, hargument, hkey⟩ := hall entry hmem hfield
  use htype
  rcases hname with rfl | rfl
  · exact hargument
  · exact hkey

/-- The names of a boolean have no equals sign. -/
theorem splitArgument_of_findEntry {name : String} {entry : ConfigEntry}
    (h : findEntryByArgumentName name = some entry) (hbool : entry.valueType = .bool) :
  splitArgument name = (name, none)
  := by
  have hall : ∀ entry ∈ kConfigEntries, entry.valueType = .bool →
      '=' ∉ entry.argumentName.toList ∧ '=' ∉ entry.key.toList := by decide +kernel
  obtain ⟨hmem, hname⟩ := findEntry_eq_some h
  have hequals : ∀ c ∈ name.toList, decide (c ≠ '=') = true := by
    intro c hc
    rw [decide_eq_true_iff]
    rintro rfl
    rcases hname with rfl | rfl
    · exact (hall entry hmem hbool).1 hc
    · exact (hall entry hmem hbool).2 hc
  rw [splitArgument, List.takeWhile_eq_self_iff.mpr hequals, List.dropWhile_eq_nil_iff.mpr hequals,
    String.ofList_toList]

theorem negatedBool_eq_some {arg name : String} (h : negatedBool arg = some name) :
  ∃ entry, findEntryByArgumentName name = some entry ∧ entry.valueType = .bool
    ∧ arg.toList.head? = some 'n'
  := by
  rw [negatedBool] at h
  split at h
  next hstart =>
    split at h
    next entry hentry =>
      split at h
      next htype =>
        obtain rfl := Option.some.inj h
        refine ⟨entry, hentry, htype, ?_⟩
        rw [startsWith] at hstart
        obtain ⟨rest, hrest⟩ := List.isPrefixOf_iff_prefix.mp hstart
        rw [← hrest]
        rfl
      · cases h
    · cases h
  · cases h

theorem spelledConfigPath_cons {rawArg : String} {rest : List String} :
  spelledConfigPath (rawArg :: rest) = true
    ↔ startsWith rawArg "--" = true
      ∧ ∃ entry, findEntryByArgumentName (splitArgument (dropChars 2 rawArg)).1 = some entry
        ∧ entry.field = .configPath
  := by
  rw [spelledConfigPath, Bool.and_eq_true, Option.any_eq_true]
  simp only [decide_eq_true_iff]

/-- A token that is spelled as the path is not negated. -/
theorem negatedBool_of_spelled {arg : String} {entry : ConfigEntry}
    (h : findEntryByArgumentName (splitArgument arg).1 = some entry)
    (hfield : entry.field = .configPath) :
  negatedBool arg = none
  := by
  cases hnegated : negatedBool arg with
  | none => rfl
  | some name =>
      obtain ⟨-, -, -, hn⟩ := negatedBool_eq_some hnegated
      have hc := (configPath_entry h hfield).2
      obtain ⟨rest, hrest⟩ := List.head?_eq_some_iff.mp hn
      simp [splitArgument, hrest] at hc

/-- A token that is spelled as the path is read as the path, with the value written. -/
theorem readArgument_of_spelled {rawArg : String} {rest : List String}
    (h : spelledConfigPath (rawArg :: rest) = true) {entry : ConfigEntry} {value : String}
    {consumed : Bool} (hread : readArgument rawArg rest.head? = .ok (entry, value, consumed)) :
  entry.field = .configPath ∧ writtenValue (rawArg :: rest) = some value
  := by
  obtain ⟨hstart, found, hfound, hfield⟩ := spelledConfigPath_cons.mp h
  have hnot : found.valueType ≠ .bool := by
    rw [(configPath_entry hfound hfield).1]
    decide
  simp only [readArgument, hstart, if_true, negatedBool_of_spelled hfound hfield, Option.getD_none,
    hfound, Option.isSome_none, Bool.false_eq_true, if_false, readArgumentValue, if_neg hnot] at hread
  rw [writtenValue]
  cases hinline : (splitArgument (dropChars 2 rawArg)).2 with
  | some inlineValue =>
      rw [hinline] at hread
      cases hread
      exact ⟨hfield, rfl⟩
  | none =>
      rw [hinline] at hread
      cases hnext : rest.head? with
      | none =>
          rw [hnext] at hread
          cases hread
      | some next =>
          rw [hnext] at hread
          cases hread
          exact ⟨hfield, rfl⟩

/-- A token that is read as the path is spelled so. -/
theorem spelled_of_readArgument {rawArg : String} {rest : List String} {entry : ConfigEntry}
    {value : String} {consumed : Bool}
    (hread : readArgument rawArg rest.head? = .ok (entry, value, consumed))
    (hfield : entry.field = .configPath) :
  spelledConfigPath (rawArg :: rest) = true
  := by
  rw [readArgument] at hread
  split at hread
  next hstart =>
    refine spelledConfigPath_cons.mpr ⟨hstart, entry, ?_, hfield⟩
    cases hnegated : negatedBool (dropChars 2 rawArg) with
    | some name =>
        obtain ⟨boolEntry, hname, hbool, -⟩ := negatedBool_eq_some hnegated
        simp only [hnegated, Option.getD_some, splitArgument_of_findEntry hname hbool, hname,
          Option.isSome_some, if_true, Option.isSome_none, Bool.false_eq_true, if_false] at hread
        cases hread
        rw [(configPath_entry hname hfield).1] at hbool
        cases hbool
    | none =>
        simp only [hnegated, Option.getD_none, Option.isSome_none, Bool.false_eq_true,
          if_false] at hread
        split at hread
        · cases hread
        next found hfound =>
          cases hvalue : readArgumentValue rest.head? (splitArgument (dropChars 2 rawArg)).1
              (splitArgument (dropChars 2 rawArg)).2 found with
          | error e =>
              rw [hvalue] at hread
              cases hread
          | ok read =>
              rw [hvalue] at hread
              cases hread
              exact hfound
  · cases hread

/-! ### What the scans find -/

/-- The path that is reported from the command line. -/
def configPathReported (config : GlobalConfig) (args : List String) : Option String :=
  match findStartupConfigPath config args with
  | .ok ⟨path, true⟩ => some path
  | _ => none

theorem configPathReported_eq_some {config : GlobalConfig} {args : List String} {path : String} :
  configPathReported config args = some path
    ↔ findStartupConfigPath config args = .ok ⟨path, true⟩
  := by
  rw [configPathReported]
  split
  next found hfound => simp [hfound]
  next hnone =>
    refine ⟨nofun, fun h => ?_⟩
    exact absurd h (hnone path)

/-- The first scan reports what is written with the first token spelled as the path. -/
theorem configPathReported_eq (config : GlobalConfig) (args : List String) :
  configPathReported config args = (args.tails.find? spelledConfigPath).bind writtenValue
  := by
  induction args with
  | nil =>
      rw [configPathReported, findStartupConfigPath]
      cases config.getConfigPath <;> rfl
  | cons rawArg rest ih =>
      rw [List.tails_cons]
      cases hspelled : spelledConfigPath (rawArg :: rest) with
      | true =>
          obtain ⟨hstart, entry, hentry, hfield⟩ := spelledConfigPath_cons.mp hspelled
          rw [List.find?_cons_of_pos hspelled, Option.bind_some, writtenValue, configPathReported]
          simp only [findStartupConfigPath, hstart, if_true, hentry, hfield, ne_eq,
            not_true_eq_false, if_false]
          cases (splitArgument (dropChars 2 rawArg)).2 <;> cases rest <;> rfl
      | false =>
          have hrest : findStartupConfigPath config (rawArg :: rest)
              = findStartupConfigPath config rest := by
            rw [findStartupConfigPath]
            split
            next hstart =>
              dsimp only
              split
              · rfl
              next entry hentry =>
                have hfield : entry.field ≠ .configPath := by
                  intro hfield
                  rw [spelledConfigPath_cons.mpr ⟨hstart, entry, hentry, hfield⟩] at hspelled
                  cases hspelled
                rw [if_pos hfield]
            · rfl
          rw [List.find?_cons_of_neg (by rw [hspelled]; decide), ← ih, configPathReported, hrest,
            ← configPathReported]

/-! ### What is read -/

/-- What the first token adds to the arguments. -/
theorem argumentsFrom_cons (skip : Bool) (rawArg : String) (rest : List String) :
  argumentsFrom skip (rawArg :: rest) = argumentsFrom false rest
    ∨ argumentsFrom skip (rawArg :: rest) = []
    ∨ argumentsFrom skip (rawArg :: rest) = [rawArg :: rest]
    ∨ ∃ consumed, argumentsFrom skip (rawArg :: rest)
      = (rawArg :: rest) :: argumentsFrom consumed rest
  := by
  rw [argumentsFrom]
  split
  · exact .inl rfl
  split
  · exact .inr (.inl rfl)
  split
  · exact .inr (.inr (.inl rfl))
  · exact .inr (.inr (.inr ⟨_, rfl⟩))

theorem suffix_of_mem_argumentsFrom {skip : Bool} {args argument : List String}
    (h : argument ∈ argumentsFrom skip args) :
  argument <:+ args
  := by
  induction args generalizing skip with
  | nil => cases h
  | cons rawArg rest ih =>
      rcases argumentsFrom_cons skip rawArg rest with hcons | hcons | hcons | ⟨consumed, hcons⟩ <;>
        rw [hcons] at h
      · exact (ih h).trans (List.suffix_cons rawArg rest)
      · cases h
      · rw [List.mem_singleton.mp h]
      · rcases List.mem_cons.mp h with rfl | h
        · exact List.suffix_rfl
        · exact (ih h).trans (List.suffix_cons rawArg rest)

/-- The arguments are read in order, and no other token is. -/
theorem applyFrom_arguments {skip : Bool} {args : List String} {config config' : GlobalConfig}
    (h : applyFrom skip args config = (.ok (), config')) :
  ∃ reads : List (ConfigEntry × String), (argumentsFrom skip args).map readFirst = reads.map some
    ∧ reads.foldlM (fun config read =>
        if read.1.field = .configPath then .ok config else config.set read.1.field read.2) config
      = .ok config'
  := by
  induction args generalizing skip config with
  | nil =>
      cases h
      exact ⟨[], rfl, rfl⟩
  | cons rawArg rest ih =>
      rw [applyFrom] at h
      rw [argumentsFrom]
      split at h
      next hskip =>
        rw [if_pos hskip]
        exact ih h
      next hskip =>
        rw [if_neg hskip]
        split at h
        next hend =>
          rw [if_pos hend]
          cases h
          exact ⟨[], rfl, rfl⟩
        next hend =>
          rw [if_neg hend]
          split at h
          · cases h
          next entry value consumed hread =>
            have hfirst : readFirst (rawArg :: rest) = some (entry, value) := by
              rw [readFirst, hread]
            split at h
            next hfield =>
              obtain ⟨reads, hreads, hfold⟩ := ih h
              refine ⟨(entry, value) :: reads, ?_, ?_⟩
              · rw [List.map_cons, hfirst, hreads, List.map_cons]
              · rw [List.foldlM_cons, if_pos hfield]
                exact hfold
            next hfield =>
              split at h
              · cases h
              next stored hset =>
                obtain ⟨reads, hreads, hfold⟩ := ih h
                refine ⟨(entry, value) :: reads, ?_, ?_⟩
                · rw [List.map_cons, hfirst, hreads, List.map_cons]
                · rw [List.foldlM_cons, if_neg hfield, hset]
                  exact hfold

/-- Every argument of an accepted command line is read. -/
theorem readFirst_of_apply {args : List String} {config : GlobalConfig}
    (h : (apply args config).1 = .ok ()) {argument : List String}
    (hargument : argument ∈ argumentsFrom false args) :
  ∃ read, readFirst argument = some read
  := by
  obtain ⟨reads, hreads, -⟩ := applyFrom_arguments (Prod.ext h rfl)
  have hmem : readFirst argument ∈ reads.map some := by
    rw [← hreads]
    exact List.mem_map_of_mem hargument
  obtain ⟨read, -, hread⟩ := List.mem_map.mp hmem
  exact ⟨read, hread.symm⟩

/-- An argument is read as the path when it is spelled as it, and then with the value written. -/
theorem readFirst_configPath {argument : List String} {read : ConfigEntry × String}
    (h : readFirst argument = some read) :
  (read.1.field = .configPath ↔ spelledConfigPath argument = true)
    ∧ (read.1.field = .configPath → writtenValue argument = some read.2)
  := by
  match argument with
  | [] => cases h
  | rawArg :: rest =>
      rw [readFirst] at h
      split at h
      · cases h
      next entry value consumed hread =>
        cases h
        refine ⟨⟨spelled_of_readArgument hread, fun hspelled => ?_⟩, fun hfield => ?_⟩
        · exact (readArgument_of_spelled hspelled hread).1
        · exact (readArgument_of_spelled (spelled_of_readArgument hread hfield) hread).2

/-- On an accepted command line, the path that is read is what is written with the first argument
spelled as it. -/
theorem configPathRead_eq {args : List String} {config : GlobalConfig}
    (h : (apply args config).1 = .ok ()) :
  configPathRead args = ((argumentsFrom false args).find? spelledConfigPath).bind writtenValue
  := by
  have hall : ∀ argument ∈ argumentsFrom false args, ∃ read, readFirst argument = some read :=
    fun argument => readFirst_of_apply h
  rw [configPathRead]
  generalize argumentsFrom false args = arguments at hall
  induction arguments with
  | nil => rfl
  | cons argument arguments ih =>
      obtain ⟨read, hread⟩ := hall argument List.mem_cons_self
      obtain ⟨hspelled, hvalue⟩ := readFirst_configPath hread
      rw [List.filterMap_cons_some hread]
      by_cases hfield : read.1.field = .configPath
      · rw [List.find?_cons_of_pos (by rw [hfield]; rfl), List.find?_cons_of_pos (hspelled.mp hfield),
          Option.map_some, Option.bind_some, hvalue hfield]
      · rw [List.find?_cons_of_neg (by rw [decide_eq_true_iff]; exact hfield),
          List.find?_cons_of_neg (fun h => hfield (hspelled.mpr h))]
        exact ih fun argument h => hall argument (List.mem_cons_of_mem _ h)

/-! ### Agreement -/

/-- The first token that is spelled as the path is an argument, and then it is the first argument
that is. -/
theorem find?_argumentsFrom {skip : Bool} {args token : List String}
    (hfirst : args.tails.find? spelledConfigPath = some token)
    (hmem : token ∈ argumentsFrom skip args) :
  (argumentsFrom skip args).find? spelledConfigPath = some token
  := by
  have hspelled := List.find?_some hfirst
  induction args generalizing skip with
  | nil => cases hmem
  | cons rawArg rest ih =>
      rw [List.tails_cons] at hfirst
      by_cases hhead : spelledConfigPath (rawArg :: rest) = true
      · rw [List.find?_cons_of_pos hhead, Option.some_inj] at hfirst
        obtain rfl := hfirst
        have hlater : ∀ skip, rawArg :: rest ∉ argumentsFrom skip rest := by
          intro skip h
          have hlength := (suffix_of_mem_argumentsFrom h).length_le
          rw [List.length_cons] at hlength
          omega
        rcases argumentsFrom_cons skip rawArg rest with hcons | hcons | hcons | ⟨consumed, hcons⟩ <;>
          rw [hcons] at hmem ⊢
        · exact absurd hmem (hlater false)
        · cases hmem
        · exact List.find?_cons_of_pos hhead
        · exact List.find?_cons_of_pos hhead
      · rw [List.find?_cons_of_neg hhead] at hfirst
        have hne : token ≠ rawArg :: rest := by
          rintro rfl
          exact hhead hspelled
        rcases argumentsFrom_cons skip rawArg rest with hcons | hcons | hcons | ⟨consumed, hcons⟩ <;>
          rw [hcons] at hmem ⊢
        · exact ih hfirst hmem
        · cases hmem
        · exact absurd (List.mem_singleton.mp hmem) hne
        · rw [List.find?_cons_of_neg hhead]
          exact ih hfirst ((List.mem_cons.mp hmem).resolve_left hne)

/-- The first token spelled as the path is the value of another argument or comes after `--`, and
another value is written with the first argument spelled as the path, or there is none. -/
def Hidden (args : List String) : Prop :=
  ∃ token, args.tails.find? spelledConfigPath = some token
    ∧ token ∉ argumentsFrom false args
    ∧ ((argumentsFrom false args).find? spelledConfigPath).bind writtenValue ≠ writtenValue token

/-- On an accepted command line, the path that is reported is the path that is read, unless the
first token spelled as the path is hidden. -/
theorem configPathReported_eq_read_iff {config : GlobalConfig} {args : List String}
    (h : (apply args config).1 = .ok ()) :
  configPathReported config args = configPathRead args ↔ ¬ Hidden args
  := by
  rw [configPathReported_eq, configPathRead_eq h, Hidden]
  cases hfirst : args.tails.find? spelledConfigPath with
  | none =>
      have hnone : (argumentsFrom false args).find? spelledConfigPath = none := by
        rw [List.find?_eq_none] at hfirst ⊢
        intro argument hargument
        exact hfirst argument ((List.mem_tails _ _).mpr (suffix_of_mem_argumentsFrom hargument))
      simp [hnone]
  | some token =>
      by_cases hmem : token ∈ argumentsFrom false args
      · simp [find?_argumentsFrom hfirst hmem, hmem]
      · simp [hmem, eq_comm]

theorem exists_readFirst_configPath {args : List String} :
  (∃ argument ∈ argumentsFrom false args, ∃ read, readFirst argument = some read
      ∧ read.1.field = .configPath)
    ↔ ∃ path, configPathRead args = some path
  := by
  constructor
  · rintro ⟨argument, hargument, read, hread, hfield⟩
    have hmem := List.mem_filterMap.mpr ⟨argument, hargument, hread⟩
    have hfind : (((argumentsFrom false args).filterMap readFirst).find?
        (·.1.field = .configPath)).isSome :=
      List.find?_isSome.mpr ⟨read, hmem, decide_eq_true hfield⟩
    obtain ⟨found, hfound⟩ := Option.isSome_iff_exists.mp hfind
    exact ⟨found.2, Option.map_eq_some_iff.mpr ⟨found, hfound, rfl⟩⟩
  · rintro ⟨path, hpath⟩
    obtain ⟨read, hfind, rfl⟩ := Option.map_eq_some_iff.mp hpath
    obtain ⟨argument, hargument, hread⟩ := List.mem_filterMap.mp (List.mem_of_find?_eq_some hfind)
    have hfield := List.find?_some hfind
    exact ⟨argument, hargument, read, hread, of_decide_eq_true hfield⟩

/-- On a command line that the second scan accepts, the first reports a path exactly when an argument
is read as the path, and it is the value read for the first such, unless the first token spelled as
the path is hidden.  Where that token has no value after it, the first scan throws and reports no
path. -/
theorem agrees_iff {config : GlobalConfig} {args : List String}
    (h : (apply args config).1 = .ok ()) :
  (((∃ path, findStartupConfigPath config args = .ok ⟨path, true⟩)
        ↔ ∃ argument ∈ argumentsFrom false args, ∃ read, readFirst argument = some read
          ∧ read.1.field = .configPath)
      ∧ ∀ path, findStartupConfigPath config args = .ok ⟨path, true⟩ →
        configPathRead args = some path)
    ↔ ¬ Hidden args
  := by
  rw [← configPathReported_eq_read_iff h, exists_readFirst_configPath]
  simp only [← configPathReported_eq_some]
  cases configPathReported config args <;> cases configPathRead args <;> simp [eq_comm]

/-- A path that is written after another argument is found by both scans. -/
theorem agrees_iff_written :
  ¬ Hidden ["--redis_host=cache", "--config_path", "a.yaml"]
    ∧ (∃ path, findStartupConfigPath {} ["--redis_host=cache", "--config_path", "a.yaml"]
      = .ok ⟨path, true⟩)
    ∧ configPathRead ["--redis_host=cache", "--config_path", "a.yaml"] = some "a.yaml"
  := by
  have hread : configPathRead ["--redis_host=cache", "--config_path", "a.yaml"] = some "a.yaml" := by
    decide +kernel
  have hfound : findStartupConfigPath {} ["--redis_host=cache", "--config_path", "a.yaml"]
      = .ok ⟨"a.yaml", true⟩ := by
    decide +kernel
  have hargument := exists_readFirst_configPath.mpr ⟨_, hread⟩
  have hiff := @agrees_iff {} ["--redis_host=cache", "--config_path", "a.yaml"] (by decide +kernel)
  refine ⟨hiff.mp ⟨⟨fun _ => hargument, fun _ => ⟨_, hfound⟩⟩, ?_⟩, ⟨_, hfound⟩, hread⟩
  intro path hpath
  rw [hfound] at hpath
  cases hpath
  exact hread

/-- The first scan throws on a token without a value that the second reads as a value. -/
example : (apply ["--redis_host", "--config_path"] {}).1 = .ok ()
    ∧ findStartupConfigPath {} ["--redis_host", "--config_path"]
      = .error (.invalidArgument "Missing value for command line argument: --config_path")
  := by
  decide +kernel

/-- A path that is the value of another argument, or comes after the end of the arguments, is
reported and not read. -/
theorem reports_hidden_path :
  (apply ["--redis_host", "--config_path=x"] {}).1 = .ok ()
    ∧ findStartupConfigPath {} ["--redis_host", "--config_path=x"] = .ok ⟨"x", true⟩
    ∧ (apply ["--", "--config_path=x"] {}).1 = .ok ()
    ∧ findStartupConfigPath {} ["--", "--config_path=x"] = .ok ⟨"x", true⟩
    ∧ ¬ (∀ config args, (apply args config).1 = .ok () →
      (((∃ path, findStartupConfigPath config args = .ok ⟨path, true⟩)
          ↔ ∃ argument ∈ argumentsFrom false args, ∃ read, readFirst argument = some read
            ∧ read.1.field = .configPath)
        ∧ ∀ path, findStartupConfigPath config args = .ok ⟨path, true⟩ →
          configPathRead args = some path))
  := by
  have hfound : findStartupConfigPath {} ["--", "--config_path=x"] = .ok ⟨"x", true⟩ := by
    decide +kernel
  refine ⟨by decide +kernel, by decide +kernel, by decide +kernel, hfound, fun hagrees => ?_⟩
  have hread := (hagrees {} ["--", "--config_path=x"] (by decide +kernel)).2 "x" hfound
  exact absurd hread (by decide +kernel)

end GlobalConfig
