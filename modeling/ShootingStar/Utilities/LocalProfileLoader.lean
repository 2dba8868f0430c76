import ShootingStar.Lib.JsonText
import ShootingStar.Lib.Keyed
import ShootingStar.Lib.Lines
import ShootingStar.Messages
import ShootingStar.Utilities.JsonFields

/-!
# Profiles of a local file

The profiles of a file are read line by line into a map of their own, which replaces the map of the
caller when every line has been read.  Else the map of the caller is kept, and the message names the
first line that cannot be read (`exists_of_loadProfilesFromJsonlFile`).
-/

namespace LocalFile

open JsonParser (minInt maxInt)
open RecommendationEngine (Profile)

/-! ### Files -/

/-- A byte that is no blank. -/
def isFilled (b : UInt8) : Bool :=
  b ∉ JsonText.ascii " \t\r\n"

/-- The text has nothing but white space. -/
def isBlank (value : List UInt8) : Bool :=
  !value.any isFilled

/-- The byte between lines. -/
def newline : UInt8 := '\n'.toUInt8

/-- What a load returns, with the text that its message is left at, unless there is none, and what
has been loaded. -/
structure LoadResult (μ : Type) where
  success : Bool
  errorMsg : Option String
  loaded : μ

/-- A load that fails writes its message and leaves what has been loaded before. -/
def LoadResult.failed {μ : Type} (errorMsg : Option String) (message : String) (loaded : μ) :
    LoadResult μ where
  success := false
  errorMsg := errorMsg.map fun _ => message
  loaded := loaded

/-! ### Profiles -/

/-- The profiles by their identifiers. -/
abbrev UserIdProfileMap := List (ℤ × Profile)

section Profiles

variable (jsonStringToMessage : List UInt8 → Except String Profile)

/-- The profile of a JSON text. -/
def jsonToPB (jsonIn : List UInt8) : Except String Profile :=
  (jsonStringToMessage jsonIn).mapError fun status => "PBDataHandler::JsonToPB failed: " ++ status

/-- The profile on a line. -/
def profileFromJsonLine (profileJson : List UInt8) : Except String Profile := do
  let profile ← jsonToPB jsonStringToMessage profileJson
  if profile.userId < minInt ∨ maxInt < profile.userId then
    .error "LoadProfilesFromJsonlFile failed: user_id is outside int range"
  else .ok profile

/-- The profiles with the one on a line, which replaces one of the same user. -/
def addProfileFromJsonLine (profileJson : List UInt8) (loadedProfiles : UserIdProfileMap) :
    Except String UserIdProfileMap := do
  let profile ← profileFromJsonLine jsonStringToMessage profileJson
  pure (Keyed.upsert profile.userId (fun _ => profile) loadedProfiles)

/-- The profiles on the lines of a text. -/
def parseProfiles (content : List UInt8) : Except String UserIdProfileMap :=
  Lines.forLines isFilled newline
    (fun parsedProfiles line lineNumber =>
      (addProfileFromJsonLine jsonStringToMessage line parsedProfiles).mapError fun message =>
        message ++ " at JSONL line " ++ toString lineNumber)
    content []

/-- The load of a file, where `files` holds the contents of the files that can be opened. -/
def loadProfilesFromJsonlFile (files : String → Option (List UInt8)) (filePath : String)
    (loadedProfiles : Option UserIdProfileMap) (errorMsg : Option String) :
    LoadResult (Option UserIdProfileMap) :=
  match loadedProfiles with
  | none => .failed errorMsg "loaded_profiles pointer must not be null." none
  | some profiles =>
    match files filePath with
    | none =>
      .failed errorMsg ("LoadProfilesFromJsonlFile failed: cannot open file " ++ filePath)
        (some profiles)
    | some content =>
      match parseProfiles jsonStringToMessage content with
      | .error message => .failed errorMsg message (some profiles)
      | .ok parsedProfiles =>
        { success := true, errorMsg := errorMsg, loaded := some parsedProfiles }

/-- The line at position `n` of a text is the first that holds no profile, for the reason of the
message. -/
structure FirstFailure (content : List UInt8) (n : ℕ) (message : String) : Prop where
  fails : ∃ line, (Lines.lines newline content)[n]? = some line ∧ isBlank line = false
    ∧ profileFromJsonLine jsonStringToMessage line = .error message
  reads : ∀ m < n, ∀ line, (Lines.lines newline content)[m]? = some line → isBlank line = false
    → ∃ profile, profileFromJsonLine jsonStringToMessage line = .ok profile

variable {jsonStringToMessage}

/-- A load that fails keeps the map. -/
theorem loaded_loadProfilesFromJsonlFile {files : String → Option (List UInt8)} {filePath : String}
    {loadedProfiles : Option UserIdProfileMap} {errorMsg : Option String}
    (h : (loadProfilesFromJsonlFile jsonStringToMessage files filePath loadedProfiles
      errorMsg).success = false) :
  (loadProfilesFromJsonlFile jsonStringToMessage files filePath loadedProfiles errorMsg).loaded
    = loadedProfiles
  := by
  rw [loadProfilesFromJsonlFile.eq_def] at h ⊢
  split at h
  · rfl
  · split at h
    · rfl
    · split at h
      · rfl
      · cases h

/-- The profiles are read from the filled lines and then taken in. -/
theorem parseProfiles_eq (content : List UInt8) :
  parseProfiles jsonStringToMessage content
    = (fun profiles : List Profile =>
        profiles.foldl (fun parsed profile => Keyed.upsert profile.userId (fun _ => profile) parsed) [])
      <$> (Lines.filled isFilled newline content).mapM fun line =>
        (profileFromJsonLine jsonStringToMessage line.1).mapError fun message =>
          message ++ " at JSONL line " ++ toString line.2
  := by
  rw [parseProfiles, Lines.forLines_eq, ← Outcome.foldlM_eq_map_mapM]
  congr 1
  funext parsed line
  rw [addProfileFromJsonLine]
  cases profileFromJsonLine jsonStringToMessage line.1 with
  | error message => rfl
  | ok profile => rfl

/-- Reading fails at the first line that holds no profile, and the message names it. -/
theorem exists_of_parseProfiles_eq_error {content : List UInt8} {text : String}
    (h : parseProfiles jsonStringToMessage content = .error text) :
  ∃ (n : ℕ) (message : String), FirstFailure jsonStringToMessage content n message
    ∧ text = message ++ " at JSONL line " ++ toString (n + 1)
  := by
  rw [parseProfiles_eq] at h
  obtain ⟨n, line, hline, hfilled, hthrows, hearlier⟩ :=
    Lines.exists_of_mapM_filled_eq_error (Outcome.eq_error_of_map h)
  obtain ⟨message, hmessage, rfl⟩ := Outcome.mapError_eq_error hthrows
  refine ⟨n, message, ⟨⟨line, hline, ?_, hmessage⟩, ?_⟩, rfl⟩
  · rw [isBlank, hfilled]
    rfl
  · intro m hm earlier hline hnotBlank
    rw [isBlank, Bool.not_eq_false'] at hnotBlank
    obtain ⟨profile, hprofile⟩ := hearlier m hm earlier hline hnotBlank
    exact ⟨profile, Outcome.mapError_eq_ok hprofile⟩

theorem loadProfilesFromJsonlFile_of_content {files : String → Option (List UInt8)}
    {filePath : String} {content : List UInt8} (hfile : files filePath = some content)
    (profiles : UserIdProfileMap) (errorMsg : Option String) :
  loadProfilesFromJsonlFile jsonStringToMessage files filePath (some profiles) errorMsg
    = match parseProfiles jsonStringToMessage content with
      | .error message => .failed errorMsg message (some profiles)
      | .ok parsedProfiles =>
        { success := true, errorMsg := errorMsg, loaded := some parsedProfiles }
  := by
  rw [loadProfilesFromJsonlFile.eq_def, hfile]

/-- A load that fails on the content of a file names the first line that cannot be read. -/
theorem exists_of_loadProfilesFromJsonlFile {files : String → Option (List UInt8)}
    {filePath : String} {content : List UInt8} (hfile : files filePath = some content)
    {profiles : UserIdProfileMap} {errorMsg : Option String}
    (h : (loadProfilesFromJsonlFile jsonStringToMessage files filePath (some profiles)
      errorMsg).success = false) :
  ∃ (n : ℕ) (message : String), FirstFailure jsonStringToMessage content n message
    ∧ (loadProfilesFromJsonlFile jsonStringToMessage files filePath (some profiles)
        errorMsg).errorMsg
      = errorMsg.map fun _ => message ++ " at JSONL line " ++ toString (n + 1)
  := by
  rw [loadProfilesFromJsonlFile_of_content hfile] at h ⊢
  cases hparse : parseProfiles jsonStringToMessage content with
  | ok parsedProfiles =>
      rw [hparse] at h
      cases h
  | error text =>
      obtain ⟨n, message, hfirst, rfl⟩ := exists_of_parseProfiles_eq_error hparse
      exact ⟨n, message, hfirst, rfl⟩

end Profiles

end LocalFile
