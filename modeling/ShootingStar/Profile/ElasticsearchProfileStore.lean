import ShootingStar.Profile.ProfileService
import ShootingStar.Utilities.ElasticsearchDocuments

/-!
# The profiles of a cluster

The store asks the cluster for the document of a user.  The document is written as a text again, which
is read as a profile.

When the documents of a file have been written to the cluster, after however many writes that have
failed, the store answers like the profiles that are loaded from the file
(`answers_of_loadProfilesFromJsonlFile`).
-/

namespace RecommendationEngine

open Documents (Cluster SameBeyond)
open ElasticsearchClient (Serves kHttpNotFoundStatusCode readOperation)
open LocalFile (LoadResult UserIdProfileMap isFilled newline loadProfilesFromJsonlFile)
open OfflineDataProcessing (Fields Client ElasticsearchWriter)
open Utf8 (bytesOf)

/-- The JSON library with what it makes of profiles and of objects that are written as a text. -/
structure ProfileLibrary extends JsonLibrary where
  messageToJsonString : Fields → Except String (List UInt8)
  jsonStringToMessage : List UInt8 → Except String Profile

/-- A store with an index that has a name. -/
structure ElasticsearchProfileStore where
  client : ElasticsearchClient
  index : String
  index_ne : index ≠ ""

namespace ElasticsearchProfileStore

/-- The constructor, with the message of the exception it throws. -/
def create (client : ElasticsearchClient) (index : String) :
    Except String ElasticsearchProfileStore :=
  if h : index = "" then .error "ElasticsearchProfileStore index must not be empty"
  else .ok ⟨client, index, h⟩

/-- A field that must be there. -/
def requireField (fields : Fields) (name : String) : Except String Json :=
  match fields.lookup name with
  | none => .error ("Elasticsearch response is missing JSON field: " ++ name)
  | some value => .ok value

section Reading

variable (library : ProfileLibrary)

/-- The profile of a document that has been found. -/
def parseSource (source : Json) : Except String Profile :=
  match source with
  | .object fields => do
    let profileJson ← (library.messageToJsonString fields).mapError fun status =>
      "Failed to serialize Elasticsearch _source JSON: " ++ status
    (LocalFile.jsonToPB library.jsonStringToMessage profileJson).mapError fun errorMsg =>
      "Failed to parse Profile protobuf: " ++ errorMsg
  | _ => .error "Elasticsearch _source field is not a JSON object."

/-- The profile in an answer; a value under `found` that is no truth value counts as false. -/
def parseProfileFromGetResponse (responseBody : String) : Except String (Option Profile) := do
  let responseFields ← (library.jsonStringToStruct (bytesOf responseBody)).mapError fun status =>
    "Failed to parse Elasticsearch JSON response: " ++ status
  let found ← requireField responseFields "found"
  match found with
  | .bool true =>
    let source ← requireField responseFields "_source"
    some <$> parseSource library source
  | _ => pure none

/-- The profile of a user; nothing when the cluster has none. -/
def findByUserId (store : ElasticsearchProfileStore) (userId : ℤ) :
    Except String (Option Profile) :=
  let result := store.client.get store.index (toString userId)
  if result.ok then parseProfileFromGetResponse library result.body
  else if result.statusCode = kHttpNotFoundStatusCode then .ok none
  else
    .error ("Failed to fetch profile from Elasticsearch: status=" ++ toString result.statusCode
      ++ " error=" ++ result.errorMessage ++ " body=" ++ result.body)

/-- The store as the service takes it. -/
def toProfileStore (store : ElasticsearchProfileStore) : ProfileStore where
  findByUserId := store.findByUserId library

end Reading

/-! ### Answers of the cluster -/

section Serving

variable {library : ProfileLibrary} {store : ElasticsearchProfileStore}
  {cluster : Cluster String String Fields}

theorem findByUserId_of_answers {find : ℤ → Option Profile}
    (h : (store.toProfileStore library).Answers find) (userId : ℤ) :
  store.findByUserId library userId = .ok (find userId)
  := h userId

theorem requireField_of_lookup {fields : Fields} {name : String} {value : Json}
    (h : fields.lookup name = some value) :
  requireField fields name = .ok value
  := by
  rw [requireField, h]

/-- A document that the cluster has is read by way of its text. -/
theorem findByUserId_of_found (hserves : Serves library.toJsonLibrary store.client cluster)
    (hindex : '/' ∉ store.index.toList) {userId : ℤ} {source : Fields}
    (h : Documents.get cluster store.index (toString userId) = some source)
    {profileJson : List UInt8} (hjson : library.messageToJsonString source = .ok profileJson)
    {profile : Profile} (hprofile : library.jsonStringToMessage profileJson = .ok profile) :
  store.findByUserId library userId = .ok (some profile)
  := by
  obtain ⟨hok, fields, hstruct, hfound, hsource⟩ := hserves.get_found store.index_ne hindex
    (ElasticsearchClient.slash_notMem_toString userId) h
  have hok' : (store.client.get store.index (toString userId)).ok = true := hok
  have hstruct' : library.jsonStringToStruct
      (bytesOf (store.client.get store.index (toString userId)).body) = .ok fields := hstruct
  have hparse : parseSource library (.object source) = .ok profile := by
    simp only [parseSource, hjson, LocalFile.jsonToPB, hprofile, Except.mapError, bind, Except.bind]
  simp only [findByUserId, hok', if_true, parseProfileFromGetResponse, hstruct', Except.mapError,
    bind, Except.bind, requireField_of_lookup hfound, requireField_of_lookup hsource, hparse]
  rfl

/-- A document that the cluster does not have is no error. -/
theorem findByUserId_of_missing (hserves : Serves library.toJsonLibrary store.client cluster)
    (hindex : '/' ∉ store.index.toList) {userId : ℤ}
    (h : Documents.get cluster store.index (toString userId) = none) :
  store.findByUserId library userId = .ok none
  := by
  obtain ⟨hok, hstatus⟩ := hserves.get_missing store.index_ne hindex
    (ElasticsearchClient.slash_notMem_toString userId) h
  have hok' : (store.client.get store.index (toString userId)).ok = false := hok
  have hstatus' : (store.client.get store.index (toString userId)).statusCode
      = kHttpNotFoundStatusCode := hstatus
  simp only [findByUserId, hok', Bool.false_eq_true, if_false, hstatus', if_true]

end Serving

/-! ### The cluster and the file -/

/-- The profiles on the lines of a file have the identifiers of their documents, and are read from the
documents when these are written as texts again. -/
structure ReadsProfiles (library : ProfileLibrary) (w : ElasticsearchWriter)
    (lines : List (List UInt8)) : Prop where
  userId_eq : ∀ line ∈ lines, ∀ document profile, library.jsonStringToStruct line = .ok document
    → library.jsonStringToMessage line = .ok profile → w.documentId document = some profile.userId
  again : ∀ line ∈ lines, ∀ document profile, library.jsonStringToStruct line = .ok document
    → library.jsonStringToMessage line = .ok profile
    → ∃ profileJson, library.messageToJsonString document = .ok profileJson
      ∧ library.jsonStringToMessage profileJson = .ok profile

section Local

variable {library : ProfileLibrary} {w : ElasticsearchWriter} {documents : List Fields}
  {files : String → Option (List UInt8)} {filePath : String} {content : List UInt8}
  {errorMsg : Option String} {before loaded : UserIdProfileMap}

theorem jsonStringToMessage_of_profileFromJsonLine {line : List UInt8} {profile : Profile}
    (h : LocalFile.profileFromJsonLine library.jsonStringToMessage line = .ok profile) :
  library.jsonStringToMessage line = .ok profile
  := by
  rw [LocalFile.profileFromJsonLine] at h
  obtain ⟨read, hread, h⟩ := Batch.of_bind_eq_ok h
  split at h
  · cases h
  · obtain rfl := Except.ok.inj h
    exact Outcome.mapError_eq_ok hread

/-- A file is loaded as the map of the profiles on its lines. -/
theorem mapM_of_loadProfiles (hfile : files filePath = some content)
    (hload : loadProfilesFromJsonlFile library.jsonStringToMessage files filePath (some before)
      errorMsg = ⟨true, errorMsg, some loaded⟩) :
  ∃ profiles, ((Lines.filled isFilled newline content).mapM fun line =>
      (LocalFile.profileFromJsonLine library.jsonStringToMessage line.1).mapError fun message =>
        message ++ " at JSONL line " ++ toString line.2) = .ok profiles
    ∧ ∀ userId, loaded.lookup userId
      = (profiles.filter fun profile => decide (some profile.userId = some userId)).getLast?
  := by
  simp only [Option.some_inj]
  rw [LocalFile.loadProfilesFromJsonlFile_of_content hfile] at hload
  split at hload
  next message _ => cases congrArg LoadResult.success hload
  next parsed hparse =>
    have hloaded : parsed = loaded := Option.some.inj (congrArg LoadResult.loaded hload)
    rw [LocalFile.parseProfiles_eq, hloaded] at hparse
    cases hprofiles : (Lines.filled isFilled newline content).mapM fun line =>
        (LocalFile.profileFromJsonLine library.jsonStringToMessage line.1).mapError fun message =>
          message ++ " at JSONL line " ++ toString line.2 with
    | error message =>
        rw [hprofiles] at hparse
        cases hparse
    | ok profiles =>
        rw [hprofiles] at hparse
        use profiles, rfl
        intro userId
        obtain rfl := Except.ok.inj hparse
        have hlookup := Keyed.lookup_collect (fun profile : Profile => profile.userId)
          (fun profile _ => profile) profiles userId
        have hlast := Keyed.accumulate_replace id
          (profiles.filter fun profile => decide (profile.userId = userId))
        rw [Option.map_id] at hlast
        exact hlookup.trans hlast

/-- The identifier of the document on a line. -/
def lineId (library : ProfileLibrary) (w : ElasticsearchWriter) (line : List UInt8) : Option ℤ :=
  (LocalFileItemIndexStore.objectOf library.toJsonLibrary line).bind w.documentId

section Lines

variable (hlines : ((Lines.filled isFilled newline content).map Prod.fst).mapM
  (LocalFileItemIndexStore.objectOf library.toJsonLibrary) = some documents)

include hlines

theorem map_lineId :
  (Lines.filled isFilled newline content).map (fun line => lineId library w line.1)
    = documents.map w.documentId
  := by
  calc (Lines.filled isFilled newline content).map (fun line => lineId library w line.1)
      = (((Lines.filled isFilled newline content).map Prod.fst).map
          (LocalFileItemIndexStore.objectOf library.toJsonLibrary)).map
            (fun document => document.bind w.documentId) := by
        rw [List.map_map, List.map_map]
        rfl
    _ = documents.map w.documentId := by
        rw [Outcome.map_of_mapM_eq_some hlines, List.map_map]
        rfl

/-- A line holds a document. -/
theorem exists_document {line : List UInt8 × ℕ} (hline : line ∈ Lines.filled isFilled newline content) :
  ∃ document, library.jsonStringToStruct line.1 = .ok document
  := by
  have hmem : LocalFileItemIndexStore.objectOf library.toJsonLibrary line.1
      ∈ documents.map some := by
    rw [← Outcome.map_of_mapM_eq_some hlines]
    exact List.mem_map_of_mem (List.mem_map_of_mem hline)
  obtain ⟨document, -, hobject⟩ := List.mem_map.mp hmem
  exact ⟨document, Outcome.toOption_eq_some hobject.symm⟩

/-- A document is on a line. -/
theorem exists_line {document : Fields} (hdocument : document ∈ documents) :
  ∃ line ∈ Lines.filled isFilled newline content, library.jsonStringToStruct line.1 = .ok document
  := by
  have hmem : some document ∈ documents.map some := List.mem_map_of_mem hdocument
  rw [← Outcome.map_of_mapM_eq_some hlines, List.map_map] at hmem
  obtain ⟨line, hline, hobject⟩ := List.mem_map.mp hmem
  exact ⟨line, hline, Outcome.toOption_eq_some hobject⟩

/-- A profile on a line has the identifier of the line. -/
theorem lineId_of_profile
    (hreads : ReadsProfiles library w ((Lines.filled isFilled newline content).map Prod.fst))
    {line : List UInt8 × ℕ} (hline : line ∈ Lines.filled isFilled newline content)
    {profile : Profile} (hmessage : library.jsonStringToMessage line.1 = .ok profile) :
  some profile.userId = lineId library w line.1
  := by
  obtain ⟨document, hstruct⟩ := exists_document hlines hline
  rw [lineId, LocalFileItemIndexStore.objectOf, hstruct]
  exact (hreads.userId_eq _ (List.mem_map_of_mem hline) _ _ hstruct hmessage).symm

/-- What a map of profiles has for a user is the profile of the document of the user. -/
theorem lookup_local (h : w.Identified documents) (hfile : files filePath = some content)
    (hreads : ReadsProfiles library w ((Lines.filled isFilled newline content).map Prod.fst))
    (hload : loadProfilesFromJsonlFile library.jsonStringToMessage files filePath (some before)
      errorMsg = ⟨true, errorMsg, some loaded⟩) (userId : ℤ) :
  (documents.find? fun document => decide (w.documentId document = some userId)).elim
    (loaded.lookup userId = none)
    (fun document => ∃ profileJson profile, library.messageToJsonString document = .ok profileJson
      ∧ library.jsonStringToMessage profileJson = .ok profile
      ∧ loaded.lookup userId = some profile)
  := by
  obtain ⟨profiles, hprofiles, hlookup⟩ := mapM_of_loadProfiles hfile hload
  have hnodup : ((Lines.filled isFilled newline content).map fun line =>
      lineId library w line.1).Nodup := by
    rw [map_lineId hlines]
    exact h.nodup
  obtain ⟨hfound, hnone⟩ := @Batch.getLast?_filter_of_mapM _ _ _ _ _ _ _ _ hprofiles
    (fun line => lineId library w line.1) (fun profile => some profile.userId)
    (fun line hline profile hread => lineId_of_profile hlines hreads hline
      (jsonStringToMessage_of_profileFromJsonLine (Outcome.mapError_eq_ok hread))) hnodup
  rw [hlookup]
  cases hfind : documents.find? fun document => decide (w.documentId document = some userId) with
  | none =>
      rw [Option.elim_none]
      apply hnone
      intro line hline hid
      have hmem : some userId ∈ documents.map w.documentId := by
        rw [← map_lineId hlines, ← hid]
        exact List.mem_map_of_mem hline
      obtain ⟨document, hdocument, hid'⟩ := List.mem_map.mp hmem
      simpa [hid'] using List.find?_eq_none.mp hfind document hdocument
  | some document =>
      have hid : w.documentId document = some userId := by simpa using List.find?_some hfind
      obtain ⟨line, hline, hstruct⟩ := exists_line hlines (List.mem_of_find?_eq_some hfind)
      obtain ⟨profile, hread, hlast⟩ := hfound line hline
      have hmessage := jsonStringToMessage_of_profileFromJsonLine (Outcome.mapError_eq_ok hread)
      obtain ⟨profileJson, hjson, hagain⟩ :=
        hreads.again _ (List.mem_map_of_mem hline) _ _ hstruct hmessage
      have hlineId : lineId library w line.1 = some userId := by
        rw [lineId, LocalFileItemIndexStore.objectOf, hstruct, ← hid]
        rfl
      rw [hlineId] at hlast
      use profileJson, profile

end Lines

/-- A cluster that holds just the documents of an index answers like the profiles of the file. -/
theorem answers_of_holds (h : w.Identified documents) (hfile : files filePath = some content)
    (hlines : ((Lines.filled isFilled newline content).map Prod.fst).mapM
      (LocalFileItemIndexStore.objectOf library.toJsonLibrary) = some documents)
    (hreads : ReadsProfiles library w ((Lines.filled isFilled newline content).map Prod.fst))
    (hload : loadProfilesFromJsonlFile library.jsonStringToMessage files filePath (some before)
      errorMsg = ⟨true, errorMsg, some loaded⟩)
    {left cluster : Cluster String String Fields} (hholds : w.Holds documents left cluster)
    (hempty : ∀ id, Documents.get cluster w.indexName id = none)
    {store : ElasticsearchProfileStore} (hindex : store.index = w.indexName)
    (hslash : '/' ∉ store.index.toList)
    (hserves : Serves library.toJsonLibrary store.client left) :
  (store.toProfileStore library).Answers fun userId => loaded.lookup userId
  := by
  intro userId
  have hget : Documents.get left store.index (toString userId) = _ :=
    hindex ▸ hholds.get_eq_find? h hempty userId
  have hlocal := lookup_local hlines h hfile hreads hload userId
  change store.findByUserId library userId = .ok (loaded.lookup userId)
  cases hfind : documents.find? fun document => decide (w.documentId document = some userId) with
  | none =>
      rw [hfind] at hget hlocal
      rw [findByUserId_of_missing hserves hslash hget, hlocal]
  | some document =>
      rw [hfind] at hget hlocal
      obtain ⟨profileJson, profile, hjson, hagain, hlocal⟩ := hlocal
      rw [findByUserId_of_found hserves hslash hget hjson hagain, hlocal]

/-- The profiles of a file that is loaded are found in the cluster as they are found locally, when the
documents of the file have been written to it, after however many attempts that have failed.  The
index held no document before. -/
theorem answers_of_loadProfilesFromJsonlFile (h : w.Identified documents)
    (hfile : files filePath = some content)
    (hlines : ((Lines.filled isFilled newline content).map Prod.fst).mapM
      (LocalFileItemIndexStore.objectOf library.toJsonLibrary) = some documents)
    (hreads : ReadsProfiles library w ((Lines.filled isFilled newline content).map Prod.fst))
    (hload : loadProfilesFromJsonlFile library.jsonStringToMessage files filePath (some before)
      errorMsg = ⟨true, errorMsg, some loaded⟩)
    {mappings : String → Except String Json} {attempts : List Client}
    (hattempts : ∀ client ∈ attempts, client.Lawful) {client : Client} (hclient : client.Lawful)
    {cluster : Cluster String String Fields}
    (hempty : ∀ id, Documents.get cluster w.indexName id = none) {n : ℕ}
    (hwrite : (w.writeItems mappings client documents
      (w.afterAttempts mappings attempts documents cluster)).1 = .ok n)
    {store : ElasticsearchProfileStore} (hindex : store.index = w.indexName)
    (hslash : '/' ∉ store.index.toList)
    (hserves : Serves library.toJsonLibrary store.client (w.writeItems mappings client documents
      (w.afterAttempts mappings attempts documents cluster)).2) :
  (store.toProfileStore library).Answers fun userId => loaded.lookup userId
  := by
  obtain ⟨hsame, -⟩ := ElasticsearchWriter.afterAttempts_leaves mappings hattempts h
    (fun index text _ => rfl : SameBeyond (documents.map w.sentAction) cluster cluster)
  obtain ⟨-, hholds⟩ := ElasticsearchWriter.holds_of_writeItems hclient h hsame hwrite
  exact answers_of_holds h hfile hlines hreads hload hholds hempty hindex hslash hserves

end Local

/-! ### A cluster of two users -/

/-- The members of an object with an identifier only. -/
def userFields (userId : ℤ) : Fields :=
  [("user_id", .int userId)]

/-- The text of an object with an identifier only. -/
def userJson (userId : ℤ) : String :=
  "\x7b\"user_id\":" ++ toString userId ++ "\x7d"

/-- What the cluster answers when it has a document. -/
def userResponse (source : Fields) : String :=
  match source with
  | [("user_id", .int userId)] => "\x7b\"found\":true,\"_source\":" ++ userJson userId ++ "\x7d"
  | _ => ""

/-- A library for the texts of the users 1 and 2 and for the answers with them. -/
def userLibrary : ProfileLibrary where
  jsonStringToStruct text :=
    if text = bytesOf (userJson 1) then .ok (userFields 1)
    else if text = bytesOf (userJson 2) then .ok (userFields 2)
    else if text = bytesOf (userResponse (userFields 1)) then
      .ok [("found", .bool true), ("_source", .object (userFields 1))]
    else if text = bytesOf (userResponse (userFields 2)) then
      .ok [("found", .bool true), ("_source", .object (userFields 2))]
    else .error "INVALID_ARGUMENT"
  jsonStringToValue _ := .error "INVALID_ARGUMENT"
  messageToJsonString
    | [("user_id", .int userId)] => .ok (bytesOf (userJson userId))
    | _ => .error "INVALID_ARGUMENT"
  jsonStringToMessage text :=
    if text = bytesOf (userJson 1) then .ok { userId := 1 }
    else if text = bytesOf (userJson 2) then .ok { userId := 2 }
    else .error "INVALID_ARGUMENT"

/-- The client of a cluster of such documents. -/
def userClient (cluster : Cluster String String Fields) : ElasticsearchClient where
  httpClient request :=
    match readOperation "http://localhost:9200" request with
    | some (.get index id) =>
      match Documents.get cluster index id with
      | some source => { response := { statusCode := 200, body := userResponse source } }
      | none => { errorCode := .httpStatusError, response := { statusCode := 404 } }
    | _ => { errorCode := .transportError }
  config := { baseUrl := "http://localhost:9200", username := "", password := "" }
  baseUrl_ne := ElasticsearchClient.localBaseUrl_ne
  withinBudget := ElasticsearchClient.withinBudget_default "http://localhost:9200" "" ""

/-- The answers with the two users are read. -/
theorem jsonStringToStruct_userResponse {userId : ℤ} (h : userId = 1 ∨ userId = 2) :
  userLibrary.jsonStringToStruct (bytesOf (userResponse (userFields userId)))
    = .ok [("found", .bool true), ("_source", .object (userFields userId))]
  := by
  rcases h with rfl | rfl
  · have h₁ : bytesOf (userResponse (userFields 1)) ≠ bytesOf (userJson 1) := by decide +kernel
    have h₂ : bytesOf (userResponse (userFields 1)) ≠ bytesOf (userJson 2) := by decide +kernel
    simp only [userLibrary, if_neg h₁, if_neg h₂, if_true]
  · have h₁ : bytesOf (userResponse (userFields 2)) ≠ bytesOf (userJson 1) := by decide +kernel
    have h₂ : bytesOf (userResponse (userFields 2)) ≠ bytesOf (userJson 2) := by decide +kernel
    have h₃ : bytesOf (userResponse (userFields 2)) ≠ bytesOf (userResponse (userFields 1)) := by
      decide +kernel
    simp only [userLibrary, if_neg h₁, if_neg h₂, if_neg h₃, if_true]

theorem serves_userClient {cluster : Cluster String String Fields}
    (h : ∀ index id source, Documents.get cluster index id = some source
      → source ∈ [userFields 1, userFields 2]) :
  Serves userLibrary.toJsonLibrary (userClient cluster) cluster
  := by
  apply ElasticsearchClient.serves_of_response
  · intro request index id hread
    have hread' : readOperation "http://localhost:9200" request = some (.get index id) := hread
    simp only [userClient, hread']
    rfl
  · intro index id source hget
    have huser : ∃ userId : ℤ, (userId = 1 ∨ userId = 2) ∧ source = userFields userId := by
      rcases List.mem_pair.mp (h index id source hget) with rfl | rfl
      · exact ⟨1, .inl rfl, rfl⟩
      · exact ⟨2, .inr rfl, rfl⟩
    obtain ⟨userId, hid, rfl⟩ := huser
    exact ⟨_, jsonStringToStruct_userResponse hid, rfl, rfl⟩

/-- The lines of the two users, after a blank line. -/
def userContent : List UInt8 :=
  newline :: bytesOf (userJson 1) ++ newline :: bytesOf (userJson 2)

/-- The file of the two profiles. -/
def userFile (filePath : String) : Option (List UInt8) :=
  if filePath = "profiles.jsonl" then some userContent else none

/-- The index of the profiles. -/
def userWriter : ElasticsearchWriter where
  indexName := "user_profile"
  idField := "user_id"
  ensureIndex := true

theorem readsProfiles_user :
  ReadsProfiles userLibrary userWriter [bytesOf (userJson 1), bytesOf (userJson 2)]
  := by
  have hother : bytesOf (userJson 2) ≠ bytesOf (userJson 1) := by decide +kernel
  have hreads : ∀ line ∈ [bytesOf (userJson 1), bytesOf (userJson 2)], ∃ userId : ℤ,
      line = bytesOf (userJson userId)
        ∧ userLibrary.jsonStringToStruct line = .ok (userFields userId)
        ∧ userLibrary.jsonStringToMessage line = .ok { userId := userId } := by
    intro line hline
    rcases List.mem_pair.mp hline with rfl | rfl
    · exact ⟨1, rfl, rfl, rfl⟩
    · refine ⟨2, rfl, ?_, ?_⟩
      · simp only [userLibrary, if_neg hother, if_true]
      · simp only [userLibrary, if_neg hother, if_true]
  constructor
  · intro line hline document profile hdocument hprofile
    obtain ⟨userId, -, hstruct, hmessage⟩ := hreads line hline
    obtain rfl := Except.ok.inj (hstruct.symm.trans hdocument)
    obtain rfl := Except.ok.inj (hmessage.symm.trans hprofile)
    rfl
  · intro line hline document profile hdocument hprofile
    obtain ⟨userId, rfl, hstruct, -⟩ := hreads line hline
    obtain rfl := Except.ok.inj (hstruct.symm.trans hdocument)
    exact ⟨_, rfl, hprofile⟩

/-- A first write is refused at the second profile, and another one puts both. -/
theorem answers_of_loadProfilesFromJsonlFile_user :
  let documents : List Fields := [userFields 1, userFields 2]
  let left := userWriter.afterAttempts ElasticsearchWriter.emptyMapping
    [ElasticsearchWriter.oneByOne (· = 1) fun _ => none] documents fun _ => none
  let written := userWriter.writeItems ElasticsearchWriter.emptyMapping
    (ElasticsearchWriter.oneByOne (fun _ => false) fun _ => none) documents left
  let store : ElasticsearchProfileStore :=
    { client := userClient written.2, index := userWriter.indexName, index_ne := by decide }
  written.1 = .ok 2
    ∧ store.findByUserId userLibrary 1 = .ok (some { userId := 1 })
    ∧ store.findByUserId userLibrary 2 = .ok (some { userId := 2 })
    ∧ store.findByUserId userLibrary (-2) = .ok none
  := by
  intro documents left written store
  have hidentified : userWriter.Identified documents := by
    constructor
    · decide
    · decide
  have hattempts : ∀ client ∈ [ElasticsearchWriter.oneByOne (· = 1) fun _ => none],
      client.Lawful :=
    List.forall_mem_singleton.mpr (ElasticsearchWriter.lawful_oneByOne _ _)
  have hclient := ElasticsearchWriter.lawful_oneByOne (fun _ => false) fun _ => none
  have hwrite : written.1 = .ok 2 := rfl
  have hstored : ∀ index id source, Documents.get written.2 index id = some source
      → source ∈ documents := by
    intro index id source hget
    have hsame : SameBeyond (documents.map userWriter.sentAction) left fun _ => none :=
      (ElasticsearchWriter.afterAttempts_leaves _ hattempts hidentified fun _ _ _ => rfl).1
    obtain ⟨-, hholds⟩ := ElasticsearchWriter.holds_of_writeItems hclient hidentified hsame hwrite
    rcases hholds.mem_or_get hidentified hget with hmem | hnone
    · exact hmem
    · cases hnone
  have hparse : LocalFile.parseProfiles userLibrary.jsonStringToMessage userContent
      = .ok [(1, { userId := 1 }), (2, { userId := 2 })] := by
    apply Outcome.toOption_eq_some
    decide +kernel
  have hload : loadProfilesFromJsonlFile userLibrary.jsonStringToMessage userFile "profiles.jsonl"
      (some []) none = ⟨true, none, some [(1, { userId := 1 }), (2, { userId := 2 })]⟩ := by
    rw [@LocalFile.loadProfilesFromJsonlFile_of_content _ _ _ userContent rfl, hparse]
  have hfilled : (Lines.filled isFilled newline userContent).map Prod.fst
      = [bytesOf (userJson 1), bytesOf (userJson 2)] := by
    decide +kernel
  have hanswers := @answers_of_loadProfilesFromJsonlFile userLibrary userWriter documents
    userFile "profiles.jsonl" userContent none [] _ hidentified rfl (by rw [hfilled]; rfl)
    (hfilled ▸ readsProfiles_user) hload _ _ hattempts _ hclient (fun _ => none) (fun _ => rfl) 2
    hwrite store rfl (by decide +kernel) (serves_userClient hstored)
  exact ⟨hwrite, findByUserId_of_answers hanswers 1, findByUserId_of_answers hanswers 2,
    findByUserId_of_answers hanswers (-2)⟩

end ElasticsearchProfileStore

end RecommendationEngine
