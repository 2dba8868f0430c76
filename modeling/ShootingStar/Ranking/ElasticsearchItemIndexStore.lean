import ShootingStar.Utilities.ElasticsearchDocuments

/-!
# The item index of a cluster

The store asks the cluster for the document of an item and reads the entry in it.

When the documents of a file have been written to the cluster, after however many writes that have
failed, the store finds the same entries as the one that loads the file (`findByItemId_eq_local`).
-/

namespace RecommendationEngine

open Documents (Cluster SameBeyond)
open ElasticsearchClient (Serves kHttpNotFoundStatusCode readOperation)
open JsonParser (ValueReaders Reading)
open LocalFile (isFilled newline)
open OfflineDataProcessing (Fields Client ElasticsearchWriter)
open Utf8 (bytesOf)

/-- A store with an index that has a name. -/
structure ElasticsearchItemIndexStore where
  client : ElasticsearchClient
  index : String
  index_ne : index ≠ ""

namespace ElasticsearchItemIndexStore

/-- The constructor, with the message of the exception it throws. -/
def create (client : ElasticsearchClient) (index : String) :
    Except String ElasticsearchItemIndexStore :=
  if h : index = "" then .error "ElasticsearchItemIndexStore index must not be empty"
  else .ok ⟨client, index, h⟩

section Reading

variable (library : JsonLibrary) (readers : ValueReaders)

/-- The entry in a response to a request for a document; nothing when it was not found. -/
def parseItemFromGetResponse (responseBody : String) : Reading (Option FullItemIndexEntry) := do
  let responseFields ← library.parseObject (bytesOf responseBody) "Elasticsearch response"
  let found ← JsonParser.requiredField responseFields "found" "Elasticsearch response"
  match found with
  | .bool false => pure none
  | .bool true =>
    match JsonParser.findField responseFields "_source" with
    | none => .error "Elasticsearch response is missing JSON field: _source"
    | some (.object source) =>
      some <$> ItemIndexStore.parseEntryFromJsonObject readers source "Elasticsearch _source"
    | some _ => .error "Elasticsearch _source field is not a JSON object."
  | _ => .error "Elasticsearch response.found must be a bool."

/-- The entry of an item; nothing when the cluster has none. -/
def findByItemId (store : ElasticsearchItemIndexStore) (itemId : ℕ) :
    Reading (Option FullItemIndexEntry) :=
  let result := store.client.get store.index (toString itemId)
  if result.ok then parseItemFromGetResponse library readers result.body
  else if result.statusCode = kHttpNotFoundStatusCode then .ok none
  else
    .error ("Failed to fetch item index from Elasticsearch: status=" ++ toString result.statusCode
      ++ " error=" ++ result.errorMessage ++ " body=" ++ result.body)

end Reading

/-! ### Answers of the cluster -/

theorem requiredField_of_lookup {fields : Fields} {fieldName : String} {value : Json}
    (h : fields.lookup fieldName = some value) (context : String) :
  JsonParser.requiredField fields fieldName context = .ok value
  := by
  rw [JsonParser.requiredField, JsonParser.findField, h]

section Serving

variable {library : JsonLibrary} {readers : ValueReaders} {store : ElasticsearchItemIndexStore}
  {cluster : Cluster String String Fields}

/-- A document that the cluster has is read. -/
theorem findByItemId_of_found (hserves : Serves library store.client cluster)
    (hindex : '/' ∉ store.index.toList) {itemId : ℕ} {source : Fields}
    (h : Documents.get cluster store.index (toString itemId) = some source) :
  store.findByItemId library readers itemId
    = some <$> ItemIndexStore.parseEntryFromJsonObject readers source "Elasticsearch _source"
  := by
  obtain ⟨hok, fields, hstruct, hfound, hsource⟩ := hserves.get_found store.index_ne hindex
    (ElasticsearchClient.slash_notMem_toString itemId) h
  have hbody : library.parseObject
      (bytesOf (store.client.get store.index (toString itemId)).body) "Elasticsearch response"
      = .ok fields := by
    rw [JsonLibrary.parseObject]
    exact congrArg _ hstruct
  have hrequired := requiredField_of_lookup hfound "Elasticsearch response"
  have hfield : JsonParser.findField fields "_source" = some (.object source) := hsource
  have hok' : (store.client.get store.index (toString itemId)).ok = true := hok
  simp only [findByItemId, hok', if_true, parseItemFromGetResponse, hbody, hrequired, hfield,
    bind, Except.bind]

/-- A document that the cluster does not have is no error. -/
theorem findByItemId_of_missing (hserves : Serves library store.client cluster)
    (hindex : '/' ∉ store.index.toList) {itemId : ℕ}
    (h : Documents.get cluster store.index (toString itemId) = none) :
  store.findByItemId library readers itemId = .ok none
  := by
  obtain ⟨hok, hstatus⟩ := hserves.get_missing store.index_ne hindex
    (ElasticsearchClient.slash_notMem_toString itemId) h
  have hok' : (store.client.get store.index (toString itemId)).ok = false := hok
  have hstatus' : (store.client.get store.index (toString itemId)).statusCode
      = kHttpNotFoundStatusCode := hstatus
  simp only [findByItemId, hok', Bool.false_eq_true, if_false, hstatus', if_true]

end Serving

/-! ### Entries and their identifiers -/

section Identifiers

variable {readers : ValueReaders} {n : ℤ}

/-- Integers up to `2 ^ 53` are read as they are, or refused. -/
theorem eq_of_readUint64_int (hn : n.natAbs ≤ 2 ^ 53) {context : String} {read : ℕ}
    (h : JsonParser.readUint64 readers (.int n) context = .ok read) :
  (read : ℤ) = n
  := by
  by_cases hneg : n < 0
  · have hrefused : JsonParser.readUint64Value (.int n) context
        = .error (context ++ " contains invalid uint64") := by
      rw [JsonParser.readUint64Value, nearestDouble_eq_self hn,
        JsonParser.convertDouble, if_pos (.inl (by simpa using hneg))]
    rw [JsonParser.readUint64, hrefused] at h
    cases h
  · rw [JsonParser.readUint64_int readers (by omega) (by omega)] at h
    obtain rfl := Except.ok.inj h
    omega

/-- An entry that is read has the identifier of its document. -/
theorem itemId_of_parse {fields : Fields} (hn : n.natAbs ≤ 2 ^ 53)
    (hid : fields.lookup "item_id" = some (.int n)) {context : String} {entry : FullItemIndexEntry}
    (h : ItemIndexStore.parseEntryFromJsonObject readers fields context = .ok entry) :
  (entry.itemId : ℤ) = n
  := by
  rw [ItemIndexStore.parseEntryFromJsonObject] at h
  obtain ⟨itemId, hread, h⟩ := Batch.of_bind_eq_ok h
  split at h
  · cases h
  obtain ⟨title, -, h⟩ := Batch.of_bind_eq_ok h
  obtain ⟨titleRaw, -, h⟩ := Batch.of_bind_eq_ok h
  obtain ⟨titleNorm, -, h⟩ := Batch.of_bind_eq_ok h
  obtain ⟨year, -, h⟩ := Batch.of_bind_eq_ok h
  obtain ⟨genres, -, h⟩ := Batch.of_bind_eq_ok h
  obtain ⟨tags, -, h⟩ := Batch.of_bind_eq_ok h
  obtain ⟨rating, -, h⟩ := Batch.of_bind_eq_ok h
  obtain ⟨search, -, h⟩ := Batch.of_bind_eq_ok h
  obtain ⟨ext, -, h⟩ := Batch.of_bind_eq_ok h
  obtain rfl := Except.ok.inj h
  rw [JsonParser.readRequiredUint64, requiredField_of_lookup hid] at hread
  exact eq_of_readUint64_int hn hread

end Identifiers

/-! ### The cluster and the file -/

section Local

variable {library : JsonLibrary} {readers : ValueReaders} {w : ElasticsearchWriter}
  {documents : List Fields} {files : String → Option (List UInt8)} {filePath : String}
  {content : List UInt8} {errorMsg : Option String} {before loaded : LocalFileItemIndexStore}

/-- A file of lines is loaded as the entries of its documents. -/
theorem mapM_of_loadFromFile (hfile : files filePath = some content)
    (hbrace : LocalFileItemIndexStore.firstNonBlankChar content = JsonText.openBrace)
    (hlines : ((Lines.filled isFilled newline content).map Prod.fst).mapM
      (LocalFileItemIndexStore.objectOf library) = some documents)
    (hload : LocalFileItemIndexStore.loadFromFile library readers files filePath errorMsg before
      = ⟨true, errorMsg, loaded⟩) :
  ∃ entries, documents.mapM (fun document =>
        ItemIndexStore.parseEntryFromJsonObject readers document "") = .ok entries
    ∧ loaded.entries = LocalFileItemIndexStore.collectEntries entries
  := by
  have hparse : (LocalFileItemIndexStore.parseContent library readers content).toOption
      = (documents.mapM (LocalFileItemIndexStore.entryOf readers)).map
        LocalFileItemIndexStore.collectEntries := by
    rw [LocalFileItemIndexStore.parseContent, hbrace, if_neg (by decide), if_neg (by decide),
      LocalFileItemIndexStore.toOption_parseJsonlContent, Outcome.mapM_bind, hlines,
      Option.bind_some]
  rw [LocalFileItemIndexStore.loadFromFile, hfile] at hload
  simp only at hload
  split at hload
  next what _ => cases congrArg LocalFile.LoadResult.success hload
  next loadedEntries hcontent =>
    have hloaded : loaded.entries = loadedEntries :=
      congrArg (fun result => result.loaded.entries) hload.symm
    rw [hcontent] at hparse
    obtain ⟨entries, hentries, hcollect⟩ := Option.map_eq_some_iff.mp hparse.symm
    use entries
    constructor
    · apply Outcome.toOption_eq_some
      rw [Outcome.toOption_mapM]
      exact hentries
    · rw [hloaded, hcollect]

/-- The entries that are found locally. -/
theorem findByItemId_of_entries {entries : List FullItemIndexEntry}
    (hloaded : loaded.entries = LocalFileItemIndexStore.collectEntries entries) (itemId : ℕ) :
  loaded.findByItemId itemId
    = (entries.filter fun entry => decide (some (entry.itemId : ℤ) = some (itemId : ℤ))).getLast?
  := by
  simp only [Option.some_inj, Nat.cast_inj]
  rw [← LocalFileItemIndexStore.findByItemId_collectEntries, ← hloaded]

/-- The documents of a file have the identifiers of their entries. -/
theorem itemId_of_mem_entries (hid : w.idField = "item_id") (h : w.Identified documents)
    (hrange : ∀ document ∈ documents, ∀ n ∈ w.documentId document, n.natAbs ≤ 2 ^ 53)
    {document : Fields} (hdocument : document ∈ documents) {context : String}
    {entry : FullItemIndexEntry}
    (hentry : ItemIndexStore.parseEntryFromJsonObject readers document context = .ok entry) :
  w.documentId document = some (entry.itemId : ℤ)
  := by
  obtain ⟨n, hn⟩ := Option.isSome_iff_exists.mp (h.isSome document hdocument)
  have hlookup := ElasticsearchWriter.lookup_of_documentId hn
  rw [hid] at hlookup
  rw [hn, itemId_of_parse (hrange document hdocument n hn) hlookup hentry]

/-- The local store finds the entry of the document that has an identifier. -/
theorem findByItemId_local (hid : w.idField = "item_id") (h : w.Identified documents)
    (hrange : ∀ document ∈ documents, ∀ n ∈ w.documentId document, n.natAbs ≤ 2 ^ 53)
    {entries : List FullItemIndexEntry}
    (hentries : documents.mapM (fun document =>
      ItemIndexStore.parseEntryFromJsonObject readers document "") = .ok entries)
    (hloaded : loaded.entries = LocalFileItemIndexStore.collectEntries entries) (itemId : ℕ) :
  (documents.find? fun document => decide (w.documentId document = some (itemId : ℤ))).elim
    (loaded.findByItemId itemId = none)
    (fun document => ∃ entry, ItemIndexStore.parseEntryFromJsonObject readers document "" = .ok entry
      ∧ loaded.findByItemId itemId = some entry)
  := by
  obtain ⟨hfound, hnone⟩ := Batch.getLast?_filter_of_mapM hentries
    (fun document hdocument entry hentry =>
      (itemId_of_mem_entries hid h hrange hdocument hentry).symm) h.nodup
  rw [findByItemId_of_entries hloaded]
  cases hfind : documents.find? fun document =>
      decide (w.documentId document = some (itemId : ℤ)) with
  | none =>
      rw [Option.elim_none]
      apply hnone
      intro document hdocument hitemId
      simpa [hitemId] using List.find?_eq_none.mp hfind document hdocument
  | some document =>
      have hitemId : w.documentId document = some (itemId : ℤ) := by
        simpa using List.find?_some hfind
      obtain ⟨entry, hentry, hlast⟩ := hfound document (List.mem_of_find?_eq_some hfind)
      rw [hitemId] at hlast
      use entry, hentry

/-- A cluster that holds just the documents of an index gives the entries that are found locally. -/
theorem findByItemId_of_holds (hid : w.idField = "item_id") (h : w.Identified documents)
    (hrange : ∀ document ∈ documents, ∀ n ∈ w.documentId document, n.natAbs ≤ 2 ^ 53)
    {entries : List FullItemIndexEntry}
    (hentries : documents.mapM (fun document =>
      ItemIndexStore.parseEntryFromJsonObject readers document "") = .ok entries)
    (hloaded : loaded.entries = LocalFileItemIndexStore.collectEntries entries)
    {left cluster : Cluster String String Fields} (hholds : w.Holds documents left cluster)
    (hempty : ∀ id, Documents.get cluster w.indexName id = none)
    {store : ElasticsearchItemIndexStore} (hindex : store.index = w.indexName)
    (hslash : '/' ∉ store.index.toList) (hserves : Serves library store.client left) (itemId : ℕ) :
  store.findByItemId library readers itemId = .ok (loaded.findByItemId itemId)
  := by
  have hget : Documents.get left store.index (toString itemId) = _ :=
    hindex ▸ hholds.get_eq_find? h hempty itemId
  have hlocal := findByItemId_local hid h hrange hentries hloaded itemId
  cases hfind : documents.find? fun document =>
      decide (w.documentId document = some (itemId : ℤ)) with
  | none =>
      rw [hfind] at hget hlocal
      rw [findByItemId_of_missing hserves hslash hget, hlocal]
  | some document =>
      rw [hfind] at hget hlocal
      obtain ⟨entry, hentry, hlocal⟩ := hlocal
      have hcontext := ItemIndexStore.inMessages_parseEntryFromJsonObject readers document
        "Elasticsearch _source" ""
      rw [hentry] at hcontext
      rw [findByItemId_of_found hserves hslash hget, Outcome.toOption_eq_some hcontext, hlocal]
      rfl

/-- The documents of a file that is loaded are found in the cluster as they are found locally, when
they have been written to it, after however many attempts that have failed.  The index held no
document before. -/
theorem findByItemId_eq_local (hid : w.idField = "item_id") (h : w.Identified documents)
    (hrange : ∀ document ∈ documents, ∀ n ∈ w.documentId document, n.natAbs ≤ 2 ^ 53)
    (hfile : files filePath = some content)
    (hbrace : LocalFileItemIndexStore.firstNonBlankChar content = JsonText.openBrace)
    (hlines : ((Lines.filled isFilled newline content).map Prod.fst).mapM
      (LocalFileItemIndexStore.objectOf library) = some documents)
    (hload : LocalFileItemIndexStore.loadFromFile library readers files filePath errorMsg before
      = ⟨true, errorMsg, loaded⟩)
    {mappings : String → Except String Json} {attempts : List Client}
    (hattempts : ∀ client ∈ attempts, client.Lawful) {client : Client} (hclient : client.Lawful)
    {cluster : Cluster String String Fields}
    (hempty : ∀ id, Documents.get cluster w.indexName id = none) {n : ℕ}
    (hwrite : (w.writeItems mappings client documents
      (w.afterAttempts mappings attempts documents cluster)).1 = .ok n)
    {store : ElasticsearchItemIndexStore} (hindex : store.index = w.indexName)
    (hslash : '/' ∉ store.index.toList)
    (hserves : Serves library store.client (w.writeItems mappings client documents
      (w.afterAttempts mappings attempts documents cluster)).2)
    (itemId : ℕ) :
  store.findByItemId library readers itemId = .ok (loaded.findByItemId itemId)
  := by
  obtain ⟨entries, hentries, hloaded⟩ := mapM_of_loadFromFile hfile hbrace hlines hload
  obtain ⟨hsame, -⟩ := ElasticsearchWriter.afterAttempts_leaves mappings hattempts h
    (fun index text _ => rfl : SameBeyond (documents.map w.sentAction) cluster cluster)
  obtain ⟨-, hholds⟩ := ElasticsearchWriter.holds_of_writeItems hclient h hsame hwrite
  exact findByItemId_of_holds hid h hrange hentries hloaded hholds hempty hindex hslash hserves itemId

end Local

/-! ### A cluster of two items -/

/-- The members of an object with an identifier only. -/
def itemFields (itemId : ℤ) : Fields :=
  [("item_id", .int itemId)]

/-- The text of an object with an identifier only. -/
def itemJson (itemId : ℤ) : String :=
  "\x7b\"item_id\":" ++ toString itemId ++ "\x7d"

/-- What the cluster answers when it has a document. -/
def responseText (source : Fields) : String :=
  match source with
  | [("item_id", .int itemId)] => "\x7b\"found\":true,\"_source\":" ++ itemJson itemId ++ "\x7d"
  | _ => ""

/-- A library for the texts of the items 1 and 2 and for the answers with them. -/
def responseLibrary : JsonLibrary where
  jsonStringToStruct text :=
    if text = bytesOf (itemJson 1) then .ok (itemFields 1)
    else if text = bytesOf (itemJson 2) then .ok (itemFields 2)
    else if text = bytesOf (responseText (itemFields 1)) then
      .ok [("found", .bool true), ("_source", .object (itemFields 1))]
    else if text = bytesOf (responseText (itemFields 2)) then
      .ok [("found", .bool true), ("_source", .object (itemFields 2))]
    else .error "INVALID_ARGUMENT"
  jsonStringToValue _ := .error "INVALID_ARGUMENT"

/-- The client of a cluster of such documents. -/
def clusterClient (cluster : Cluster String String Fields) : ElasticsearchClient where
  httpClient request :=
    match readOperation "http://localhost:9200" request with
    | some (.get index id) =>
      match Documents.get cluster index id with
      | some source => { response := { statusCode := 200, body := responseText source } }
      | none => { errorCode := .httpStatusError, response := { statusCode := 404 } }
    | _ => { errorCode := .transportError }
  config := { baseUrl := "http://localhost:9200", username := "", password := "" }
  baseUrl_ne := ElasticsearchClient.localBaseUrl_ne
  withinBudget := ElasticsearchClient.withinBudget_default "http://localhost:9200" "" ""

/-- The answers with the two items are read. -/
theorem jsonStringToStruct_responseText {itemId : ℤ} (h : itemId = 1 ∨ itemId = 2) :
  responseLibrary.jsonStringToStruct (bytesOf (responseText (itemFields itemId)))
    = .ok [("found", .bool true), ("_source", .object (itemFields itemId))]
  := by
  rcases h with rfl | rfl
  · have h₁ : bytesOf (responseText (itemFields 1)) ≠ bytesOf (itemJson 1) := by decide +kernel
    have h₂ : bytesOf (responseText (itemFields 1)) ≠ bytesOf (itemJson 2) := by decide +kernel
    simp only [responseLibrary, if_neg h₁, if_neg h₂, if_true]
  · have h₁ : bytesOf (responseText (itemFields 2)) ≠ bytesOf (itemJson 1) := by decide +kernel
    have h₂ : bytesOf (responseText (itemFields 2)) ≠ bytesOf (itemJson 2) := by decide +kernel
    have h₃ : bytesOf (responseText (itemFields 2)) ≠ bytesOf (responseText (itemFields 1)) := by
      decide +kernel
    simp only [responseLibrary, if_neg h₁, if_neg h₂, if_neg h₃, if_true]

theorem serves_clusterClient {cluster : Cluster String String Fields}
    (h : ∀ index id source, Documents.get cluster index id = some source
      → source ∈ [itemFields 1, itemFields 2]) :
  Serves responseLibrary (clusterClient cluster) cluster
  := by
  apply ElasticsearchClient.serves_of_response
  · intro request index id hread
    have hread' : readOperation "http://localhost:9200" request = some (.get index id) := hread
    simp only [clusterClient, hread']
    rfl
  · intro index id source hget
    have hitem : ∃ itemId : ℤ, (itemId = 1 ∨ itemId = 2) ∧ source = itemFields itemId := by
      rcases List.mem_pair.mp (h index id source hget) with rfl | rfl
      · exact ⟨1, .inl rfl, rfl⟩
      · exact ⟨2, .inr rfl, rfl⟩
    obtain ⟨itemId, hid, rfl⟩ := hitem
    exact ⟨_, jsonStringToStruct_responseText hid, rfl, rfl⟩

/-- A file of the two items, after a blank line. -/
def itemFile (filePath : String) : Option (List UInt8) :=
  if filePath = "items.jsonl" then
    some (newline :: bytesOf (itemJson 1) ++ newline :: bytesOf (itemJson 2))
  else none

/-- A first write is refused at the second item, and another one puts both. -/
theorem findByItemId_eq_local_item :
  let w : ElasticsearchWriter := { ensureIndex := true }
  let documents : List Fields := [itemFields 1, itemFields 2]
  let left := w.afterAttempts ElasticsearchWriter.emptyMapping
    [ElasticsearchWriter.oneByOne (· = 1) fun _ => none] documents fun _ => none
  let written := w.writeItems ElasticsearchWriter.emptyMapping
    (ElasticsearchWriter.oneByOne (fun _ => false) fun _ => none) documents left
  let store : ElasticsearchItemIndexStore :=
    { client := clusterClient written.2, index := w.indexName, index_ne := by decide }
  written.1 = .ok 2
    ∧ store.findByItemId responseLibrary ⟨fun _ => none, fun _ => 0⟩ 1 = .ok (some { itemId := 1 })
    ∧ store.findByItemId responseLibrary ⟨fun _ => none, fun _ => 0⟩ 2 = .ok (some { itemId := 2 })
    ∧ store.findByItemId responseLibrary ⟨fun _ => none, fun _ => 0⟩ 3 = .ok none
  := by
  intro w documents left written store
  have hidentified : w.Identified documents := by
    constructor
    · decide
    · decide
  have hattempts : ∀ client ∈ [ElasticsearchWriter.oneByOne (· = 1) fun _ => none],
      client.Lawful :=
    List.forall_mem_singleton.mpr (ElasticsearchWriter.lawful_oneByOne _ _)
  have hclient := ElasticsearchWriter.lawful_oneByOne (fun _ => false) fun _ => none
  have hwrite : written.1 = .ok 2 := rfl
  have hstored : ∀ index id source, Documents.get written.2 index id = some source
      → source ∈ documents := by
    intro index id source hget
    have hsame : SameBeyond (documents.map w.sentAction) left fun _ => none :=
      (ElasticsearchWriter.afterAttempts_leaves _ hattempts hidentified fun _ _ _ => rfl).1
    obtain ⟨-, hholds⟩ := ElasticsearchWriter.holds_of_writeItems hclient hidentified hsame hwrite
    rcases hholds.mem_or_get hidentified hget with hmem | hnone
    · exact hmem
    · cases hnone
  have hload : LocalFileItemIndexStore.loadFromFile responseLibrary ⟨fun _ => none, fun _ => 0⟩
      itemFile "items.jsonl" none {}
        = ⟨true, none, { entries := [(1, { itemId := 1 }), (2, { itemId := 2 })] }⟩ :=
    LocalFileItemIndexStore.loadFromFile_of_toOption_eq_some rfl (by decide +kernel) none {}
  have hlocal := @findByItemId_eq_local responseLibrary ⟨fun _ => none, fun _ => 0⟩ w documents
    itemFile "items.jsonl" _ none {} { entries := [(1, { itemId := 1 }), (2, { itemId := 2 })] } rfl
    hidentified (by decide) rfl (by decide +kernel) (by rfl) hload _ _ hattempts _ hclient
    (fun _ => none) (fun _ => rfl) 2 hwrite store rfl (by decide +kernel)
    (serves_clusterClient hstored)
  exact ⟨hwrite, hlocal 1, hlocal 2, hlocal 3⟩

end ElasticsearchItemIndexStore

end RecommendationEngine
