import ShootingStar.JsonValue
import ShootingStar.Lib.Batch
import ShootingStar.Offline.PairReduction
import ShootingStar.Utilities.RedisClient

/-!
# Writing similarity rows to Redis

The adapter turns each similarity row into a sorted set under a key of its own, and the writer sends
these sets to the server in batches.  A row of the builder becomes the set of its neighbours
(`toRedisData_document`), and however the rows are cut into batches the commands of all of them are
run in order (`writeRecords_eq`).
-/

namespace OfflineDataProcessing

open SortedSets (Store Command run)

/-! ### Documents -/

/-- The document of a neighbour. -/
def Neighbor.document (n : Neighbor ℚ) : Json :=
  .object [("item_id", .int n.neighborId), ("score", .float n.score),
    ("cooccurrence", .int n.cooccurrence)]

/-- The document of a row of the item builder. -/
def SimilarityRow.document (row : SimilarityRow ℚ) : List (String × Json) :=
  [("item_id", .int row.id), ("neighbors", .array (row.neighbors.map Neighbor.document))]

/-- The members of a row with their scores. -/
def SimilarityRow.values (row : SimilarityRow ℚ) : List (String × ℚ) :=
  row.neighbors.map fun n => (toString n.neighborId, n.score)

theorem toString_toNat {n : ℤ} (h : 0 < n) :
  toString n = toString n.toNat
  := by
  obtain ⟨m, rfl⟩ := Int.eq_ofNat_of_zero_le h.le
  rfl

/-- Distinct positive neighbours have distinct members. -/
theorem SimilarityRow.nodup_values {row : SimilarityRow ℚ}
    (hids : (row.neighbors.map Neighbor.neighborId).Nodup)
    (hpos : ∀ n ∈ row.neighbors, 0 < n.neighborId) :
  (row.values.map Prod.fst).Nodup
  := by
  rw [values, List.map_map]
  apply List.pairwise_map.mpr
  apply (List.pairwise_map.mp hids).imp_of_mem
  intro m n hm hn hne heq
  have htext : toString m.neighborId.toNat = toString n.neighborId.toNat := by
    rw [← toString_toNat (hpos m hm), ← toString_toNat (hpos n hn)]
    exact heq
  apply hne
  rw [← Int.toNat_of_nonneg (hpos m hm).le, Nat.repr_injective htext,
    Int.toNat_of_nonneg (hpos n hn).le]

/-! ### Records -/

/-- The characters that `str.strip` drops. -/
def isSpace (c : Char) : Bool :=
  let n := c.toNat
  (9 ≤ n && n ≤ 13) || (28 ≤ n && n ≤ 32) || n == 0x85 || n == 0xA0 || n == 0x1680
    || (0x2000 ≤ n && n ≤ 0x200A) || n == 0x2028 || n == 0x2029 || n == 0x202F || n == 0x205F
    || n == 0x3000

theorem isSpace_of_isDigit {c : Char} (h : c.isDigit = true) :
  isSpace c = false
  := by
  have hrange : 48 ≤ c.toNat ∧ c.toNat ≤ 57 := by
    simpa [Char.isDigit, UInt32.le_iff_toNat_le] using h
  simp only [isSpace, Bool.or_eq_false_iff, Bool.and_eq_false_iff, decide_eq_false_iff_not,
    beq_eq_false_iff_ne]
  omega

/-- A key that does not start with white space is not stripped. -/
theorem strip_key {keyPrefix : String} (hne : keyPrefix ≠ "")
    (hspace : ∀ c ∈ keyPrefix.toList.head?, isSpace c = false) (n : ℕ) :
  Text.strip isSpace (keyPrefix ++ ":" ++ toString n) = keyPrefix ++ ":" ++ toString n
  := by
  rw [String.append_assoc]
  apply Text.strip_append hspace hne
  · intro h
    exact Text.toString_ne_empty n (String.append_eq_empty_iff.mp h).2
  · intro c hc
    rw [String.toList_append, List.mem_append] at hc
    rcases hc with hc | hc
    · obtain rfl : c = ':' := by simpa using hc
      decide
    · exact isSpace_of_isDigit (Text.isDigit_of_mem_toString hc)

/-- A unit to be written: a key and, when it is a sorted set, its members with their scores. -/
structure RedisData where
  key : String
  dataType : String
  values : List (String × ℚ)
  key_ne : key ≠ ""
  dataType_ne : dataType ≠ ""

/-- The constructor, with the message of the exception it throws. -/
def RedisData.postInit (key dataType : String) (values : List (String × ℚ)) :
    Except String RedisData :=
  if hkey : Text.strip isSpace key = "" then .error "RedisData key must not be empty"
  else if htype : (Text.strip isSpace dataType).toLower = "" then
    .error "RedisData data_type must not be empty"
  else
    .ok {
      key := Text.strip isSpace key
      dataType := (Text.strip isSpace dataType).toLower
      values := values
      key_ne := hkey
      dataType_ne := htype }

/-- A sorted set. -/
def RedisData.zset (key : String) (values : List (String × ℚ)) : Except String RedisData :=
  postInit key "zset" values

/-- A sorted set under a key that is not empty when stripped. -/
theorem RedisData.zset_eq_ok {key stripped : String} (values : List (String × ℚ))
    (hkey : Text.strip isSpace key = stripped) (hne : stripped ≠ "") :
  zset key values
    = .ok {
        key := stripped
        dataType := "zset"
        values := values
        key_ne := hne
        dataType_ne := by decide }
  := by
  have htype : (Text.strip isSpace "zset").toLower = "zset" := by decide +kernel
  have htype' : (Text.strip isSpace "zset").toLower ≠ "" := by
    rw [htype]
    decide
  subst hkey
  rw [zset, postInit, dif_neg hne, dif_neg htype']
  congr

/-- The sorted set of a row. -/
def SimilarityRow.record (keyPrefix : String) (row : SimilarityRow ℚ) : RedisData where
  key := RedisClient.buildRedisKey keyPrefix row.id.toNat
  dataType := "zset"
  values := row.values
  key_ne := RedisClient.buildRedisKey_ne keyPrefix row.id.toNat
  dataType_ne := by decide

/-- Counters of what is written. -/
structure RedisWriteStats where
  recordCount : ℕ
  valueCount : ℕ
  deriving DecidableEq, Repr

namespace RedisWriteStats

/-- Both counters added. -/
def add (stats stats' : RedisWriteStats) : RedisWriteStats where
  recordCount := stats.recordCount + stats'.recordCount
  valueCount := stats.valueCount + stats'.valueCount

/-- The counters of records. -/
def ofRecords (records : List RedisData) : RedisWriteStats where
  recordCount := records.length
  valueCount := (records.map fun record => record.values.length).sum

@[simp]
theorem zero_add (stats : RedisWriteStats) :
  add ⟨0, 0⟩ stats = stats
  := by
  simp [add]

theorem add_assoc (stats stats' stats'' : RedisWriteStats) :
  (stats.add stats').add stats'' = stats.add (stats'.add stats'')
  := by
  simp [add, Nat.add_assoc]

theorem ofRecords_append (records records' : List RedisData) :
  ofRecords (records ++ records') = (ofRecords records).add (ofRecords records')
  := by
  simp [ofRecords, add]

end RedisWriteStats

/-! ### The adapter -/

/-- The options of the adapter; those left out have the values of the schema. -/
structure SimilarityDataAdapter.Options where
  inputSchema : String := "item-similarity"
  keyPrefix : Option String := none
  entityIdField : Option String := none
  neighborIdField : Option String := none
  deriving DecidableEq, Repr

/-- The values of a schema. -/
structure SimilarityDataAdapter.Preset where
  keyPrefix : String
  entityIdField : String
  neighborIdField : String
  deriving DecidableEq, Repr

/-- How the records of a kind of file are read, and under which keys they are written. -/
structure SimilarityDataAdapter where
  inputSchema : String
  keyPrefix : String
  entityIdField : String
  neighborIdField : String
  keyPrefix_ne : keyPrefix ≠ ""
  entityIdField_ne : entityIdField ≠ ""
  neighborIdField_ne : neighborIdField ≠ ""
  deriving DecidableEq

namespace SimilarityDataAdapter

/-- The schemas with their values. -/
def presetConfigs : List (String × Preset) :=
  [("item-similarity",
      { keyPrefix := "rec:item_cf:v1:neighbors"
        entityIdField := "item_id"
        neighborIdField := "item_id" }),
    ("user-similarity",
      { keyPrefix := "rec:user_cf:v1:neighbors"
        entityIdField := "user_id"
        neighborIdField := "user_id" })]

/-- The adapter of normalized values, with the message of the exception it throws. -/
def normalizeConfig (inputSchema : String) (config : Preset) :
    Except String SimilarityDataAdapter :=
  if hkeyPrefix : Text.rstrip (· = ':') config.keyPrefix = "" then
    .error "key_prefix must not be empty"
  else if hentity : Text.strip isSpace config.entityIdField = "" then
    .error "entity_id_field must not be empty"
  else if hneighbor : Text.strip isSpace config.neighborIdField = "" then
    .error "neighbor_id_field must not be empty"
  else
    .ok {
      inputSchema := inputSchema
      keyPrefix := Text.rstrip (· = ':') config.keyPrefix
      entityIdField := Text.strip isSpace config.entityIdField
      neighborIdField := Text.strip isSpace config.neighborIdField
      keyPrefix_ne := hkeyPrefix
      entityIdField_ne := hentity
      neighborIdField_ne := hneighbor }

/-- The constructor, with the message of the exception it throws. -/
def create (options : Options) : Except String SimilarityDataAdapter :=
  match presetConfigs.lookup options.inputSchema with
  | none =>
    .error ("input_schema must be one of ('item-similarity', 'user-similarity'), got '"
      ++ options.inputSchema ++ "'")
  | some preset =>
    normalizeConfig options.inputSchema
      { keyPrefix := options.keyPrefix.getD preset.keyPrefix
        entityIdField := options.entityIdField.getD preset.entityIdField
        neighborIdField := options.neighborIdField.getD preset.neighborIdField }

variable (readers : NumberReaders)

/-- The identifier of the entity a document is about.  The message stops before the document. -/
def entityId (a : SimilarityDataAdapter) (document : List (String × Json)) : Except String ℤ :=
  match document.lookup a.entityIdField with
  | none => .error ("Similarity document is missing '" ++ a.entityIdField ++ "'")
  | some value => value.toInt readers

/-- The member and the score of a neighbour. -/
def neighborScore (a : SimilarityDataAdapter) : Json → Except String (String × ℚ)
  | .object fields =>
    match fields.lookup a.neighborIdField with
    | none => .error ("Similarity neighbor is missing '" ++ a.neighborIdField ++ "'")
    | some id =>
      match fields.lookup "score" with
      | none => .error "'score'"
      | some score => do
        let score ← score.toFloat readers
        let id ← id.toInt readers
        .ok (toString id, score)
  | _ => .error "a similarity neighbor must be an object"

/-- The neighbours that a document lists. -/
def neighborsOf (document : List (String × Json)) : Except String (List Json) :=
  match document.lookup "neighbors" with
  | none => .ok []
  | some (.array neighbors) => .ok neighbors
  | some _ => .error "the neighbors of a similarity document must be a list"

/-- The score of a neighbour is stored under its member. -/
def addNeighbor (a : SimilarityDataAdapter) (mapping : List (String × ℚ)) (neighbor : Json) :
    Except String (List (String × ℚ)) := do
  let entry ← a.neighborScore readers neighbor
  .ok (Keyed.upsert entry.1 (fun _ => entry.2) mapping)

/-- The members of a document with their scores. -/
def neighborScoreMapping (a : SimilarityDataAdapter) (document : List (String × Json)) :
    Except String (List (String × ℚ)) := do
  let neighbors ← neighborsOf document
  neighbors.foldlM (a.addNeighbor readers) []

/-- The unit to be written for a document. -/
def toRedisData (a : SimilarityDataAdapter) (document : List (String × Json)) :
    Except String RedisData := do
  let entityId ← a.entityId readers document
  let mapping ← a.neighborScoreMapping readers document
  RedisData.zset (a.keyPrefix ++ ":" ++ toString entityId) mapping

variable {a : SimilarityDataAdapter}

/-- An adapter for a prefix reads the fields that the item builder writes. -/
theorem of_create_eq_ok {keyPrefix : String}
    (h : create { keyPrefix := some keyPrefix } = .ok a) :
  a.keyPrefix = Text.rstrip (· = ':') keyPrefix ∧ a.entityIdField = "item_id"
    ∧ a.neighborIdField = "item_id"
  := by
  have hstrip : Text.strip isSpace "item_id" = "item_id" := by decide
  have hlookup : presetConfigs.lookup "item-similarity"
    = some ⟨"rec:item_cf:v1:neighbors", "item_id", "item_id"⟩ := by decide
  simp only [create, hlookup, normalizeConfig, Option.getD_some, Option.getD_none, hstrip] at h
  split_ifs at h
  obtain rfl := Except.ok.inj h
  simp

theorem addNeighbor_document (hfield : a.neighborIdField = "item_id")
    (mapping : List (String × ℚ)) (n : Neighbor ℚ) :
  a.addNeighbor readers mapping n.document
    = .ok (Keyed.upsert (toString n.neighborId) (fun _ => n.score) mapping)
  := by
  simp [addNeighbor, neighborScore, Neighbor.document, hfield, List.lookup_cons, Json.toFloat,
    Json.toInt]
  rfl

/-- The mapping of a row of the builder, whose neighbours are distinct. -/
theorem neighborScoreMapping_document (hfield : a.neighborIdField = "item_id")
    {row : SimilarityRow ℚ} (h : (row.values.map Prod.fst).Nodup) :
  a.neighborScoreMapping readers row.document = .ok row.values
  := by
  have hloop : (row.neighbors.map Neighbor.document).foldlM (a.addNeighbor readers) []
      = .ok (Keyed.collect (fun n => toString n.neighborId) (fun n _ => n.score)
        row.neighbors) := by
    rw [List.foldlM_map]
    apply Batch.foldlM_eq_ok
    intro mapping n _
    exact addNeighbor_document readers hfield mapping n
  have hkeys : (row.neighbors.map fun n => toString n.neighborId).Nodup := by
    rw [SimilarityRow.values, List.map_map] at h
    exact h
  rw [Keyed.collect_of_nodup hkeys] at hloop
  exact hloop

/-- A row of the builder becomes the set of its neighbours, under the key from which its neighbours
are read. -/
theorem toRedisData_document {keyPrefix : String}
    (hspace : ∀ c ∈ keyPrefix.toList.head?, isSpace c = false)
    (ha : create { keyPrefix := some keyPrefix } = .ok a) {row : SimilarityRow ℚ}
    (hid : 0 < row.id) (h : (row.values.map Prod.fst).Nodup) :
  a.toRedisData readers row.document = .ok (row.record keyPrefix)
  := by
  obtain ⟨hkeyPrefix, hentity, hneighbor⟩ := of_create_eq_ok ha
  have hentityId : a.entityId readers row.document = .ok row.id := by
    simp [entityId, hentity, SimilarityRow.document, Json.toInt]
  have hkey : Text.strip isSpace (a.keyPrefix ++ ":" ++ toString row.id)
      = RedisClient.buildRedisKey keyPrefix row.id.toNat := by
    rw [toString_toNat hid, strip_key a.keyPrefix_ne, hkeyPrefix]
    · rfl
    · rw [hkeyPrefix, Text.head?_rstrip (hkeyPrefix ▸ a.keyPrefix_ne)]
      exact hspace
  simp only [toRedisData, hentityId, neighborScoreMapping_document readers hneighbor h, bind,
    Except.bind]
  exact RedisData.zset_eq_ok row.values hkey (RedisClient.buildRedisKey_ne keyPrefix row.id.toNat)

end SimilarityDataAdapter

/-! ### The writer -/

/-- The options of the writer. -/
structure RedisWriter.Options where
  batchSize : ℤ := 500
  expireSeconds : ℤ := 0
  replaceExisting : Bool := true
  dryRun : Bool := false
  redisLogEvery : ℤ := 300000
  deriving DecidableEq, Repr

/-- A writer with options that have been checked. -/
structure RedisWriter extends RedisWriter.Options where
  batchSize_pos : 0 < batchSize
  redisLogEvery_pos : 0 < redisLogEvery
  deriving DecidableEq

namespace RedisWriter

/-- The constructor, with the message of the exception it throws. -/
def normalizeConfig (options : Options) : Except String RedisWriter :=
  if hbatch : options.batchSize ≤ 0 then .error "batch_size must be positive"
  else if hlog : options.redisLogEvery ≤ 0 then .error "redis_log_every must be positive"
  else
    .ok {
      options with
      batchSize_pos := lt_of_not_ge hbatch
      redisLogEvery_pos := lt_of_not_ge hlog }

/-- Only sorted sets are written. -/
def validateRecord (record : RedisData) : Except String Unit :=
  if record.dataType ≠ "zset" then
    .error ("Unsupported RedisData data_type: " ++ record.dataType)
  else .ok ()

/-- The number of values of a record. -/
def recordValueCount (record : RedisData) : Except String ℕ :=
  if record.dataType = "zset" then .ok record.values.length
  else .error ("Unsupported RedisData data_type: " ++ record.dataType)

/-- A record in the loop of a dry run. -/
def countRecord (stats : RedisWriteStats) (record : Except String RedisData) :
    Except String RedisWriteStats := do
  let record ← record
  validateRecord record
  let count ← recordValueCount record
  .ok { recordCount := stats.recordCount + 1, valueCount := stats.valueCount + count }

/-- The commands in a pipeline, and the counters of its records. -/
structure Pipeline where
  commands : List (Command String String ℚ)
  stats : RedisWriteStats

/-- The commands of a sorted set: delete its key, store its values, let it expire. -/
def setCommands (w : RedisWriter) (record : RedisData) : List (Command String String ℚ) :=
  (if w.replaceExisting then [.del record.key] else [])
    ++ (if record.values.isEmpty then [] else [.zadd record.key record.values])
    ++ if 0 < w.expireSeconds then [.expire record.key w.expireSeconds] else []

/-- A record in the loop over a batch. -/
def addRecord (w : RedisWriter) (pipeline : Pipeline) (record : RedisData) :
    Except String Pipeline :=
  if record.dataType = "zset" then
    .ok {
      commands := pipeline.commands ++ w.setCommands record
      stats := {
        recordCount := pipeline.stats.recordCount + 1
        valueCount := pipeline.stats.valueCount + record.values.length } }
  else .error ("Unsupported RedisData data_type: " ++ record.dataType)

/-- The outcome of writing a batch, and the store afterwards. -/
def writeBatch (w : RedisWriter) (batch : List RedisData) (store : Store String String ℚ) :
    Except String RedisWriteStats × Store String String ℚ :=
  match batch.foldlM w.addRecord { commands := [], stats := ⟨0, 0⟩ } with
  | .error e => (.error e, store)
  | .ok pipeline => (.ok pipeline.stats, run pipeline.commands store)

/-- The loop over the records: `batch` is not written yet, and `total` counts what is. -/
def writeLoop (w : RedisWriter) (batch : List RedisData) (total : RedisWriteStats) :
    List (Except String RedisData) → Store String String ℚ →
    Except String RedisWriteStats × Store String String ℚ
  | [], store =>
    if batch.isEmpty then (.ok total, store)
    else
      match w.writeBatch batch store with
      | (.error e, store) => (.error e, store)
      | (.ok stats, store) => (.ok (total.add stats), store)
  | .error e :: _, store => (.error e, store)
  | .ok record :: records, store =>
    match validateRecord record with
    | .error e => (.error e, store)
    | .ok () =>
      if (batch ++ [record]).length < w.batchSize then
        w.writeLoop (batch ++ [record]) total records store
      else
        match w.writeBatch (batch ++ [record]) store with
        | (.error e, store) => (.error e, store)
        | (.ok stats, store) => w.writeLoop [] (total.add stats) records store

/-- The outcome of writing the records of an iterator that may throw, and the store afterwards. -/
def writeRecords (w : RedisWriter) (records : List (Except String RedisData))
    (store : Store String String ℚ) : Except String RedisWriteStats × Store String String ℚ :=
  if w.dryRun then (records.foldlM countRecord ⟨0, 0⟩, store)
  else w.writeLoop [] ⟨0, 0⟩ records store

/-! ### What is written -/

theorem validateRecord_zset {record : RedisData} (h : record.dataType = "zset") :
  validateRecord record = .ok ()
  := by
  simp [validateRecord, h]

/-- The commands of sorted sets are put in one pipeline. -/
theorem foldlM_addRecord (w : RedisWriter) {batch : List RedisData}
    (h : ∀ record ∈ batch, record.dataType = "zset") (pipeline : Pipeline) :
  batch.foldlM w.addRecord pipeline
    = .ok {
        commands := pipeline.commands ++ batch.flatMap w.setCommands
        stats := pipeline.stats.add (.ofRecords batch) }
  := by
  induction batch generalizing pipeline with
  | nil => simp [RedisWriteStats.add, RedisWriteStats.ofRecords, pure, Except.pure]
  | cons record batch ih =>
      have hrecord := h record List.mem_cons_self
      have hbatch := fun r hr => h r (List.mem_cons_of_mem record hr)
      rw [List.foldlM_cons, addRecord, if_pos hrecord]
      apply (ih hbatch _).trans
      rw [← List.singleton_append, RedisWriteStats.ofRecords_append, ← RedisWriteStats.add_assoc,
        List.flatMap_append, List.flatMap_singleton, List.append_assoc]
      rfl

theorem writeBatch_eq (w : RedisWriter) {batch : List RedisData}
    (h : ∀ record ∈ batch, record.dataType = "zset") (store : Store String String ℚ) :
  w.writeBatch batch store = (.ok (.ofRecords batch), run (batch.flatMap w.setCommands) store)
  := by
  rw [writeBatch, foldlM_addRecord w h]
  simp [RedisWriteStats.add]

/-- The loop writes the batch it holds and the records that come. -/
theorem writeLoop_eq (w : RedisWriter) {records batch : List RedisData}
    (h : ∀ record ∈ batch ++ records, record.dataType = "zset") (total : RedisWriteStats)
    (store : Store String String ℚ) :
  w.writeLoop batch total (records.map .ok) store
    = (.ok (total.add (.ofRecords (batch ++ records))),
        run ((batch ++ records).flatMap w.setCommands) store)
  := by
  induction records generalizing batch total store with
  | nil =>
      rw [List.append_nil] at h ⊢
      cases batch with
      | nil => rfl
      | cons record batch => simp [writeLoop, writeBatch_eq w h]
  | cons record records ih =>
      have hrecord := h record (by simp)
      have hsplit : batch ++ record :: records = (batch ++ [record]) ++ records := by simp
      rw [List.map_cons, writeLoop, validateRecord_zset hrecord]
      rw [hsplit] at h ⊢
      generalize batch ++ [record] = written at h ⊢
      dsimp only
      split
      · exact ih h total store
      · rw [writeBatch_eq w (fun r hr => h r (List.mem_append_left _ hr))]
        dsimp only
        rw [ih (fun r hr => h r (List.mem_append_right _ hr)), List.nil_append,
          List.flatMap_append, SortedSets.run_append, RedisWriteStats.add_assoc,
          RedisWriteStats.ofRecords_append]

/-- Sorted sets are written in order, whatever the batches are. -/
theorem writeRecords_eq {w : RedisWriter} (hdry : w.dryRun = false) {records : List RedisData}
    (h : ∀ record ∈ records, record.dataType = "zset") (store : Store String String ℚ) :
  w.writeRecords (records.map .ok) store
    = (.ok (.ofRecords records), run (records.flatMap w.setCommands) store)
  := by
  have hloop := @writeLoop_eq w records [] h ⟨0, 0⟩ store
  rw [RedisWriteStats.zero_add, List.nil_append] at hloop
  simp [writeRecords, hdry, hloop]

/-- The commands of a record are about its key. -/
theorem key_of_mem_setCommands {w : RedisWriter} {record : RedisData}
    {command : Command String String ℚ} (h : command ∈ w.setCommands record) :
  command.key = record.key
  := by
  simp only [setCommands, List.mem_append] at h
  rcases h with (h | h) | h
  · split at h <;> simp_all [Command.key]
  · split at h <;> simp_all [Command.key]
  · split at h <;> simp_all [Command.key]

/-- A key that is deleted first holds the values of its record. -/
theorem entries_run_setCommands {w : RedisWriter} (hreplace : w.replaceExisting = true)
    {record : RedisData} (h : (record.values.map Prod.fst).Nodup) (store : Store String String ℚ) :
  (run (w.setCommands record) store record.key).entries = record.values
  := by
  have hdel : run [.del record.key] store record.key = SortedSet.empty := Function.update_self ..
  have hexpire : ∀ store : Store String String ℚ, (run (if 0 < w.expireSeconds
      then [.expire record.key w.expireSeconds] else []) store record.key).entries
        = (store record.key).entries := by
    intro store
    split
    · rename_i hpos
      have hrun : run [.expire record.key w.expireSeconds] store record.key
          = if w.expireSeconds ≤ 0 then SortedSet.empty
            else (store record.key).expireAfter w.expireSeconds := Function.update_self ..
      rw [hrun, if_neg (not_le.mpr hpos)]
      rfl
    · rfl
  rw [setCommands, if_pos hreplace, SortedSets.run_append, SortedSets.run_append, hexpire]
  split
  · rename_i hempty
    rw [SortedSets.run_nil, hdel, List.isEmpty_iff.mp hempty]
    rfl
  · have hzadd : run [.zadd record.key record.values] (run [.del record.key] store) record.key
        = SortedSet.empty.setAll record.values := by
      rw [← hdel]
      exact Function.update_self ..
    rw [hzadd, SortedSet.entries_setAll_empty h]

end RedisWriter

end OfflineDataProcessing
