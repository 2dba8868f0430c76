import ShootingStar.Offline.RedisWriter
import ShootingStar.Retrieval.ItemCf

/-!
# The stores of similar items

One store loads the rows of the item builder from a file with a document on each line; the other
reads the sorted sets that the same rows become in Redis, one at a time or several in a pipeline
with the same result (`findNeighborsByItemIds_eq_ofSingle`).

A file of the builder is loaded without an error (`loadFromJsonlFile_linesOf`), and its store finds
the first neighbours that the rows list.  Once the rows are written, the key of each row holds its
neighbours (`writeRecords_documents`), and both stores find the same ones up to the order of equal
scores (`findNeighborsByItemId_eq_local`).  A key that no row writes keeps what it held
(`findNeighborsByItemId_stale`).
-/

namespace RecommendationEngine

open OfflineDataProcessing (Neighbor SimilarityRow RedisData SimilarityDataAdapter RedisWriter)
open SortedSets (Store)

/-- The largest `uint64_t`. -/
def maxUint64 : ℕ := 2 ^ 64 - 1

/-! ### Rows of a local file -/

/-- A neighbour on a line. -/
structure LocalFileSimilarityNeighbor where
  id : ℕ := 0
  score : ℚ := 0
  deriving DecidableEq, Repr

/-- The user or item of a line, with its neighbours. -/
structure LocalFileSimilarityRow where
  entityId : ℕ := 0
  neighbors : List LocalFileSimilarityNeighbor
  deriving DecidableEq, Repr

/-- A field that must be there. -/
def requiredField (fields : List (String × Json)) (fieldName context : String) :
    Except String Json :=
  match fields.lookup fieldName with
  | none => .error (context ++ " is missing field " ++ fieldName)
  | some value => .ok value

/-- A text read as a positive `uint64_t`. -/
def parsePositiveUint64 (value context : String) : Except String ℕ :=
  match Text.readDecimal maxUint64 value with
  | none => .error (context ++ " contains invalid positive uint64: " ++ value)
  | some parsed =>
    if parsed = 0 then .error (context ++ " contains invalid positive uint64: " ++ value)
    else .ok parsed

/-- A double read as a positive `uint64_t`. -/
def positiveUint64OfDouble (number : ℚ) (context : String) : Except String ℕ :=
  if number ≤ 0 ∨ nearestDouble maxUint64 < number ∨ ⌊number⌋ ≠ number then
    .error (context ++ " contains invalid positive uint64")
  else .ok ⌊number⌋.toNat

/-- A number or a text read as a positive `uint64_t`. -/
def readPositiveUint64 (value : Json) (context : String) : Except String ℕ :=
  match value with
  | .text s => parsePositiveUint64 s context
  | .int n => positiveUint64OfDouble (nearestDouble n) context
  | .float x => positiveUint64OfDouble x context
  | _ => .error (context ++ " must be a number or string")

/-- A number or a text read as a double. -/
def readDouble (readers : NumberReaders) (value : Json) (context : String) : Except String ℚ :=
  match value with
  | .int n => .ok (nearestDouble n)
  | .float x => .ok x
  | .text s =>
    match readers.stod s with
    | some (parsed, size) =>
      if size = s.utf8ByteSize then .ok parsed else .error (context ++ " contains invalid double")
    | none => .error (context ++ " contains invalid double")
  | _ => .error (context ++ " contains invalid double")

/-- The neighbour at a position of a list. -/
def parseNeighbor (readers : NumberReaders) (neighborIdField context : String)
    (entry : Json × ℕ) : Except String LocalFileSimilarityNeighbor :=
  let neighborContext := context ++ " neighbor " ++ toString entry.2
  match entry.1 with
  | .object fields => do
    let idField ← requiredField fields neighborIdField neighborContext
    let id ← readPositiveUint64 idField (neighborContext ++ "." ++ neighborIdField)
    let scoreField ← requiredField fields "score" neighborContext
    let score ← readDouble readers scoreField (neighborContext ++ ".score")
    .ok { id := id, score := score }
  | _ => .error (neighborContext ++ " must be an object")

/-- The neighbours of a row. -/
def parseNeighbors (readers : NumberReaders) (value : Json) (neighborIdField context : String) :
    Except String (List LocalFileSimilarityNeighbor) :=
  match value with
  | .array values => values.zipIdx.mapM (parseNeighbor readers neighborIdField context)
  | _ => .error (context ++ " neighbors must be an array")

/-- A line that is read as a document.  The message for a document that is no object stops before
the status of the parser. -/
def parseLocalFileSimilarityJsonlLine (readers : NumberReaders) (line : Json)
    (entityIdField neighborIdField context : String) : Except String LocalFileSimilarityRow :=
  match line with
  | .object fields => do
    let idField ← requiredField fields entityIdField context
    let id ← readPositiveUint64 idField (context ++ "." ++ entityIdField)
    let neighborsField ← requiredField fields "neighbors" context
    let neighbors ← parseNeighbors readers neighborsField neighborIdField context
    .ok { entityId := id, neighbors := neighbors }
  | _ => .error ("ParseLocalFileSimilarityJsonlLine failed at " ++ context ++ ": ")

/-- A line of a file with its number; an empty line is skipped. -/
def loadSimilarityLine {ν : Type} (entityIdField neighborIdField : String)
    (toNeighbors : List LocalFileSimilarityNeighbor → List ν) (readers : NumberReaders)
    (filePath : String) (loadedNeighbors : List (ℕ × List ν)) (line : Option Json × ℕ) :
    Except String (List (ℕ × List ν)) :=
  match line.1 with
  | none => .ok loadedNeighbors
  | some document => do
    let row ← parseLocalFileSimilarityJsonlLine readers document entityIdField neighborIdField
      (filePath ++ ":" ++ toString line.2)
    .ok (Keyed.upsert row.entityId (fun _ => toNeighbors row.neighbors) loadedNeighbors)

/-! ### The store of a local file -/

/-- The store: the neighbours of every item of the file. -/
structure LocalFileItemSimilarityStore where
  neighborsByItemId : List (ℕ × List ItemNeighbor)
  deriving DecidableEq, Repr

namespace LocalFileItemSimilarityStore

/-- The neighbours of a line as items. -/
def toItemNeighbors (parsedNeighbors : List LocalFileSimilarityNeighbor) : List ItemNeighbor :=
  parsedNeighbors.map fun n => { itemId := n.id, score := n.score }

/-- The rows with the one on a line. -/
def loadLine (readers : NumberReaders) (filePath : String) :
    List (ℕ × List ItemNeighbor) → Option Json × ℕ → Except String (List (ℕ × List ItemNeighbor)) :=
  loadSimilarityLine "item_id" "item_id" toItemNeighbors readers filePath

/-- The store of a file, whose lines are `none` where the file cannot be opened, with the message of
the exception that is thrown. -/
def loadFromJsonlFile (readers : NumberReaders) (filePath : String)
    (lines : Option (List (Option Json))) : Except String LocalFileItemSimilarityStore :=
  match lines with
  | none =>
    .error ("LocalFileItemSimilarityStore::LoadFromJsonlFile failed: cannot open file " ++ filePath)
  | some lines => do
    let loadedNeighbors ← (lines.zipIdx 1).foldlM (loadLine readers filePath) []
    .ok { neighborsByItemId := loadedNeighbors }

/-- The first neighbours of an item. -/
def findNeighborsByItemId (store : LocalFileItemSimilarityStore) (itemId : ℕ)
    (maxNeighborCount : ℤ) : List ItemNeighbor :=
  if itemId = 0 ∨ maxNeighborCount ≤ 0 then []
  else
    match store.neighborsByItemId.lookup itemId with
    | none => []
    | some neighbors => neighbors.take (min neighbors.length maxNeighborCount.toNat)

end LocalFileItemSimilarityStore

/-! ### The store in Redis -/

/-- A store over the sorted sets under a prefix. -/
structure RedisItemSimilarityStore where
  client : RedisClient
  keyPrefix : String
  keyPrefix_ne : keyPrefix ≠ ""

namespace RedisItemSimilarityStore

/-- The constructor, with the message of the exception it throws. -/
def create (client : RedisClient) (keyPrefix : String) : Except String RedisItemSimilarityStore :=
  if h : keyPrefix = "" then
    .error "RedisItemSimilarityStore key_prefix must not be empty"
  else .ok { client := client, keyPrefix := keyPrefix, keyPrefix_ne := h }

/-- A member read as an identifier. -/
def parseItemId (value : String) : Option ℕ :=
  match Text.readDecimal maxUint64 value with
  | none => none
  | some itemId => if itemId = 0 then none else some itemId

/-- The neighbour that an entry of a key stands for. -/
def toItemNeighbor (key : String) (value : RedisScoredMember) : Except String ItemNeighbor :=
  match parseItemId value.member with
  | none =>
    .error ("Redis item similarity key " ++ key ++ " contains invalid neighbor item id: "
      ++ value.member)
  | some neighborItemId => .ok { itemId := neighborItemId, score := value.score }

/-- The first neighbours of an item. -/
def findNeighborsByItemId (store : RedisItemSimilarityStore) (itemId : ℕ)
    (maxNeighborCount : ℤ) : Except String (List ItemNeighbor) :=
  if itemId = 0 ∨ maxNeighborCount ≤ 0 then .ok []
  else
    let key := RedisClient.buildRedisKey store.keyPrefix itemId
    let result := store.client.zRevRangeWithScores key 0 (maxNeighborCount - 1)
    if result.status.ok then result.values.mapM (toItemNeighbor key)
    else
      .error ("Failed to fetch item similarity from Redis key " ++ key ++ " after "
        ++ toString result.status.attempts ++ " attempt(s): " ++ result.status.errorMessage)

/-- The first neighbours of each of several items, read with one pipeline. -/
def findNeighborsByItemIds (store : RedisItemSimilarityStore) (itemIds : List ℕ)
    (maxNeighborCount : ℤ) : Except String (List (List ItemNeighbor)) :=
  let neighborsByItemId := itemIds.map fun _ => []
  if itemIds = [] ∨ maxNeighborCount ≤ 0 then .ok neighborsByItemId
  else
    let validItemIndexes := Batch.indexesFrom (· ≠ 0) itemIds 0
    let redisKeys := (itemIds.filter (· ≠ 0)).map (RedisClient.buildRedisKey store.keyPrefix)
    if redisKeys = [] then .ok neighborsByItemId
    else
      let batchResult := store.client.batchZRevRangeWithScores redisKeys 0 (maxNeighborCount - 1)
      if batchResult.status.ok = false then
        .error ("Failed to fetch item similarity from Redis in batch after "
          ++ toString batchResult.status.attempts ++ " attempt(s): "
          ++ batchResult.status.errorMessage)
      else if batchResult.values.length ≠ validItemIndexes.length then
        .error "Redis item similarity batch lookup returned mismatched result size"
      else
        Batch.scatterM (fun x => x.2.mapM (toItemNeighbor x.1)) validItemIndexes
          (redisKeys.zip batchResult.values) neighborsByItemId

end RedisItemSimilarityStore

/-! ### Rows of the builder -/

/-- Rows as the item builder emits them: of distinct items, with distinct neighbours by descending
positive scores, and with identifiers that are doubles. -/
structure EmittedRows (rows : List (SimilarityRow ℚ)) : Prop where
  nodup_ids : (rows.map SimilarityRow.id).Nodup
  id_mem : ∀ row ∈ rows, 1 ≤ row.id ∧ row.id ≤ 2 ^ 53
  nodup_neighborIds : ∀ row ∈ rows, (row.neighbors.map Neighbor.neighborId).Nodup
  neighborId_mem : ∀ row ∈ rows, ∀ n ∈ row.neighbors, 1 ≤ n.neighborId ∧ n.neighborId ≤ 2 ^ 53
  score_pos : ∀ row ∈ rows, ∀ n ∈ row.neighbors, 0 < n.score
  score_descending : ∀ row ∈ rows, row.neighbors.Pairwise (fun m n => n.score ≤ m.score)

/-- A neighbour of a row. -/
def itemNeighbor (n : Neighbor ℚ) : ItemNeighbor where
  itemId := n.neighborId.toNat
  score := n.score

/-- The neighbours that the rows list for an item. -/
def listedNeighbors (rows : List (SimilarityRow ℚ)) (itemId : ℕ) : List ItemNeighbor :=
  match rows.find? (fun row => row.id = (itemId : ℤ)) with
  | none => []
  | some row => row.neighbors.map itemNeighbor

theorem listedNeighbors_of_not_mem {rows : List (SimilarityRow ℚ)} {itemId : ℕ}
    (h : ∀ row ∈ rows, row.id ≠ itemId) :
  listedNeighbors rows itemId = []
  := by
  have hfind : rows.find? (fun row => row.id = (itemId : ℤ)) = none := by
    simpa using h
  rw [listedNeighbors, hfind]

theorem EmittedRows.listedNeighbors_of_mem {rows : List (SimilarityRow ℚ)} (h : EmittedRows rows)
    {row : SimilarityRow ℚ} (hrow : row ∈ rows) {itemId : ℕ} (hid : row.id = itemId) :
  listedNeighbors rows itemId = row.neighbors.map itemNeighbor
  := by
  cases hfind : rows.find? (fun row => row.id = (itemId : ℤ)) with
  | none => simpa [hid] using List.find?_eq_none.mp hfind row hrow
  | some row' =>
      have hid' : row'.id = itemId := by simpa using List.find?_some hfind
      have heq := List.inj_on_of_nodup_map h.nodup_ids (List.mem_of_find?_eq_some hfind) hrow
        (hid'.trans hid.symm)
      rw [listedNeighbors, hfind, heq]

theorem EmittedRows.nodup_toNat {rows : List (SimilarityRow ℚ)} (h : EmittedRows rows) :
  (rows.map fun row => row.id.toNat).Nodup
  := by
  apply List.pairwise_map.mpr
  apply (List.pairwise_map.mp h.nodup_ids).imp_of_mem
  intro row row' hrow hrow' hne heq
  apply hne
  have hid := h.id_mem row hrow
  have hid' := h.id_mem row' hrow'
  omega

/-- The members of the set of a row are distinct. -/
theorem EmittedRows.nodup_values {rows : List (SimilarityRow ℚ)} (h : EmittedRows rows)
    {row : SimilarityRow ℚ} (hrow : row ∈ rows) :
  (row.values.map Prod.fst).Nodup
  := by
  apply SimilarityRow.nodup_values (h.nodup_neighborIds row hrow)
  intro n hn
  have hid := (h.neighborId_mem row hrow n hn).1
  omega

/-- The rows have distinct keys. -/
theorem EmittedRows.nodup_keys {rows : List (SimilarityRow ℚ)} (h : EmittedRows rows)
    (keyPrefix : String) :
  ((rows.map (SimilarityRow.record keyPrefix)).map RedisData.key).Nodup
  := by
  rw [List.map_map]
  have hnat := h.nodup_toNat.map (RedisClient.buildRedisKey_injective keyPrefix)
  rw [List.map_map] at hnat
  exact hnat

section Parser

variable (readers : NumberReaders)

/-- Positive identifiers that are doubles are read exactly. -/
theorem readPositiveUint64_int {n : ℤ} (h : 1 ≤ n ∧ n ≤ 2 ^ 53) (context : String) :
  readPositiveUint64 (.int n) context = .ok n.toNat
  := by
  have hmax : nearestDouble maxUint64 = 2 ^ 64 := by decide +kernel
  have hn : nearestDouble n = n := by
    apply nearestDouble_eq_self
    omega
  have hpos : ¬ (n : ℚ) ≤ 0 := by
    rw [not_le]
    exact_mod_cast h.1
  have hle : ¬ (2 : ℚ) ^ 64 < n := by
    rw [not_lt]
    have hle : n ≤ 2 ^ 64 := by omega
    exact_mod_cast hle
  rw [readPositiveUint64, positiveUint64OfDouble, hn, hmax, if_neg]
  · rw [Int.floor_intCast]
  · simp [hpos, hle]

theorem parseNeighbor_document {n : Neighbor ℚ} (h : 1 ≤ n.neighborId ∧ n.neighborId ≤ 2 ^ 53)
    (context : String) (i : ℕ) :
  parseNeighbor readers "item_id" context (n.document, i)
    = .ok { id := n.neighborId.toNat, score := n.score }
  := by
  simp [parseNeighbor, Neighbor.document, requiredField, List.lookup_cons, readPositiveUint64_int h,
    readDouble, bind, Except.bind]

theorem parseNeighbors_document {neighbors : List (Neighbor ℚ)}
    (h : ∀ n ∈ neighbors, 1 ≤ n.neighborId ∧ n.neighborId ≤ 2 ^ 53) (context : String) :
  parseNeighbors readers (.array (neighbors.map Neighbor.document)) "item_id" context
    = .ok (neighbors.map fun n => { id := n.neighborId.toNat, score := n.score })
  := by
  have hmap : (neighbors.map Neighbor.document).zipIdx
      = neighbors.zipIdx.map fun x => (x.1.document, x.2) := by
    rw [List.zipIdx_map]
    rfl
  have hfst : neighbors = neighbors.zipIdx.map Prod.fst := by simp
  rw [parseNeighbors, hmap, List.mapM_map]
  nth_rewrite 2 [hfst]
  rw [List.map_map]
  apply Batch.mapM_eq_ok
  rintro ⟨n, i⟩ hn
  exact parseNeighbor_document readers (h n (List.fst_mem_of_mem_zipIdx hn)) context i

/-- The row of a line that the builder writes. -/
theorem parseLocalFileSimilarityJsonlLine_document {rows : List (SimilarityRow ℚ)}
    (h : EmittedRows rows) {row : SimilarityRow ℚ} (hrow : row ∈ rows) (context : String) :
  parseLocalFileSimilarityJsonlLine readers (.object row.document) "item_id" "item_id" context
    = .ok {
        entityId := row.id.toNat
        neighbors := row.neighbors.map fun n => { id := n.neighborId.toNat, score := n.score } }
  := by
  simp [parseLocalFileSimilarityJsonlLine, SimilarityRow.document, requiredField, List.lookup_cons,
    readPositiveUint64_int (h.id_mem row hrow),
    parseNeighbors_document readers (h.neighborId_mem row hrow), bind, Except.bind]

end Parser

namespace LocalFileItemSimilarityStore

/-- The store of the neighbours of rows. -/
def ofRows (rows : List (SimilarityRow ℚ)) : LocalFileItemSimilarityStore where
  neighborsByItemId := rows.map fun row => (row.id.toNat, row.neighbors.map itemNeighbor)

/-- The lines of a file of the builder. -/
def linesOf (rows : List (SimilarityRow ℚ)) : List (Option Json) :=
  rows.map fun row => some (.object row.document)

theorem loadLine_document (readers : NumberReaders) (filePath : String)
    {rows : List (SimilarityRow ℚ)} (h : EmittedRows rows) {row : SimilarityRow ℚ}
    (hrow : row ∈ rows) (loaded : List (ℕ × List ItemNeighbor)) (i : ℕ) :
  loadLine readers filePath loaded (some (.object row.document), i)
    = .ok (Keyed.upsert row.id.toNat (fun _ => row.neighbors.map itemNeighbor) loaded)
  := by
  simp only [loadLine, loadSimilarityLine, parseLocalFileSimilarityJsonlLine_document readers h hrow,
    toItemNeighbors, List.map_map, bind, Except.bind]
  rfl

/-- The store of a file of the builder holds the neighbours of every row. -/
theorem loadFromJsonlFile_linesOf (readers : NumberReaders) (filePath : String)
    {rows : List (SimilarityRow ℚ)} (h : EmittedRows rows) :
  loadFromJsonlFile readers filePath (some (linesOf rows))
    = .ok (ofRows rows)
  := by
  have hmap : (linesOf rows).zipIdx 1
      = (rows.zipIdx 1).map fun x => (some (.object x.1.document), x.2) := by
    rw [linesOf, List.zipIdx_map]
    rfl
  have hloop : ((linesOf rows).zipIdx 1).foldlM (loadLine readers filePath) []
      = .ok (Keyed.collect (fun x : SimilarityRow ℚ × ℕ => x.1.id.toNat)
        (fun x _ => x.1.neighbors.map itemNeighbor) (rows.zipIdx 1)) := by
    rw [hmap, List.foldlM_map]
    apply Batch.foldlM_eq_ok
    rintro loaded ⟨row, i⟩ hrow
    exact loadLine_document readers filePath h (List.fst_mem_of_mem_zipIdx hrow) loaded i
  have hfst : (rows.zipIdx 1).map Prod.fst = rows := by simp
  have hkeys : ((rows.zipIdx 1).map fun x => x.1.id.toNat).Nodup := by
    have hnodup := h.nodup_toNat
    rw [← hfst, List.map_map] at hnodup
    exact hnodup
  rw [Keyed.collect_of_nodup hkeys] at hloop
  simp only [loadFromJsonlFile, hloop, bind, Except.bind]
  nth_rewrite 2 [← hfst]
  rw [ofRows, List.map_map]
  rfl

/-- The store of a file of the builder finds the first neighbours listed. -/
theorem findNeighborsByItemId_of_rows {rows : List (SimilarityRow ℚ)} (h : EmittedRows rows)
    (itemId : ℕ) {n : ℤ} (hn : 0 < n) :
  (ofRows rows).findNeighborsByItemId itemId n = (listedNeighbors rows itemId).take n.toNat
  := by
  have hkeys : ((ofRows rows).neighborsByItemId.map Prod.fst).Nodup := by
    rw [ofRows, List.map_map]
    exact h.nodup_toNat
  by_cases hmem : ∃ row ∈ rows, row.id = itemId
  · obtain ⟨row, hrow, hid⟩ := hmem
    have hpos := (h.id_mem row hrow).1
    have hentry : (itemId, row.neighbors.map itemNeighbor) ∈ (ofRows rows).neighborsByItemId := by
      apply List.mem_map.mpr
      use row, hrow
      rw [hid, Int.toNat_natCast]
    have hnot : ¬ (itemId = 0 ∨ n ≤ 0) := by omega
    rw [findNeighborsByItemId, if_neg hnot, Keyed.lookup_eq_of_mem hkeys hentry,
      h.listedNeighbors_of_mem hrow hid]
    apply List.take_eq_take_iff.mpr
    omega
  · have hmem : ∀ row ∈ rows, row.id ≠ itemId := by
      simpa using hmem
    rw [listedNeighbors_of_not_mem hmem, List.take_nil, findNeighborsByItemId]
    split
    · rfl
    · rename_i hnot
      rw [Keyed.lookup_eq_none.mpr]
      intro hkey
      obtain ⟨entry, hentry, rfl⟩ := List.mem_map.mp hkey
      obtain ⟨row, hrow, rfl⟩ := List.mem_map.mp hentry
      apply hmem row hrow
      have hpos := (h.id_mem row hrow).1
      exact (Int.toNat_of_nonneg (by omega)).symm

end LocalFileItemSimilarityStore

namespace RedisItemSimilarityStore

/-- The neighbour that a member and its score stand for. -/
def decoded (entry : String × ℚ) : ItemNeighbor where
  itemId := (parseItemId entry.1).getD 0
  score := entry.2

theorem parseItemId_toString {n : ℤ} (h : 1 ≤ n ∧ n ≤ 2 ^ 53) :
  parseItemId (toString n) = some n.toNat
  := by
  have hmax : n.toNat ≤ maxUint64 := by
    rw [maxUint64]
    omega
  have hne : n.toNat ≠ 0 := by omega
  rw [parseItemId, OfflineDataProcessing.toString_toNat (by omega), Text.readDecimal_toString hmax]
  exact if_neg hne

/-- The members of a row stand for its neighbours. -/
theorem map_decoded_values {rows : List (SimilarityRow ℚ)} (h : EmittedRows rows)
    {row : SimilarityRow ℚ} (hrow : row ∈ rows) :
  row.values.map decoded = row.neighbors.map itemNeighbor
  := by
  rw [SimilarityRow.values, List.map_map]
  apply List.map_congr_left
  intro n hn
  rw [Function.comp_apply, decoded, parseItemId_toString (h.neighborId_mem row hrow n hn)]
  rfl

/-- What is found in a store whose members are identifiers. -/
theorem findNeighborsByItemId_serving {store : RedisItemSimilarityStore}
    {db : Store String String ℚ} (hclient : store.client = RedisClient.serving db) {itemId : ℕ}
    (hid : itemId ≠ 0) {n : ℤ} (hn : 0 < n)
    (h : ∀ entry ∈ (db (RedisClient.buildRedisKey store.keyPrefix itemId)).entries,
      (parseItemId entry.1).isSome) :
  store.findNeighborsByItemId itemId n
    = .ok (((db (RedisClient.buildRedisKey store.keyPrefix itemId)).descending.take n.toNat).map
        decoded)
  := by
  have hnot : ¬ (itemId = 0 ∨ n ≤ 0) := by omega
  rw [findNeighborsByItemId, if_neg hnot, hclient]
  simp only [RedisClient.serving, okStatus, if_true, RedisClient.rangeOf,
    SortedSet.zrevrange_zero _ hn, List.mapM_map]
  apply Batch.mapM_eq_ok
  intro entry hentry
  obtain ⟨neighborItemId, hparse⟩ := Option.isSome_iff_exists.mp
    (h entry (Ranked.mem_sortBy.mp (List.mem_of_mem_take hentry)))
  simp [toItemNeighbor, decoded, hparse]

/-- A key without members gives no neighbours. -/
theorem findNeighborsByItemId_of_empty {store : RedisItemSimilarityStore}
    {db : Store String String ℚ} (hclient : store.client = RedisClient.serving db) {itemId : ℕ}
    {n : ℤ} (hn : 0 < n)
    (h : (db (RedisClient.buildRedisKey store.keyPrefix itemId)).entries = []) :
  store.findNeighborsByItemId itemId n = .ok []
  := by
  by_cases hid : itemId = 0
  · exact if_pos (Or.inl hid)
  · rw [findNeighborsByItemId_serving hclient hid hn]
    · simp [SortedSet.descending, h]
    · simp [h]

/-- A key that holds the neighbours of a row gives them by descending score. -/
theorem findNeighborsByItemId_of_values {store : RedisItemSimilarityStore}
    {db : Store String String ℚ} (hclient : store.client = RedisClient.serving db)
    {rows : List (SimilarityRow ℚ)} (hrows : EmittedRows rows) {row : SimilarityRow ℚ}
    (hrow : row ∈ rows) {itemId : ℕ} (hid : row.id = itemId) {n : ℤ} (hn : 0 < n)
    (h : (db (RedisClient.buildRedisKey store.keyPrefix itemId)).entries = row.values) :
  store.findNeighborsByItemId itemId n
    = .ok (((db (RedisClient.buildRedisKey store.keyPrefix itemId)).descending.take n.toNat).map
        decoded)
  := by
  have hpos := (hrows.id_mem row hrow).1
  apply findNeighborsByItemId_serving hclient (by omega) hn
  intro entry hentry
  rw [h] at hentry
  obtain ⟨m, hm, rfl⟩ := List.mem_map.mp hentry
  rw [parseItemId_toString (hrows.neighborId_mem row hrow m hm)]
  rfl

/-- The records of the rows. -/
theorem toRedisData_documents (readers : NumberReaders) {rows : List (SimilarityRow ℚ)}
    (h : EmittedRows rows) {keyPrefix : String}
    (hspace : ∀ c ∈ keyPrefix.toList.head?, OfflineDataProcessing.isSpace c = false)
    {adapter : SimilarityDataAdapter}
    (hadapter : SimilarityDataAdapter.create { keyPrefix := some keyPrefix } = .ok adapter) :
  (rows.map fun row => adapter.toRedisData readers row.document)
    = (rows.map (SimilarityRow.record keyPrefix)).map .ok
  := by
  rw [List.map_map]
  apply List.map_congr_left
  intro row hrow
  have hid := (h.id_mem row hrow).1
  exact SimilarityDataAdapter.toRedisData_document readers hspace hadapter (by omega)
    (h.nodup_values hrow)

/-- After the rows are written, the key of each row holds its neighbours, and the keys of other
items hold what they held. -/
theorem writeRecords_documents (readers : NumberReaders) {rows : List (SimilarityRow ℚ)}
    (h : EmittedRows rows) {keyPrefix : String}
    (hspace : ∀ c ∈ keyPrefix.toList.head?, OfflineDataProcessing.isSpace c = false)
    {adapter : SimilarityDataAdapter}
    (hadapter : SimilarityDataAdapter.create { keyPrefix := some keyPrefix } = .ok adapter)
    {writer : RedisWriter} (hreplace : writer.replaceExisting = true)
    (hdry : writer.dryRun = false) (db : Store String String ℚ) :
  ∃ stats db',
    writer.writeRecords (rows.map fun row => adapter.toRedisData readers row.document) db
        = (.ok stats, db')
      ∧ (∀ row ∈ rows,
          (db' (RedisClient.buildRedisKey keyPrefix row.id.toNat)).entries = row.values)
      ∧ ∀ itemId : ℕ, (∀ row ∈ rows, row.id ≠ itemId) →
          db' (RedisClient.buildRedisKey keyPrefix itemId)
            = db (RedisClient.buildRedisKey keyPrefix itemId)
  := by
  have hzset : ∀ record ∈ rows.map (SimilarityRow.record keyPrefix), record.dataType = "zset" := by
    intro record hrecord
    obtain ⟨row, -, rfl⟩ := List.mem_map.mp hrecord
    rfl
  rw [toRedisData_documents readers h hspace hadapter, RedisWriter.writeRecords_eq hdry hzset]
  refine ⟨_, _, rfl, ?_, ?_⟩
  · intro row hrow
    obtain ⟨db'', hdb⟩ := SortedSets.run_flatMap_of_mem
      (fun record _ hcommand => RedisWriter.key_of_mem_setCommands hcommand)
      (h.nodup_keys keyPrefix) (List.mem_map_of_mem hrow) db
    exact (congrArg SortedSet.entries hdb).trans
      (RedisWriter.entries_run_setCommands hreplace (h.nodup_values hrow) db'')
  · intro itemId hother
    apply SortedSets.run_of_key_ne
    intro command hcommand hkey
    obtain ⟨record, hrecord, hcommand⟩ := List.mem_flatMap.mp hcommand
    obtain ⟨row, hrow, rfl⟩ := List.mem_map.mp hrecord
    rw [RedisWriter.key_of_mem_setCommands hcommand] at hkey
    have hid := (h.id_mem row hrow).1
    have heq := RedisClient.buildRedisKey_injective keyPrefix hkey
    apply hother row hrow
    omega

/-- A set that holds the neighbours of a row is read by descending score. -/
theorem take_decoded {rows : List (SimilarityRow ℚ)} (h : EmittedRows rows)
    {row : SimilarityRow ℚ} (hrow : row ∈ rows) {s : SortedSet String ℚ}
    (hs : s.entries = row.values) (n : ℕ) :
  ((s.descending.take n).map decoded).map ItemNeighbor.score
      = ((row.neighbors.map itemNeighbor).take n).map ItemNeighbor.score
    ∧ ((row.neighbors.map Neighbor.score).Nodup →
        (s.descending.take n).map decoded = (row.neighbors.map itemNeighbor).take n)
  := by
  have hdescending : s.entries.Pairwise (fun a b => b.2 ≤ a.2) := by
    rw [hs]
    exact List.pairwise_map.mpr (h.score_descending row hrow)
  have hvalues := map_decoded_values h hrow
  constructor
  · calc ((s.descending.take n).map decoded).map ItemNeighbor.score
        = (s.descending.map Prod.snd).take n := by
            rw [List.map_map, ← List.map_take]
            rfl
      _ = (row.values.map Prod.snd).take n := by
            rw [SortedSet.map_snd_descending hdescending, hs]
      _ = ((row.neighbors.map itemNeighbor).take n).map ItemNeighbor.score := by
            rw [← hvalues, List.map_take, List.map_map]
            rfl
  · intro hne
    have hscores : (s.entries.map Prod.snd).Nodup := by
      rw [hs, SimilarityRow.values, List.map_map]
      exact hne
    rw [SortedSet.descending_eq_entries hdescending hscores, hs, List.map_take, hvalues]

/-- After the rows are written, both stores find as many neighbours of an item, of the same scores,
and the same neighbours when the scores of its row are distinct: for every item that has a row, and
for every other item whose key held nothing. -/
theorem findNeighborsByItemId_eq_local (readers : NumberReaders) {rows : List (SimilarityRow ℚ)}
    (h : EmittedRows rows) {keyPrefix : String}
    (hspace : ∀ c ∈ keyPrefix.toList.head?, OfflineDataProcessing.isSpace c = false)
    {adapter : SimilarityDataAdapter}
    (hadapter : SimilarityDataAdapter.create { keyPrefix := some keyPrefix } = .ok adapter)
    {writer : RedisWriter} (hreplace : writer.replaceExisting = true)
    (hdry : writer.dryRun = false) (filePath : String) (db : Store String String ℚ) :
  ∃ stats db' localStore redisStore,
    writer.writeRecords (rows.map fun row => adapter.toRedisData readers row.document) db
        = (.ok stats, db')
      ∧ LocalFileItemSimilarityStore.loadFromJsonlFile readers filePath
          (some (LocalFileItemSimilarityStore.linesOf rows)) = .ok localStore
      ∧ create (RedisClient.serving db') keyPrefix = .ok redisStore
      ∧ ∀ itemId : ℕ, ((∃ row ∈ rows, row.id = itemId)
            ∨ (db (RedisClient.buildRedisKey keyPrefix itemId)).entries = []) →
          ∀ n : ℤ, 0 < n → ∃ found, redisStore.findNeighborsByItemId itemId n = .ok found
            ∧ found.length = (localStore.findNeighborsByItemId itemId n).length
            ∧ found.map ItemNeighbor.score
                = (localStore.findNeighborsByItemId itemId n).map ItemNeighbor.score
            ∧ ((∀ row ∈ rows, row.id = itemId → (row.neighbors.map Neighbor.score).Nodup) →
                found = localStore.findNeighborsByItemId itemId n)
  := by
  obtain ⟨stats, db', hwrite, hwritten, hother⟩ :=
    writeRecords_documents readers h hspace hadapter hreplace hdry db
  have hne : keyPrefix ≠ "" := by
    rintro rfl
    exact adapter.keyPrefix_ne (SimilarityDataAdapter.of_create_eq_ok hadapter).1
  refine ⟨stats, db', LocalFileItemSimilarityStore.ofRows rows,
    { client := RedisClient.serving db', keyPrefix := keyPrefix, keyPrefix_ne := hne }, hwrite,
    LocalFileItemSimilarityStore.loadFromJsonlFile_linesOf readers filePath h, dif_neg hne, ?_⟩
  intro itemId hitem n hn
  rw [LocalFileItemSimilarityStore.findNeighborsByItemId_of_rows h itemId hn]
  by_cases hmem : ∃ row ∈ rows, row.id = itemId
  · obtain ⟨row, hrow, hid⟩ := hmem
    have hentries := hwritten row hrow
    rw [hid, Int.toNat_natCast] at hentries
    obtain ⟨hscores, heq⟩ := take_decoded h hrow hentries n.toNat
    rw [h.listedNeighbors_of_mem hrow hid]
    use ((db' (RedisClient.buildRedisKey keyPrefix itemId)).descending.take n.toNat).map decoded
    refine ⟨findNeighborsByItemId_of_values rfl h hrow hid hn hentries, ?_, hscores,
      fun hnodup => heq (hnodup row hrow hid)⟩
    simpa using congrArg List.length hscores
  · have hmem : ∀ row ∈ rows, row.id ≠ itemId := by
      simpa using hmem
    have hempty : (db' (RedisClient.buildRedisKey keyPrefix itemId)).entries = [] := by
      rw [hother itemId hmem]
      apply hitem.resolve_left
      rintro ⟨row, hrow, hid⟩
      exact hmem row hrow hid
    rw [listedNeighbors_of_not_mem hmem, List.take_nil]
    exact ⟨[], findNeighborsByItemId_of_empty rfl hn hempty, rfl, rfl, fun _ => rfl⟩

/-! ### Lookups in batches -/

/-- A lookup when requests succeed. -/
theorem findNeighborsByItemId_of_answersAlike {store : RedisItemSimilarityStore}
    (hclient : store.client.AnswersAlike) {n : ℤ} (hn : 0 < n) (itemId : ℕ) :
  store.findNeighborsByItemId itemId n
    = if decide (itemId ≠ 0) = true then
        (store.client.zRevRangeWithScores (RedisClient.buildRedisKey store.keyPrefix itemId) 0
          (n - 1)).values.mapM (toItemNeighbor (RedisClient.buildRedisKey store.keyPrefix itemId))
      else .ok []
  := by
  rw [findNeighborsByItemId]
  by_cases hid : itemId = 0
  · simp [hid]
  · have hnot : ¬ (itemId = 0 ∨ n ≤ 0) := by omega
    rw [if_neg hnot, if_pos (decide_eq_true hid)]
    exact if_pos (hclient.ok_single _ _ _)

/-- A batch that passes the early exits decodes the replies in turn. -/
theorem findNeighborsByItemIds_of_answersAlike {store : RedisItemSimilarityStore}
    (hclient : store.client.AnswersAlike) {n : ℤ} (hn : 0 < n) (itemIds : List ℕ) :
  store.findNeighborsByItemIds itemIds n
    = itemIds.mapM fun itemId => store.findNeighborsByItemId itemId n
  := by
  have hscatter := Batch.scatterM_filter
    (fun x : String × List RedisScoredMember => x.2.mapM (toItemNeighbor x.1))
    (fun itemId => decide (itemId ≠ 0))
    (fun itemId => (RedisClient.buildRedisKey store.keyPrefix itemId,
      (store.client.zRevRangeWithScores (RedisClient.buildRedisKey store.keyPrefix itemId) 0
        (n - 1)).values))
    [] itemIds
  simp only [← findNeighborsByItemId_of_answersAlike hclient hn] at hscatter
  rw [← hscatter, findNeighborsByItemIds]
  by_cases hempty : (itemIds.filter (· ≠ 0)) = []
  · have hindexes : Batch.indexesFrom (fun itemId => decide (itemId ≠ 0)) itemIds 0 = [] := by
      rw [← List.length_eq_zero_iff, Batch.length_indexesFrom, hempty, List.length_nil]
    rw [hindexes, hempty]
    split <;> rfl
  · have hids : ¬ (itemIds = [] ∨ n ≤ 0) := by
      rintro (rfl | hle)
      · exact hempty rfl
      · omega
    have hkeys : ¬ (itemIds.filter (· ≠ 0)).map (RedisClient.buildRedisKey store.keyPrefix)
        = [] := by
      rwa [List.map_eq_nil_iff]
    have hzip : ∀ keys : List String,
        keys.zip (keys.map fun key => (store.client.zRevRangeWithScores key 0 (n - 1)).values)
          = keys.map fun key =>
              (key, (store.client.zRevRangeWithScores key 0 (n - 1)).values) := by
      intro keys
      nth_rewrite 1 [← List.map_id keys]
      exact List.zip_map'
    rw [if_neg hids, if_neg hkeys, if_neg (by simp [hclient.ok_batch]), if_neg]
    · rw [hclient.values_batch, hzip, List.map_map]
      rfl
    · rw [hclient.values_batch, List.length_map, List.length_map, Batch.length_indexesFrom]
      exact not_not.mpr rfl

/-- When requests succeed and a pipeline is answered as its requests alone, a batch finds what a
loop over the items finds, and throws just when one of the lookups throws. -/
theorem findNeighborsByItemIds_eq_ofSingle (store : RedisItemSimilarityStore)
    (hclient : store.client.AnswersAlike) (itemIds : List ℕ) (maxNeighborCount : ℤ) :
  store.findNeighborsByItemIds itemIds maxNeighborCount
      = (ItemSimilarityStore.ofSingle store.findNeighborsByItemId).findNeighborsByItemIds itemIds
          maxNeighborCount
    ∧ ((∃ message, store.findNeighborsByItemIds itemIds maxNeighborCount = .error message)
        ↔ ∃ itemId ∈ itemIds, ∃ message,
            store.findNeighborsByItemId itemId maxNeighborCount = .error message)
  := by
  have heq : store.findNeighborsByItemIds itemIds maxNeighborCount
      = itemIds.mapM fun itemId => store.findNeighborsByItemId itemId maxNeighborCount := by
    by_cases hn : 0 < maxNeighborCount
    · exact findNeighborsByItemIds_of_answersAlike hclient hn itemIds
    · have hle : maxNeighborCount ≤ 0 := not_lt.mp hn
      rw [findNeighborsByItemIds, if_pos (Or.inr hle)]
      symm
      apply Batch.mapM_eq_ok
      intro itemId _
      exact if_pos (Or.inr hle)
  refine ⟨heq, ?_⟩
  rw [heq]
  exact Batch.exists_mapM_eq_error

/-- A store with a key whose member is no identifier. -/
def sampleStore : RedisItemSimilarityStore where
  client := RedisClient.serving
    (Function.update
      (Function.update (fun _ => SortedSet.empty) "p:5" ⟨[("7", 1)], by decide, none, fun _ => rfl⟩)
      "p:6" ⟨[("x", 1)], by decide, none, fun _ => rfl⟩)
  keyPrefix := "p:"
  keyPrefix_ne := by decide

/-- Repeated and zero identifiers are looked up, and the member that is no identifier throws. -/
theorem findNeighborsByItemIds_sampleStore :
  sampleStore.findNeighborsByItemIds [5, 0, 5, 8] 2 = .ok [[⟨7, 1⟩], [], [⟨7, 1⟩], []]
    ∧ ∃ message, sampleStore.findNeighborsByItemIds [5, 0, 6] 2 = .error message
  := by
  constructor
  · rw [(findNeighborsByItemIds_eq_ofSingle sampleStore (RedisClient.answersAlike_serving _)
      [5, 0, 5, 8] 2).1]
    decide +kernel
  · rw [(findNeighborsByItemIds_eq_ofSingle sampleStore (RedisClient.answersAlike_serving _)
      [5, 0, 6] 2).2]
    refine ⟨6, by decide, "Redis item similarity key p:6 contains invalid neighbor item id: x", ?_⟩
    decide +kernel

/-- Readers for documents in which no number is a text. -/
def noTexts : NumberReaders where
  int _ := .error "invalid literal for int()"
  float _ := .error "could not convert string to float"
  stod _ := none

/-- A row with two neighbours. -/
def sampleRow : SimilarityRow ℚ where
  id := 1
  neighbors := [⟨2, 1 / 2, 4⟩, ⟨10, 1 / 4, 3⟩]

theorem emittedRows_sampleRow :
  EmittedRows [sampleRow]
  := by
  constructor <;> simp [sampleRow]
  norm_num

/-- The neighbours of the row are written and read back. -/
theorem findNeighborsByItemId_eq_local_sampleRow :
  ∃ db' localStore redisStore,
    LocalFileItemSimilarityStore.loadFromJsonlFile noTexts "item_similarity.jsonl"
        (some (LocalFileItemSimilarityStore.linesOf [sampleRow])) = .ok localStore
      ∧ create (RedisClient.serving db') "p:" = .ok redisStore
      ∧ redisStore.findNeighborsByItemId 1 2 = .ok (localStore.findNeighborsByItemId 1 2)
  := by
  obtain ⟨_, db', localStore, redisStore, -, hlocal, hredis, hfind⟩ :=
    @findNeighborsByItemId_eq_local noTexts [sampleRow] emittedRows_sampleRow "p:"
      (by simp [OfflineDataProcessing.isSpace])
      ⟨"item-similarity", "p", "item_id", "item_id", by decide, by decide, by decide⟩
      (by decide +kernel) ⟨{}, by decide, by decide⟩ rfl rfl "item_similarity.jsonl"
      (fun _ => SortedSet.empty)
  obtain ⟨found, hfound, -, -, heq⟩ := hfind 1 (Or.inl ⟨_, List.mem_singleton_self _, rfl⟩) 2
    (by norm_num)
  refine ⟨db', localStore, redisStore, hlocal, hredis, ?_⟩
  rw [hfound, heq]
  simp [sampleRow]

/-- A neighbour of an item without a row, whose key held it before the row was written, is still
found in Redis, and not in the local store. -/
theorem findNeighborsByItemId_stale :
  EmittedRows [sampleRow]
    ∧ (do
        let adapter ← SimilarityDataAdapter.create { keyPrefix := some "p" }
        let writer ← RedisWriter.normalizeConfig {}
        let store ← create (RedisClient.serving (writer.writeRecords
          [adapter.toRedisData noTexts sampleRow.document]
          (Function.update (fun _ => SortedSet.empty) "p:5"
            ⟨[("7", 1)], by decide, none, fun _ => rfl⟩)).2) "p"
        store.findNeighborsByItemId 5 1) = .ok [⟨7, 1⟩]
    ∧ (do
        let store ← LocalFileItemSimilarityStore.loadFromJsonlFile noTexts "item_similarity.jsonl"
          (some (LocalFileItemSimilarityStore.linesOf [sampleRow]))
        .ok (store.findNeighborsByItemId 5 1)) = .ok []
  := by
  constructor
  · exact emittedRows_sampleRow
  · decide +kernel

end RedisItemSimilarityStore

end RecommendationEngine
