import ShootingStar.Lib.Documents
import ShootingStar.Offline.RedisWriter

/-!
# Writing documents to Elasticsearch

The writer turns each document into an action under the identifier it holds and lets a helper of the
client library send the actions in chunks.  It counts the results and throws at the first that is a
failure.  The index must be there, or is created with a mapping when the writer was told to.  Any
other call of the client may raise too, before the documents are sent or after.

Documents of the builders hold identifiers of their own.  However many writes of them have failed
before, and whatever these have left, a write that succeeds leaves each document under its identifier
and every other document as it was (`writeItems_afterAttempts`).
-/

namespace OfflineDataProcessing

open Documents (Cluster Answer SameBeyond)

/-- The fields of a document. -/
abbrev Fields := List (String × Json)

/-- An action of the bulk interface, without an identifier where the cluster is to make one. -/
structure BulkAction where
  index : String
  source : Fields
  id : Option Json := none

/-- A run of the bulk helper: the text that an identifier becomes, the identifiers that the cluster
makes, how the actions are cut into chunks, and how each chunk is answered. -/
structure BulkHelper where
  idText : Json → String
  newId : ℕ → String
  chunks : ℤ → List (Documents.Action String String Fields) →
    List (List (Documents.Action String String Fields))
  answer : ℕ → List (Documents.Action String String Fields) →
    Answer String String Fields String

/-- Integers become their decimals, and nothing is lost when actions are cut into chunks and
answered. -/
structure BulkHelper.Lawful (helper : BulkHelper) : Prop where
  idText_int : ∀ n : ℤ, helper.idText (.int n) = toString n
  flatten_chunks : ∀ chunkSize actions, (helper.chunks chunkSize actions).flatten = actions
  answer_to : ∀ n chunk, (helper.answer n chunk).To chunk

namespace BulkHelper

/-- The action that is sent, at a position. -/
def expandAction (helper : BulkHelper) (action : BulkAction) (n : ℕ) :
    Documents.Action String String Fields where
  index := action.index
  id := action.id.elim (helper.newId n) helper.idText
  source := action.source

/-- The answers to the chunks of some actions. -/
def answers (helper : BulkHelper) (chunkSize : ℤ) (actions : List BulkAction) :
    List (Answer String String Fields String) :=
  (helper.chunks chunkSize (actions.mapIdx fun n action => helper.expandAction action n)).mapIdx
    helper.answer

/-- `streaming_bulk`: the result of each action, with the cluster when it is read. -/
def streamingBulk (helper : BulkHelper) (chunkSize : ℤ) (actions : List BulkAction)
    (cluster : Cluster String String Fields) :
    List (Option String × Cluster String String Fields) :=
  Documents.stream (helper.answers chunkSize actions) cluster

end BulkHelper

/-- The calls of the client beside the bulk helper.  What the usage statistics raise is caught. -/
inductive ClientCall where
  | info | clusterHealth | indexExists
  | createIndex (mapping : Fields)
  | countBefore | refresh | countAfter

/-- A client in one write: a run of its bulk helper, and what its other calls raise. -/
structure Client extends BulkHelper where
  raises : ClientCall → Option String

/-- A call with what follows it, which leaves the cluster as it is when it raises. -/
def Client.call {α : Type} (client : Client) (clientCall : ClientCall)
    (cluster : Cluster String String Fields)
    (next : Except String α × Cluster String String Fields) :
    Except String α × Cluster String String Fields :=
  match client.raises clientCall with
  | some e => (.error e, cluster)
  | none => next

/-- The parts of the configuration that decide what is written. -/
structure ElasticsearchWriter where
  indexName : String := "movielens_32m_item_index"
  idField : String := "item_id"
  bulkSize : ℤ := 500
  refresh : Bool := false
  ensureIndex : Bool := false
  mapping : Option Json := none
  mappingPath : Option String := some "item_index_mapping.json"

namespace ElasticsearchWriter

/-- `load_mapping`, where `files` holds the JSON files that can be read. -/
def loadMapping (w : ElasticsearchWriter) (files : String → Except String Json) :
    Except String (Option Json) :=
  match w.mapping with
  | some mapping => .ok (some mapping)
  | none =>
    match w.mappingPath with
    | none => .ok none
    | some mappingPath => (files mappingPath).map some

/-- The arguments that `mapping or {}` passes on. -/
def mappingArguments : Option Json → Except String Fields
  | none | some .null | some (.bool false) | some (.text "") | some (.array []) => .ok []
  | some (.int n) => if n = 0 then .ok [] else .error "argument after ** must be a mapping"
  | some (.float x) => if x = 0 then .ok [] else .error "argument after ** must be a mapping"
  | some (.object fields) => .ok fields
  | _ => .error "argument after ** must be a mapping"

/-- `ensure_index`, with the cluster it leaves: whether the index was created. -/
def ensureIndexExists (w : ElasticsearchWriter) (files : String → Except String Json)
    (client : Client) (cluster : Cluster String String Fields) :
    Except String Bool × Cluster String String Fields :=
  client.call .indexExists cluster <|
    if (cluster w.indexName).isSome then (.ok false, cluster)
    else if w.ensureIndex = false then
      (.error ("Target index '" ++ w.indexName ++ "' does not exist. "
        ++ "Refusing to rely on dynamic mapping; re-run with --ensure-index "
        ++ "or create the index explicitly first."), cluster)
    else
      match w.loadMapping files >>= mappingArguments with
      | .error e => (.error e, cluster)
      | .ok mapping =>
        client.call (.createIndex mapping) cluster
          (.ok true, Function.update cluster w.indexName (some []))

/-- `preflight_for_items`, with the cluster it leaves. -/
def preflightForItems (w : ElasticsearchWriter) (files : String → Except String Json)
    (client : Client) (itemCount : ℕ) (cluster : Cluster String String Fields) :
    Except String ℕ × Cluster String String Fields :=
  client.call .info cluster <| client.call .clusterHealth cluster <|
    match w.ensureIndexExists files client cluster with
    | (.error e, cluster) => (.error e, cluster)
    | (.ok _, cluster) => client.call .countBefore cluster (.ok itemCount, cluster)

/-- The action of a document. -/
def bulkAction (w : ElasticsearchWriter) (document : Fields) : BulkAction where
  index := w.indexName
  source := document
  id := (document.lookup w.idField).bind fun
    | .null => none
    | id => some id

/-- The actions of the documents, in their order. -/
def iterBulkActions (w : ElasticsearchWriter) (documents : List Fields) : List BulkAction :=
  documents.map w.bulkAction

/-- What is left to do when all documents are indexed. -/
def finish (w : ElasticsearchWriter) (client : Client) (indexedCount : ℕ)
    (cluster : Cluster String String Fields) : Except String ℕ × Cluster String String Fields :=
  let counted := client.call .countAfter cluster (.ok indexedCount, cluster)
  if w.refresh then client.call .refresh cluster counted else counted

/-- `_bulk_write`, with the cluster it leaves: how many documents were indexed. -/
def bulkWrite (w : ElasticsearchWriter) (client : Client) (documents : List Fields)
    (cluster : Cluster String String Fields) : Except String ℕ × Cluster String String Fields :=
  match Documents.readResults 0
    (client.streamingBulk w.bulkSize (w.iterBulkActions documents) cluster) cluster with
  | (.error result, left) => (.error ("Bulk indexing failed: " ++ result), left)
  | (.ok indexedCount, left) => w.finish client indexedCount left

/-- `write_items`, with the cluster it leaves. -/
def writeItems (w : ElasticsearchWriter) (files : String → Except String Json) (client : Client)
    (documents : List Fields) (cluster : Cluster String String Fields) :
    Except String ℕ × Cluster String String Fields :=
  match w.preflightForItems files client documents.length cluster with
  | (.error e, cluster) => (.error e, cluster)
  | (.ok _, cluster) => w.bulkWrite client documents cluster

/-! ### Documents with identifiers -/

/-- The identifier that a document holds. -/
def documentId (w : ElasticsearchWriter) (document : Fields) : Option ℤ :=
  (document.lookup w.idField).bind fun
    | .int n => some n
    | _ => none

/-- Documents that hold identifiers of their own. -/
structure Identified (w : ElasticsearchWriter) (documents : List Fields) : Prop where
  isSome : ∀ document ∈ documents, (w.documentId document).isSome
  nodup : (documents.map w.documentId).Nodup

variable {w : ElasticsearchWriter} {documents : List Fields}

theorem lookup_of_documentId {document : Fields} {id : ℤ} (h : w.documentId document = some id) :
  document.lookup w.idField = some (.int id)
  := by
  rw [documentId, Option.bind_eq_some_iff] at h
  obtain ⟨value, hvalue, hid⟩ := h
  cases value <;> cases hid
  exact hvalue

/-- What is sent for a document with an identifier. -/
def sentAction (w : ElasticsearchWriter) (document : Fields) :
    Documents.Action String String Fields where
  index := w.indexName
  id := toString ((w.documentId document).getD 0)
  source := document

theorem expandAction_bulkAction {helper : BulkHelper} (hhelper : helper.Lawful)
    {document : Fields} (h : (w.documentId document).isSome) (n : ℕ) :
  helper.expandAction (w.bulkAction document) n = w.sentAction document
  := by
  obtain ⟨id, hid⟩ := Option.isSome_iff_exists.mp h
  rw [BulkHelper.expandAction, bulkAction, sentAction, lookup_of_documentId hid, hid]
  congr 1
  apply hhelper.idText_int

/-- The actions of documents with identifiers do not depend on their positions. -/
theorem mapIdx_expandAction {helper : BulkHelper} (hhelper : helper.Lawful)
    (h : w.Identified documents) :
  (w.iterBulkActions documents).mapIdx (fun n action => helper.expandAction action n)
    = documents.map w.sentAction
  := by
  apply List.ext_getElem
  · simp [iterBulkActions]
  · intro n hn _
    have hlt : n < documents.length := by simpa [iterBulkActions] using hn
    simp only [iterBulkActions, List.getElem_mapIdx, List.getElem_map]
    apply expandAction_bulkAction hhelper (h.isSome _ (List.getElem_mem hlt))

/-- The actions are about different identifiers. -/
theorem Identified.nodup_key (h : w.Identified documents) :
  ((documents.map w.sentAction).map Documents.Action.key).Nodup
  := by
  rw [List.map_map]
  apply List.pairwise_map.mpr
  apply (List.pairwise_map.mp h.nodup).imp_of_mem
  intro document document' hdocument hdocument' hne heq
  apply hne
  obtain ⟨id, hid⟩ := Option.isSome_iff_exists.mp (h.isSome document hdocument)
  obtain ⟨id', hid'⟩ := Option.isSome_iff_exists.mp (h.isSome document' hdocument')
  have htext : toString id = toString id' := by
    simpa [Documents.Action.key, sentAction, hid, hid'] using heq
  rw [hid, hid', Int.repr_injective htext]

/-! ### Writes -/

/-- The index is there, or is to be created with a mapping that can be read. -/
def HasIndex (w : ElasticsearchWriter) (files : String → Except String Json)
    (cluster : Cluster String String Fields) : Prop :=
  (cluster w.indexName).isSome
    ∨ w.ensureIndex = true ∧ ∃ mapping, w.loadMapping files >>= mappingArguments = .ok mapping

/-- No action of a write is refused. -/
def Accepts (w : ElasticsearchWriter) (helper : BulkHelper) (documents : List Fields) : Prop :=
  ∀ answer ∈ helper.answers w.bulkSize (w.iterBulkActions documents),
    ∀ result ∈ answer.results, result = none

/-- The documents are found under their identifiers, and all else is as it was. -/
structure Holds (w : ElasticsearchWriter) (documents : List Fields)
    (left cluster : Cluster String String Fields) : Prop where
  get_document : ∀ document ∈ documents, ∀ id ∈ w.documentId document,
    Documents.get left w.indexName (toString id) = some document
  sameBeyond : SameBeyond (documents.map w.sentAction) left cluster

/-- An index that holds nothing but the documents has the one of each identifier. -/
theorem Holds.get_eq_find? {left cluster : Cluster String String Fields}
    (hholds : w.Holds documents left cluster) (h : w.Identified documents)
    (hempty : ∀ id, Documents.get cluster w.indexName id = none) (id : ℤ) :
  Documents.get left w.indexName (toString id)
    = documents.find? (fun document => decide (w.documentId document = some id))
  := by
  cases hfind : documents.find? (fun document => decide (w.documentId document = some id)) with
  | some document =>
      have hid : w.documentId document = some id := by simpa using List.find?_some hfind
      exact hholds.get_document document (List.mem_of_find?_eq_some hfind) id hid
  | none =>
      rw [hholds.sameBeyond w.indexName (toString id), hempty]
      intro hmem
      rw [List.map_map] at hmem
      obtain ⟨document, hdocument, hkey⟩ := List.mem_map.mp hmem
      obtain ⟨n, hn⟩ := Option.isSome_iff_exists.mp (h.isSome document hdocument)
      have htext : toString n = toString id := by
        simpa [sentAction, Documents.Action.key, hn] using hkey
      have hnone := List.find?_eq_none.mp hfind document hdocument
      rw [hn, Int.repr_injective htext] at hnone
      exact hnone (decide_eq_true rfl)

/-- A document that is found is one of the documents, or was there before. -/
theorem Holds.mem_or_get {left cluster : Cluster String String Fields}
    (hholds : w.Holds documents left cluster) (h : w.Identified documents) {index id : String}
    {source : Fields} (hget : Documents.get left index id = some source) :
  source ∈ documents ∨ Documents.get cluster index id = some source
  := by
  by_cases hkey : (index, id) ∈ (documents.map w.sentAction).map Documents.Action.key
  case neg =>
    right
    rw [← hholds.sameBeyond index id hkey]
    exact hget
  case pos =>
    left
    rw [List.map_map] at hkey
    obtain ⟨document, hdocument, hkey⟩ := List.mem_map.mp hkey
    obtain ⟨rfl, rfl⟩ := Prod.mk.inj hkey
    obtain ⟨n, hn⟩ := Option.isSome_iff_exists.mp (h.isSome document hdocument)
    have hown := hholds.get_document document hdocument n hn
    rw [sentAction, hn] at hget
    rw [Option.some.inj (hget.symm.trans hown)]
    exact hdocument

/-- Each chunk of the actions is answered. -/
theorem forall₂_answers {helper : BulkHelper} (hhelper : helper.Lawful)
    (h : w.Identified documents) :
  List.Forall₂ Answer.To (helper.answers w.bulkSize (w.iterBulkActions documents))
    (helper.chunks w.bulkSize (documents.map w.sentAction))
  := by
  rw [BulkHelper.answers, mapIdx_expandAction hhelper h, List.forall₂_iff_get]
  constructor
  · rw [List.length_mapIdx]
  · intro n hn hn'
    simp only [List.get_eq_getElem, List.getElem_mapIdx]
    apply hhelper.answer_to

/-- The documents are all put, maybe some of them again, or a refusal is read when some of them have
been put. -/
theorem readResults_outcome {helper : BulkHelper} (hhelper : helper.Lawful)
    (h : w.Identified documents) (cluster : Cluster String String Fields) :
  (w.Accepts helper documents ∧ ∃ stored, stored ⊆ documents.map w.sentAction
      ∧ documents.map w.sentAction ⊆ stored
      ∧ Documents.readResults 0
          (helper.streamingBulk w.bulkSize (w.iterBulkActions documents) cluster) cluster
        = (.ok documents.length, Documents.putAll cluster stored))
    ∨ (¬ w.Accepts helper documents ∧ ∃ e stored, stored ⊆ documents.map w.sentAction
      ∧ Documents.readResults 0
          (helper.streamingBulk w.bulkSize (w.iterBulkActions documents) cluster) cluster
        = (.error e, Documents.putAll cluster stored))
  := by
  have hflatten := hhelper.flatten_chunks w.bulkSize (documents.map w.sentAction)
  rcases Documents.readResults_stream (forall₂_answers hhelper h) 0 cluster
    with ⟨haccepts, stored, hsubset, hsuperset, hread⟩
      | ⟨e, sent, stored, ⟨answer, hanswer, he⟩, hsent, hsubset, hread⟩
  · left
    rw [hflatten] at hsubset hsuperset hread
    use haccepts, stored, hsubset, hsuperset
    rw [BulkHelper.streamingBulk, hread, List.length_map, Nat.zero_add]
  · right
    constructor
    · intro haccepts
      cases haccepts answer hanswer _ he
    · use e, stored
      constructor
      · intro action haction
        rw [← hflatten]
        apply List.Sublist.subset (List.IsPrefix.sublist (List.IsPrefix.flatten hsent))
        apply hsubset haction
      · rw [BulkHelper.streamingBulk, hread]

/-- A call that raises leaves the cluster; else what comes next is done. -/
theorem call_cases {α : Type} (client : Client) (clientCall : ClientCall)
    (cluster : Cluster String String Fields)
    (next : Except String α × Cluster String String Fields) :
  (∃ e, client.raises clientCall = some e ∧ client.call clientCall cluster next = (.error e, cluster))
    ∨ client.raises clientCall = none ∧ client.call clientCall cluster next = next
  := by
  rw [Client.call]
  cases client.raises clientCall with
  | some e => exact .inl ⟨e, rfl, rfl⟩
  | none => exact .inr ⟨rfl, rfl⟩

/-- What is left to do leaves the cluster as it is, and counts the documents unless a call raises. -/
theorem finish_cases (w : ElasticsearchWriter) (client : Client) (n : ℕ)
    (cluster : Cluster String String Fields) :
  w.finish client n cluster = (.ok n, cluster)
    ∨ ∃ clientCall e, client.raises clientCall = some e
      ∧ w.finish client n cluster = (.error e, cluster)
  := by
  have hcounted := call_cases client .countAfter cluster (.ok n, cluster)
  rw [finish]
  cases w.refresh with
  | false =>
      rcases hcounted with ⟨e, he, hcall⟩ | ⟨-, hcall⟩
      · exact .inr ⟨_, e, he, hcall⟩
      · exact .inl hcall
  | true =>
      rcases call_cases client .refresh cluster (client.call .countAfter cluster (.ok n, cluster))
        with ⟨e, he, hcall⟩ | ⟨-, hcall⟩
      · exact .inr ⟨_, e, he, hcall⟩
      · rcases hcounted with ⟨e, he, hcall'⟩ | ⟨-, hcall'⟩
        · exact .inr ⟨_, e, he, hcall.trans hcall'⟩
        · exact .inl (hcall.trans hcall')

/-- What a write of documents comes to: all are put and counted, or some are put and it fails.  When
no call raises, it fails only where an action is refused. -/
theorem bulkWrite_outcome {client : Client} (hclient : client.Lawful)
    (h : w.Identified documents) (cluster : Cluster String String Fields) :
  (w.Accepts client.toBulkHelper documents ∧ ∃ stored, stored ⊆ documents.map w.sentAction
      ∧ documents.map w.sentAction ⊆ stored
      ∧ w.bulkWrite client documents cluster
        = (.ok documents.length, Documents.putAll cluster stored))
    ∨ (((∀ clientCall, client.raises clientCall = none) → ¬ w.Accepts client.toBulkHelper documents)
      ∧ ∃ e stored, stored ⊆ documents.map w.sentAction
      ∧ w.bulkWrite client documents cluster = (.error e, Documents.putAll cluster stored))
  := by
  rcases readResults_outcome hclient h cluster
    with ⟨haccepts, stored, hsubset, hsuperset, hread⟩ | ⟨hrefuses, e, stored, hsubset, hread⟩
  · have hwrite : w.bulkWrite client documents cluster
        = w.finish client documents.length (Documents.putAll cluster stored) := by
      rw [bulkWrite, hread]
    rcases finish_cases w client documents.length (Documents.putAll cluster stored)
      with hfinish | ⟨clientCall, e, he, hfinish⟩
    · exact .inl ⟨haccepts, stored, hsubset, hsuperset, hwrite.trans hfinish⟩
    · refine .inr ⟨fun hcalls => ?_, e, stored, hsubset, hwrite.trans hfinish⟩
      rw [hcalls clientCall] at he
      cases he
  · refine .inr ⟨fun _ => hrefuses, "Bulk indexing failed: " ++ e, stored, hsubset, ?_⟩
    rw [bulkWrite, hread]

/-- An index stays, whatever is put. -/
theorem isSome_putAll {cluster : Cluster String String Fields} {index : String}
    (h : (cluster index).isSome) (actions : List (Documents.Action String String Fields)) :
  (Documents.putAll cluster actions index).isSome
  := by
  induction actions generalizing cluster with
  | nil => exact h
  | cons action actions ih =>
      apply ih
      by_cases hindex : index = action.index
      · subst hindex
        rw [Documents.put, Function.update_self]
        rfl
      · rwa [Documents.put, Function.update_of_ne hindex]

theorem isSome_created (cluster : Cluster String String Fields) (index : String) :
  (Function.update cluster index (some []) index).isSome
  := by
  rw [Function.update_self]
  rfl

/-- An index that is created holds no documents. -/
theorem get_of_created {cluster : Cluster String String Fields} {index : String}
    (h : ¬ (cluster index).isSome) (other text : String) :
  Documents.get (Function.update cluster index (some [])) other text
    = Documents.get cluster other text
  := by
  by_cases hindex : other = index
  · subst hindex
    rw [Option.not_isSome_iff_eq_none] at h
    rw [Documents.get, Documents.get, Function.update_self, h]
    rfl
  · rw [Documents.get, Function.update_of_ne hindex, Documents.get]

/-- What is there when the index has been ensured: the same documents, and the index where it has
succeeded. -/
structure Ensured (w : ElasticsearchWriter) (files : String → Except String Json)
    (cluster : Cluster String String Fields) {α : Type}
    (ensured : Except String α × Cluster String String Fields) : Prop where
  get_eq : ∀ index text, Documents.get ensured.2 index text = Documents.get cluster index text
  hasIndex_iff : w.HasIndex files ensured.2 ↔ w.HasIndex files cluster
  isSome_of_ok : ∀ a, ensured.1 = .ok a → (ensured.2 w.indexName).isSome

theorem Ensured.error {files : String → Except String Json}
    (cluster : Cluster String String Fields) {α : Type} (e : String) :
  w.Ensured files cluster ((.error e, cluster) : Except String α × Cluster String String Fields)
  := by
  constructor
  case get_eq => exact fun _ _ => rfl
  case hasIndex_iff => exact Iff.rfl
  case isSome_of_ok =>
    intro a ha
    cases ha

theorem Ensured.call {files : String → Except String Json} {client : Client}
    {cluster : Cluster String String Fields} {α : Type}
    {next : Except String α × Cluster String String Fields} (h : w.Ensured files cluster next)
    (clientCall : ClientCall) :
  w.Ensured files cluster (client.call clientCall cluster next)
  := by
  rcases call_cases client clientCall cluster next with ⟨e, -, hcall⟩ | ⟨-, hcall⟩
  · rw [hcall]
    exact Ensured.error cluster e
  · rwa [hcall]

/-- What follows leaves the cluster, and only succeeds where the index has been ensured. -/
theorem Ensured.next {files : String → Except String Json}
    {cluster : Cluster String String Fields} {α β : Type}
    {ensured : Except String α × Cluster String String Fields}
    {next : Except String β × Cluster String String Fields} (h : w.Ensured files cluster ensured)
    (hleaves : next.2 = ensured.2) (hok : ∀ b, next.1 = .ok b → ∃ a, ensured.1 = .ok a) :
  w.Ensured files cluster next
  := by
  constructor
  case get_eq =>
    rw [hleaves]
    exact h.get_eq
  case hasIndex_iff =>
    rw [hleaves]
    exact h.hasIndex_iff
  case isSome_of_ok =>
    intro b hb
    obtain ⟨a, ha⟩ := hok b hb
    rw [hleaves]
    exact h.isSome_of_ok a ha

theorem ensured_ensureIndexExists (files : String → Except String Json) (client : Client)
    (cluster : Cluster String String Fields) :
  w.Ensured files cluster (w.ensureIndexExists files client cluster)
  := by
  apply Ensured.call
  split
  next hthere => exact ⟨fun _ _ => rfl, Iff.rfl, fun _ _ => hthere⟩
  next hmissing =>
    split
    · exact Ensured.error cluster _
    next hcreate =>
      split
      · exact Ensured.error cluster _
      next mapping hmapping =>
        apply Ensured.call
        have hindex : w.HasIndex files cluster := .inr ⟨by simpa using hcreate, mapping, hmapping⟩
        constructor
        case get_eq => exact get_of_created hmissing
        case hasIndex_iff => exact iff_of_true (.inl (isSome_created cluster w.indexName)) hindex
        case isSome_of_ok => exact fun _ _ => isSome_created cluster w.indexName

theorem ensured_preflightForItems (files : String → Except String Json) (client : Client) (n : ℕ)
    (cluster : Cluster String String Fields) :
  w.Ensured files cluster (w.preflightForItems files client n cluster)
  := by
  have hensured := @ensured_ensureIndexExists w files client cluster
  apply Ensured.call
  apply Ensured.call
  generalize w.ensureIndexExists files client cluster = ensured at hensured
  obtain ⟨created, left⟩ := ensured
  cases created with
  | error e =>
      apply hensured.next
      · rfl
      · intro b hb
        cases hb
  | ok created =>
      have hleaves : (client.call .countBefore left (.ok n, left)).2 = left := by
        rcases call_cases client .countBefore left (.ok n, left) with ⟨e, -, hcall⟩ | ⟨-, hcall⟩
        · rw [hcall]
        · rw [hcall]
      exact hensured.next hleaves fun _ _ => ⟨created, rfl⟩

/-- When no call raises, the index can be ensured just when it is there or can be created. -/
theorem preflightForItems_ok_iff {files : String → Except String Json} {client : Client}
    (hcalls : ∀ clientCall, client.raises clientCall = none) (n : ℕ)
    (cluster : Cluster String String Fields) :
  (∃ a, (w.preflightForItems files client n cluster).1 = .ok a) ↔ w.HasIndex files cluster
  := by
  have hcall : ∀ {α : Type} (clientCall : ClientCall) (cluster : Cluster String String Fields)
      (next : Except String α × Cluster String String Fields),
      client.call clientCall cluster next = next := by
    intro α clientCall cluster next
    rw [Client.call, hcalls]
  rw [preflightForItems, hcall, hcall, ensureIndexExists, hcall, HasIndex]
  by_cases hthere : (cluster w.indexName).isSome
  · simp [hthere, hcall]
  · cases hcreate : w.ensureIndex with
    | false => simp [hthere]
    | true =>
        cases hmapping : w.loadMapping files >>= mappingArguments with
        | error e => simp [hthere]
        | ok mapping => simp [hthere, hcall]

/-- A write leaves the index there, and the documents of other identifiers as they were. -/
theorem writeItems_leaves (files : String → Except String Json) {client : Client}
    (hclient : client.Lawful) (h : w.Identified documents)
    {left cluster : Cluster String String Fields}
    (hleft : SameBeyond (documents.map w.sentAction) left cluster) :
  SameBeyond (documents.map w.sentAction) (w.writeItems files client documents left).2 cluster
    ∧ (w.HasIndex files (w.writeItems files client documents left).2 ↔ w.HasIndex files left)
  := by
  have hensured := @ensured_preflightForItems w files client documents.length left
  rw [writeItems]
  generalize w.preflightForItems files client documents.length left = ensured at hensured
  obtain ⟨counted, there⟩ := ensured
  have hthere : SameBeyond (documents.map w.sentAction) there cluster := by
    intro index text hmem
    rw [← hleft index text hmem]
    exact hensured.get_eq index text
  cases counted with
  | error e => exact ⟨hthere, hensured.hasIndex_iff⟩
  | ok n =>
      have hput : ∃ stored, stored ⊆ documents.map w.sentAction
          ∧ (w.bulkWrite client documents there).2 = Documents.putAll there stored := by
        rcases bulkWrite_outcome hclient h there
          with ⟨-, stored, hsubset, -, hbulk⟩ | ⟨-, e, stored, hsubset, hbulk⟩
        · exact ⟨stored, hsubset, congrArg Prod.snd hbulk⟩
        · exact ⟨stored, hsubset, congrArg Prod.snd hbulk⟩
      obtain ⟨stored, hsubset, hleaves⟩ := hput
      dsimp only
      rw [hleaves]
      use hthere.putAll hsubset
      apply iff_of_true (.inl (isSome_putAll (hensured.isSome_of_ok n rfl) stored))
      exact hensured.hasIndex_iff.mp (.inl (hensured.isSome_of_ok n rfl))

/-- A write succeeds when no call raises, the index is there or is created, and nothing is refused. -/
theorem writeItems_ok_iff {files : String → Except String Json} {client : Client}
    (hclient : client.Lawful) (hcalls : ∀ clientCall, client.raises clientCall = none)
    (h : w.Identified documents) (cluster : Cluster String String Fields) :
  (w.writeItems files client documents cluster).1 = .ok documents.length
    ↔ w.HasIndex files cluster ∧ w.Accepts client.toBulkHelper documents
  := by
  have hindex := @preflightForItems_ok_iff w files client hcalls documents.length cluster
  rw [writeItems, ← hindex]
  generalize w.preflightForItems files client documents.length cluster = ensured
  obtain ⟨counted, there⟩ := ensured
  cases counted with
  | error e => simp
  | ok n =>
      rcases bulkWrite_outcome hclient h there
        with ⟨haccepts, stored, -, -, hbulk⟩ | ⟨hrefuses, e, stored, -, hbulk⟩
      · simp [hbulk, haccepts]
      · simp [hbulk, hrefuses hcalls]

/-- A write that succeeds has counted and put each document. -/
theorem holds_of_writeItems {files : String → Except String Json} {client : Client}
    (hclient : client.Lawful) (h : w.Identified documents)
    {left cluster : Cluster String String Fields}
    (hleft : SameBeyond (documents.map w.sentAction) left cluster) {n : ℕ}
    (hok : (w.writeItems files client documents left).1 = .ok n) :
  n = documents.length ∧ w.Holds documents (w.writeItems files client documents left).2 cluster
  := by
  have hsame := (writeItems_leaves files hclient h hleft).1
  rw [writeItems] at hok hsame ⊢
  generalize w.preflightForItems files client documents.length left = ensured at hok hsame
  obtain ⟨counted, there⟩ := ensured
  cases counted with
  | error e => cases hok
  | ok counted =>
      rcases bulkWrite_outcome hclient h there
        with ⟨-, stored, hsubset, hsuperset, hbulk⟩ | ⟨-, e, stored, -, hbulk⟩
      · dsimp only at hok hsame ⊢
        rw [hbulk] at hok hsame ⊢
        refine ⟨(Except.ok.inj hok).symm, ?_, hsame⟩
        intro document hdocument id hid
        have hsent : w.sentAction document ∈ documents.map w.sentAction :=
          List.mem_map_of_mem hdocument
        have hget := Documents.get_putAll_of_mem (hsuperset hsent)
          (fun other hother => List.inj_on_of_nodup_map h.nodup_key (hsubset hother) hsent) there
        rw [sentAction, hid] at hget
        exact hget
      · dsimp only at hok
        rw [hbulk] at hok
        cases hok

/-- What some writes leave, each with a client of its own. -/
def afterAttempts (w : ElasticsearchWriter) (files : String → Except String Json)
    (attempts : List Client) (documents : List Fields) (cluster : Cluster String String Fields) :
    Cluster String String Fields :=
  attempts.foldl (fun left client => (w.writeItems files client documents left).2) cluster

theorem afterAttempts_leaves (files : String → Except String Json) {attempts : List Client}
    (hattempts : ∀ client ∈ attempts, client.Lawful) (h : w.Identified documents)
    {left cluster : Cluster String String Fields}
    (hleft : SameBeyond (documents.map w.sentAction) left cluster) :
  SameBeyond (documents.map w.sentAction) (w.afterAttempts files attempts documents left) cluster
    ∧ (w.HasIndex files (w.afterAttempts files attempts documents left) ↔ w.HasIndex files left)
  := by
  induction attempts generalizing left with
  | nil => exact ⟨hleft, Iff.rfl⟩
  | cons client attempts ih =>
      obtain ⟨hsame, hindex⟩ :=
        writeItems_leaves files (hattempts client List.mem_cons_self) h hleft
      obtain ⟨hrest, hrestIndex⟩ :=
        ih (fun client hclient => hattempts client (List.mem_cons_of_mem _ hclient)) hsame
      exact ⟨hrest, hrestIndex.trans hindex⟩

/-- After any writes of some documents, a write of them counts all of them and leaves each under its
identifier, or fails; either way all else is as it was before the first write.  When none of its
other calls raises, it succeeds just when the index was there at first or is to be created with a
mapping that can be read, and nothing is refused. -/
theorem writeItems_afterAttempts (files : String → Except String Json) {client : Client}
    (hclient : client.Lawful) {attempts : List Client}
    (hattempts : ∀ client ∈ attempts, client.Lawful) (h : w.Identified documents)
    (cluster : Cluster String String Fields) :
  let written :=
    w.writeItems files client documents (w.afterAttempts files attempts documents cluster)
  (written.1 = .ok documents.length ∧ w.Holds documents written.2 cluster
      ∨ (∃ e, written.1 = .error e) ∧ SameBeyond (documents.map w.sentAction) written.2 cluster)
    ∧ ((∀ clientCall, client.raises clientCall = none) →
      (written.1 = .ok documents.length
        ↔ w.HasIndex files cluster ∧ w.Accepts client.toBulkHelper documents))
  := by
  intro written
  obtain ⟨hsame, hindex⟩ := afterAttempts_leaves files hattempts h
    (fun index text _ => rfl : SameBeyond (documents.map w.sentAction) cluster cluster)
  constructor
  · cases hwritten : written.1 with
    | ok n =>
        obtain ⟨rfl, hholds⟩ := holds_of_writeItems hclient h hsame hwritten
        exact .inl ⟨rfl, hholds⟩
    | error e => exact .inr ⟨⟨e, rfl⟩, (writeItems_leaves files hclient h hsame).1⟩
  · intro hcalls
    rw [← hindex]
    exact writeItems_ok_iff hclient hcalls h _

/-- A client that sends actions one by one, some of which are refused, and whose other calls may
raise. -/
def oneByOne (refused : ℕ → Bool) (raises : ClientCall → Option String) : Client where
  idText
    | .int n => toString n
    | _ => ""
  newId n := "new-" ++ toString n
  chunks _ actions := actions.map fun action => [action]
  answer n chunk :=
    if refused n then { results := chunk.map fun _ => some "rejected", stored := [] }
    else { results := chunk.map fun _ => none, stored := chunk }
  raises := raises

theorem lawful_oneByOne (refused : ℕ → Bool) (raises : ClientCall → Option String) :
  (oneByOne refused raises).Lawful
  := by
  constructor
  case idText_int =>
    intro n
    rfl
  case flatten_chunks =>
    intro chunkSize actions
    induction actions with
    | nil => rfl
    | cons action actions ih => apply congrArg (action :: ·) ih
  case answer_to =>
    intro n chunk
    simp only [oneByOne]
    split
    · refine ⟨List.length_map _, List.nil_subset _, ?_⟩
      intro hnone
      cases chunk with
      | nil => exact List.Subset.refl _
      | cons action chunk => cases hnone _ List.mem_cons_self
    · exact ⟨List.length_map _, List.Subset.refl _, fun _ => List.Subset.refl _⟩

/-- A file of an empty mapping. -/
def emptyMapping : String → Except String Json := fun _ => .ok (.object [])

/-- A first write stops at the second document and another one cannot refresh the index; the next one
puts both. -/
theorem writeItems_afterAttempts_oneByOne :
  let w : ElasticsearchWriter := { ensureIndex := true, refresh := true }
  let documents : List Fields := [[("item_id", .int 1)], [("item_id", .int 2)]]
  let raising : ClientCall → Option String
    | .refresh => some "timeout"
    | _ => none
  let left := w.afterAttempts emptyMapping
    [oneByOne (· = 1) fun _ => none, oneByOne (fun _ => false) raising] documents fun _ => none
  let written :=
    w.writeItems emptyMapping (oneByOne (fun _ => false) fun _ => none) documents left
  written.1 = .ok 2
    ∧ Documents.get written.2 w.indexName "2" = some [("item_id", .int 2)]
  := by
  intro w documents raising left written
  have hidentified : w.Identified documents := by
    constructor
    · decide
    · decide
  have haccepts : w.Accepts (oneByOne (fun _ => false) fun _ => none).toBulkHelper documents := by
    simp [Accepts, BulkHelper.answers, oneByOne, documents, iterBulkActions]
  have hindex : w.HasIndex emptyMapping fun _ => none := .inr ⟨rfl, [], rfl⟩
  have hattempts : ∀ client ∈ [oneByOne (· = 1) fun _ => none, oneByOne (fun _ => false) raising],
      client.Lawful :=
    List.forall_mem_cons.mpr ⟨lawful_oneByOne _ _,
      List.forall_mem_singleton.mpr (lawful_oneByOne _ _)⟩
  obtain ⟨hwritten, hsucceeds⟩ := writeItems_afterAttempts emptyMapping
    (lawful_oneByOne (fun _ => false) fun _ => none) hattempts hidentified fun _ => none
  have hok := (hsucceeds fun _ => rfl).mpr ⟨hindex, haccepts⟩
  rcases hwritten with ⟨hcount, hholds⟩ | ⟨⟨e, he⟩, -⟩
  · exact ⟨hcount, hholds.get_document _ (by simp [documents]) 2 rfl⟩
  · rw [he] at hok
    cases hok

end ElasticsearchWriter

end OfflineDataProcessing
