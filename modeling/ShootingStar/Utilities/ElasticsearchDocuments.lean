import ShootingStar.Offline.ElasticsearchWriter
import ShootingStar.Ranking.LocalFileItemIndexStore
import ShootingStar.Utilities.ElasticsearchClient

/-!
# Documents that a client gets

A cluster is asked for a document over HTTP.  It answers with an object that holds the document under
`_source`, or with status 404.  A client gets what the cluster has under the identifier, as long as the
index and the identifier hold no slash (`Serves.get_found`, `Serves.get_missing`).
-/

open Documents (Cluster)
open OfflineDataProcessing (Fields)
open RecommendationEngine (JsonLibrary)
open Utf8 (bytesOf)

namespace ElasticsearchClient

/-- The status of a document that is not there. -/
def kHttpNotFoundStatusCode : ℤ := 404

/-- A request for a document is answered with the document, or with status 404. -/
structure Serves (library : JsonLibrary) (client : ElasticsearchClient)
    (cluster : Cluster String String Fields) : Prop where
  found : ∀ request index id source,
    readOperation client.config.baseUrl request = some (.get index id)
    → Documents.get cluster index id = some source
    → (client.httpClient request).ok = true
      ∧ ∃ fields, library.jsonStringToStruct (bytesOf (client.httpClient request).response.body)
          = .ok fields
        ∧ fields.lookup "found" = some (.bool true)
        ∧ fields.lookup "_source" = some (.object source)
  missing : ∀ request index id,
    readOperation client.config.baseUrl request = some (.get index id)
    → Documents.get cluster index id = none
    → (client.httpClient request).ok = false
      ∧ (client.httpClient request).response.statusCode = kHttpNotFoundStatusCode

/-- Numbers are written without a slash. -/
theorem slash_notMem_toString (n : ℤ) :
  '/' ∉ (toString n).toList
  := by
  have hnat : ∀ m : ℕ, '/' ∉ (toString m).toList := by
    intro m hslash
    have hdigit := Text.isDigit_of_mem_toString hslash
    revert hdigit
    decide
  cases n with
  | ofNat m => exact hnat m
  | negSucc m =>
      have htext : (toString (Int.negSucc m)).toList = '-' :: (toString (m + 1)).toList := by
        have heq : toString (Int.negSucc m) = "-" ++ toString (m + 1) := rfl
        rw [heq, String.toList_append]
        rfl
      rw [htext, List.mem_cons, not_or]
      exact ⟨by decide, hnat (m + 1)⟩

section Serves

variable {library : JsonLibrary} {client : ElasticsearchClient} {cluster : Cluster String String Fields}
  {index id : String}

/-- A client that answers with a readable response for each document serves them. -/
theorem serves_of_response {body : Fields → String}
    (hanswer : ∀ request index id,
      readOperation client.config.baseUrl request = some (.get index id)
      → client.httpClient request =
        match Documents.get cluster index id with
        | some source => { response := { statusCode := 200, body := body source } }
        | none =>
          { errorCode := .httpStatusError, response := { statusCode := kHttpNotFoundStatusCode } })
    (hread : ∀ index id source, Documents.get cluster index id = some source
      → ∃ fields, library.jsonStringToStruct (bytesOf (body source)) = .ok fields
        ∧ fields.lookup "found" = some (.bool true)
        ∧ fields.lookup "_source" = some (.object source)) :
  Serves library client cluster
  := by
  constructor
  case found =>
    intro request index id source hoperation hget
    rw [hanswer request index id hoperation, hget]
    exact ⟨rfl, hread index id source hget⟩
  case missing =>
    intro request index id hoperation hget
    rw [hanswer request index id hoperation, hget]
    exact ⟨rfl, rfl⟩

/-- What a client is told about a document that the cluster has. -/
theorem Serves.get_found (hserves : Serves library client cluster) (hne : index ≠ "")
    (hindex : '/' ∉ index.toList) (hid : '/' ∉ id.toList) {source : Fields}
    (h : Documents.get cluster index id = some source) :
  (client.get index id).ok = true
  ∧ ∃ fields, library.jsonStringToStruct (bytesOf (client.get index id).body) = .ok fields
    ∧ fields.lookup "found" = some (.bool true)
    ∧ fields.lookup "_source" = some (.object source)
  := by
  apply hserves.found (client.request (.get index id)) index id source _ h
  apply readOperation_request
  exact ⟨hne, hindex, hid⟩

/-- What a client is told about a document that the cluster does not have. -/
theorem Serves.get_missing (hserves : Serves library client cluster) (hne : index ≠ "")
    (hindex : '/' ∉ index.toList) (hid : '/' ∉ id.toList)
    (h : Documents.get cluster index id = none) :
  (client.get index id).ok = false
  ∧ (client.get index id).statusCode = kHttpNotFoundStatusCode
  := by
  apply hserves.missing (client.request (.get index id)) index id _ h
  apply readOperation_request
  exact ⟨hne, hindex, hid⟩

end Serves

end ElasticsearchClient
