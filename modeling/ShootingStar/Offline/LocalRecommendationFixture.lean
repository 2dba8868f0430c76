import ShootingStar.Messages
import ShootingStar.Offline.RedisWriter

/-!
# Extracting a local recommendation fixture

The tool that cuts a small fixture out of the offline files recalls items for its users in the way
the retrievers do: it ranks the seeds of a profile, adds up the weighted scores of their similar
items, and adds up the weighted scores of the items of similar users.

A similarity row that it has normalised lists distinct neighbours of positive identifiers and
scores (`normalized_of_normalizeSimilarityRow`).
-/

namespace OfflineDataProcessing

namespace LocalRecommendationFixture

open RecommendationEngine (Profile)

/-! ### Similarity rows -/

/-- What the recall reads of the document of a neighbour. -/
structure SimilarityNeighbor where
  neighborId : ℤ
  score : ℚ
  deriving DecidableEq, Repr

/-- A user or an item with its neighbours. -/
structure SimilarityRow where
  entityId : ℤ
  neighbors : List SimilarityNeighbor
  deriving DecidableEq, Repr

/-- `document[fieldName]`. -/
def item (document : Json) (fieldName : String) : Except String Json :=
  match document with
  | .object fields =>
    match fields.lookup fieldName with
    | some value => .ok value
    | none => .error fieldName
  | _ => .error "indices must be integers or slices"

/-- `document.get(fieldName, default)`. -/
def get (document : Json) (fieldName : String) (default : Json) : Except String Json :=
  match document with
  | .object fields => .ok ((fields.lookup fieldName).getD default)
  | _ => .error "object has no attribute 'get'"

/-- The values a loop goes over. -/
def iterate : Json → Except String (List Json)
  | .array values => .ok values
  | .object fields => .ok (fields.map fun field => .text field.1)
  | .text s => .ok (s.toList.map fun c => .text c.toString)
  | _ => .error "object is not iterable"

/-- One turn of the loop over the neighbours; `acc` holds the identifiers seen and the neighbours
so far. -/
def normalizeNeighbor (readers : NumberReaders) (neighborField : String) (entityId : ℤ)
    (acc : List ℤ × List SimilarityNeighbor) (neighbor : Json) :
    Except String (List ℤ × List SimilarityNeighbor) := do
  let idField ← item neighbor neighborField
  let neighborId ← idField.toInt readers
  let scoreField ← get neighbor "score" (.float 0)
  let score ← scoreField.toFloat readers
  if neighborId ≤ 0 ∨ neighborId = entityId ∨ score ≤ 0 then .ok acc
  else if neighborId ∈ acc.1 then .ok acc
  else .ok (neighborId :: acc.1, acc.2 ++ [{ neighborId := neighborId, score := score }])

/-- A similarity document with its neighbours normalised, or the exception that is thrown. -/
def normalizeSimilarityRow (readers : NumberReaders) (document : Json)
    (entityField neighborField : String) : Except String SimilarityRow := do
  let idField ← item document entityField
  let entityId ← idField.toInt readers
  let neighborsField ← get document "neighbors" (.array [])
  let neighbors ← iterate neighborsField
  let acc ← neighbors.foldlM (normalizeNeighbor readers neighborField entityId) ([], [])
  .ok { entityId := entityId, neighbors := acc.2 }

/-- The rows by identifier; the last of an identifier counts. -/
def rowsByEntityId (rows : List SimilarityRow) : List (ℤ × SimilarityRow) :=
  Keyed.collect SimilarityRow.entityId (fun row _ => row) rows

/-! ### Weighted items -/

/-- A weight that is not positive counts as 1. -/
def weightedItemScore (item : RecommendationEngine.WeightedItem) : ℚ :=
  if 0 < item.weight then item.weight else 1

/-- The entry of an item at its position from 0, if the item has a positive identifier. -/
def scoredItem (baseScore : ℚ) (indexed : RecommendationEngine.WeightedItem × ℕ) : Option (ℤ × ℚ) :=
  if indexed.1.itemId ≤ 0 then none
  else
    some (indexed.1.itemId, baseScore * weightedItemScore indexed.1 / ((indexed.2 + 1 : ℕ) : ℚ))

/-- The items of one channel in order; an item seen before is skipped.  `acc` holds the items seen
and the entries so far. -/
def appendScoredItems (items : List RecommendationEngine.WeightedItem) (baseScore : ℚ)
    (acc : List ℤ × List (ℤ × ℚ)) : List ℤ × List (ℤ × ℚ) :=
  items.zipIdx.foldl (Keyed.addUnseen Prod.fst (scoredItem baseScore)) acc

/-- The seeds with those of some items. -/
def appendTriggerSeeds (items : List RecommendationEngine.WeightedItem) (baseScore : ℚ)
    (acc : List ℤ × List (ℤ × ℚ)) : List ℤ × List (ℤ × ℚ) :=
  appendScoredItems items baseScore acc

/-- The candidate items of a neighbour with some more of them. -/
def appendNeighborCandidateItems (items : List RecommendationEngine.WeightedItem) (baseScore : ℚ)
    (acc : List ℤ × List (ℤ × ℚ)) : List ℤ × List (ℤ × ℚ) :=
  appendScoredItems items baseScore acc

/-- `l[:n]`, which leaves out the last entries when `n` is negative. -/
def sliceTo {α : Type} (l : List α) (n : ℤ) : List α :=
  if 0 ≤ n then l.take n.toNat else l.take (l.length - n.natAbs)

/-- Entries by descending score, then by identifier. -/
def sortScores (scores : List (ℤ × ℚ)) : List (ℤ × ℚ) :=
  Ranked.sortBy (Ranked.higherFirst Prod.snd Prod.fst) scores

/-- The best seeds of a profile. -/
def collectTriggerSeeds (profile : Profile) (maxTriggerSeeds : ℤ) : List (ℤ × ℚ) :=
  let behaviors := profile.behaviors
  let acc := appendTriggerSeeds behaviors.recentLikedItems 1 ([], [])
  let acc := appendTriggerSeeds behaviors.likedItems (1 / 2) acc
  let acc := appendTriggerSeeds behaviors.interestedItems (3 / 10) acc
  sliceTo (sortScores acc.2) maxTriggerSeeds

/-- The items of a similar user with their scores. -/
def collectNeighborCandidateItems (profile : Profile) : List (ℤ × ℚ) :=
  let behaviors := profile.behaviors
  let acc := appendNeighborCandidateItems behaviors.recentLikedItems 1 ([], [])
  let acc := appendNeighborCandidateItems behaviors.likedItems (7 / 10) acc
  (appendNeighborCandidateItems behaviors.interestedItems (3 / 10) acc).2

/-! ### Filtered items -/

/-- The positive identifiers of items. -/
def collectItemIdsFromWeightedItems (items : List RecommendationEngine.WeightedItem) : List ℤ :=
  (items.map (·.itemId)).filter (0 < ·)

/-- The items that are not recalled. -/
def collectFilterItems (profile : Profile) : List ℤ :=
  let behaviors := profile.behaviors
  [behaviors.recentLikedItems, behaviors.likedItems, behaviors.interestedItems].flatMap
      collectItemIdsFromWeightedItems
    ++ behaviors.ratedItems.filter (0 < ·)
    ++ collectItemIdsFromWeightedItems profile.negativeFeedbacks.items

/-! ### Recall -/

/-- A positive contribution to an item is added to its score. -/
def addCandidateScore (scores : List (ℤ × ℚ)) (itemId : ℤ) (contribution : ℚ) : List (ℤ × ℚ) :=
  if itemId ≤ 0 ∨ contribution ≤ 0 then scores
  else Keyed.upsert itemId (fun found => found.getD 0 + contribution) scores

/-- One turn of the loops over what is found from a seed; `acc` holds the scores and the number of
items left out. -/
def addScoredItem (filterItems : List ℤ) (seedScore : ℚ) (acc : List (ℤ × ℚ) × ℕ)
    (scored : ℤ × ℚ) : List (ℤ × ℚ) × ℕ :=
  if scored.1 ∈ filterItems then (acc.1, acc.2 + 1)
  else (addCandidateScore acc.1 scored.1 (seedScore * scored.2), acc.2)

/-- The best items similar to the seeds, and the number of items left out. -/
def aggregateItemCf (triggerSeeds : List (ℤ × ℚ)) (filterItems : List ℤ)
    (itemSimilarityRows : List (ℤ × SimilarityRow)) (maxCandidates : ℤ) : List (ℤ × ℚ) × ℕ :=
  let acc := triggerSeeds.foldl
    (fun acc (triggerItemId, triggerScore) =>
      match itemSimilarityRows.lookup triggerItemId with
      | none => acc
      | some row =>
        (sliceTo row.neighbors maxCandidates).foldl
          (fun acc neighbor =>
            addScoredItem filterItems triggerScore acc (neighbor.neighborId, neighbor.score))
          acc)
    ([], 0)
  (sliceTo (sortScores acc.1) maxCandidates, acc.2)

/-- The loop over similar users: the scores, the users seen, and what is counted. -/
structure UserCfLoop where
  scores : List (ℤ × ℚ) := []
  profileHits : ℕ := 0
  profileMisses : ℕ := 0
  filteredCount : ℕ := 0
  seenUsers : List ℤ := []
  deriving DecidableEq, Repr

/-- One turn of the loop over similar users. -/
def addUserNeighbor (userId : ℤ) (profiles : List (ℤ × Profile)) (filterItems : List ℤ)
    (loop : UserCfLoop) (neighbor : SimilarityNeighbor) : UserCfLoop :=
  if neighbor.neighborId ≤ 0 ∨ neighbor.neighborId = userId ∨ neighbor.score ≤ 0 then loop
  else if neighbor.neighborId ∈ loop.seenUsers then loop
  else
    let loop := { loop with seenUsers := neighbor.neighborId :: loop.seenUsers }
    match profiles.lookup neighbor.neighborId with
    | none => { loop with profileMisses := loop.profileMisses + 1 }
    | some profile =>
      let acc := (collectNeighborCandidateItems profile).foldl
        (addScoredItem filterItems neighbor.score) (loop.scores, loop.filteredCount)
      { loop with
        scores := acc.1
        profileHits := loop.profileHits + 1
        filteredCount := acc.2 }

/-- The best items of similar users, the numbers of similar users with and without a profile, and
the number of items left out. -/
def aggregateUserCf (userId : ℤ) (similarityRow : SimilarityRow) (profiles : List (ℤ × Profile))
    (filterItems : List ℤ) (maxUserNeighbors maxCandidates : ℤ) : List (ℤ × ℚ) × ℕ × ℕ × ℕ :=
  let loop := (sliceTo similarityRow.neighbors maxUserNeighbors).foldl
    (addUserNeighbor userId profiles filterItems) {}
  (sliceTo (sortScores loop.scores) maxCandidates, loop.profileHits, loop.profileMisses,
    loop.filteredCount)

/-! ### Normalised rows -/

/-- Distinct neighbours of positive identifiers and scores, other than the entity itself. -/
structure Normalized (row : SimilarityRow) : Prop where
  nodup : (row.neighbors.map SimilarityNeighbor.neighborId).Nodup
  positive : ∀ n ∈ row.neighbors, 0 < n.neighborId ∧ 0 < n.score
  ne_entity : ∀ n ∈ row.neighbors, n.neighborId ≠ row.entityId

/-- What the loop over neighbours keeps: the identifiers seen are those of the neighbours, which are
normalised. -/
structure NormalizedSoFar (entityId : ℤ) (acc : List ℤ × List SimilarityNeighbor) : Prop where
  seen : Keyed.Seen SimilarityNeighbor.neighborId acc
  normalized : Normalized { entityId := entityId, neighbors := acc.2 }

theorem NormalizedSoFar.normalizeNeighbor {readers : NumberReaders} {neighborField : String}
    {entityId : ℤ} {acc acc' : List ℤ × List SimilarityNeighbor} {neighbor : Json}
    (h : NormalizedSoFar entityId acc)
    (hok : normalizeNeighbor readers neighborField entityId acc neighbor = .ok acc') :
  NormalizedSoFar entityId acc'
  := by
  rw [LocalRecommendationFixture.normalizeNeighbor] at hok
  obtain ⟨idField, -, hok⟩ := Batch.of_bind_eq_ok hok
  obtain ⟨neighborId, -, hok⟩ := Batch.of_bind_eq_ok hok
  obtain ⟨scoreField, -, hok⟩ := Batch.of_bind_eq_ok hok
  obtain ⟨score, -, hok⟩ := Batch.of_bind_eq_ok hok
  split at hok
  · obtain rfl := Except.ok.inj hok
    exact h
  next hcounts =>
    push Not at hcounts
    obtain ⟨hid, hne, hscore⟩ := hcounts
    split at hok
    · obtain rfl := Except.ok.inj hok
      exact h
    next hnew =>
      obtain rfl := Except.ok.inj hok
      rw [h.seen] at hnew
      constructor
      · intro id
        rw [List.mem_cons, h.seen, List.map_append, List.mem_append, List.map_singleton,
          List.mem_singleton]
        exact or_comm
      · constructor
        · rw [List.map_append, List.map_singleton]
          apply h.normalized.nodup.append (List.nodup_singleton _)
          rwa [List.disjoint_singleton]
        · intro n hn
          rcases List.mem_append.mp hn with hn | hn
          · exact h.normalized.positive n hn
          · rw [List.mem_singleton.mp hn]
            exact ⟨hid, hscore⟩
        · intro n hn
          rcases List.mem_append.mp hn with hn | hn
          · exact h.normalized.ne_entity n hn
          · rw [List.mem_singleton.mp hn]
            exact hne

theorem normalized_of_normalizeSimilarityRow {readers : NumberReaders} {document : Json}
    {entityField neighborField : String} {row : SimilarityRow}
    (h : normalizeSimilarityRow readers document entityField neighborField = .ok row) :
  Normalized row
  := by
  rw [normalizeSimilarityRow] at h
  obtain ⟨idField, -, h⟩ := Batch.of_bind_eq_ok h
  obtain ⟨entityId, -, h⟩ := Batch.of_bind_eq_ok h
  obtain ⟨neighborsField, -, h⟩ := Batch.of_bind_eq_ok h
  obtain ⟨neighbors, -, h⟩ := Batch.of_bind_eq_ok h
  obtain ⟨acc, hacc, h⟩ := Batch.of_bind_eq_ok h
  obtain rfl := Except.ok.inj h
  have hstart : NormalizedSoFar entityId ([], []) := by
    constructor
    · exact Keyed.seen_nil _
    · constructor <;> simp
  have hloop : NormalizedSoFar entityId acc :=
    Batch.of_foldlM_eq_ok (fun _ _ _ hnormalized hok => hnormalized.normalizeNeighbor hok) hstart
      hacc
  exact hloop.normalized

/-! ### Documents of rows -/

/-- A value that holds a neighbour, besides other fields. -/
def IsNeighbor (idField : String) (neighbor : SimilarityNeighbor) (value : Json) : Prop :=
  ∃ fields, value = .object fields ∧ fields.lookup idField = some (.int neighbor.neighborId)
    ∧ fields.lookup "score" = some (.float neighbor.score)

/-- A document that lists the neighbours of a row, besides other fields. -/
def IsRow (idField : String) (row : SimilarityRow) (document : Json) : Prop :=
  ∃ fields values, document = .object fields ∧ fields.lookup idField = some (.int row.entityId)
    ∧ fields.lookup "neighbors" = some (.array values)
    ∧ List.Forall₂ (IsNeighbor idField) row.neighbors values

end LocalRecommendationFixture

end OfflineDataProcessing
