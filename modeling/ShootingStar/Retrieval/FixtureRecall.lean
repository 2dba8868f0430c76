import ShootingStar.Offline.LocalRecommendationFixture
import ShootingStar.Retrieval.ItemSimilarityStores
import ShootingStar.Retrieval.UserCf

/-!
# The recall of the fixture tool

The tool that extracts a fixture recalls items by code of its own.  Over the normalised rows it has
read, it recalls from similar items what the item-based retriever returns, and from similar users
what the user-based retriever returns: the same items with the same scores, in the same order
(`recall_eq_retrieve`).
-/

namespace RecommendationEngine

open OfflineDataProcessing.LocalRecommendationFixture

/-! ### The store of similar users -/

/-- The store of a local file: the neighbours of every user. -/
structure LocalFileUserSimilarityStore where
  neighborsByUserId : List (ℕ × List UserNeighbor)
  deriving DecidableEq, Repr

namespace LocalFileUserSimilarityStore

/-- The neighbours of a line as users. -/
def toUserNeighbors (parsedNeighbors : List LocalFileSimilarityNeighbor) : List UserNeighbor :=
  parsedNeighbors.map fun n => { userId := n.id, score := n.score }

/-- The rows with the one on a line. -/
def loadLine (readers : NumberReaders) (filePath : String) :
    List (ℕ × List UserNeighbor) → Option Json × ℕ → Except String (List (ℕ × List UserNeighbor)) :=
  loadSimilarityLine "user_id" "user_id" toUserNeighbors readers filePath

/-- The store of a file, whose lines are `none` where the file cannot be opened, with the message of
the exception that is thrown. -/
def loadFromJsonlFile (readers : NumberReaders) (filePath : String)
    (lines : Option (List (Option Json))) : Except String LocalFileUserSimilarityStore :=
  match lines with
  | none =>
    .error ("LocalFileUserSimilarityStore::LoadFromJsonlFile failed: cannot open file " ++ filePath)
  | some lines => do
    let loadedNeighbors ← (lines.zipIdx 1).foldlM (loadLine readers filePath) []
    .ok { neighborsByUserId := loadedNeighbors }

/-- The first neighbours of a user. -/
def findNeighborsByUserId (store : LocalFileUserSimilarityStore) (userId : ℕ)
    (maxNeighborCount : ℤ) : List UserNeighbor :=
  if userId = 0 ∨ maxNeighborCount ≤ 0 then []
  else
    match store.neighborsByUserId.lookup userId with
    | none => []
    | some neighbors => neighbors.take (min neighbors.length maxNeighborCount.toNat)

end LocalFileUserSimilarityStore

namespace FixtureRecall

/-! ### The stores of normalised rows -/

/-- A neighbour as an item. -/
def itemNeighbor (n : SimilarityNeighbor) : ItemNeighbor where
  itemId := n.neighborId.toNat
  score := n.score

/-- A neighbour as a user. -/
def userNeighbor (n : SimilarityNeighbor) : UserNeighbor where
  userId := n.neighborId.toNat
  score := n.score

/-- The store of item rows.  A row whose identifier is not positive is never looked up. -/
def itemStore (rows : List SimilarityRow) : LocalFileItemSimilarityStore where
  neighborsByItemId :=
    Keyed.collect (fun row => row.entityId.toNat) (fun row _ => row.neighbors.map itemNeighbor) rows

/-- The store of user rows. -/
def userStore (rows : List SimilarityRow) : LocalFileUserSimilarityStore where
  neighborsByUserId :=
    Keyed.collect (fun row => row.entityId.toNat) (fun row _ => row.neighbors.map userNeighbor) rows

/-- The identifiers of a row are positive doubles. -/
structure InRange (row : SimilarityRow) : Prop where
  entityId : 1 ≤ row.entityId ∧ row.entityId ≤ 2 ^ 53
  neighborId : ∀ n ∈ row.neighbors, 1 ≤ n.neighborId ∧ n.neighborId ≤ 2 ^ 53

section Loaders

variable (readers : NumberReaders) {idField : String}

theorem parseNeighbors_of_isNeighbor {neighbors : List SimilarityNeighbor} {values : List Json}
    (h : List.Forall₂ (IsNeighbor idField) neighbors values)
    (hrange : ∀ n ∈ neighbors, 1 ≤ n.neighborId ∧ n.neighborId ≤ 2 ^ 53) (context : String)
    (i : ℕ) :
  (values.zipIdx i).mapM (parseNeighbor readers idField context)
    = .ok (neighbors.map fun n => { id := n.neighborId.toNat, score := n.score })
  := by
  induction h generalizing i with
  | nil => rfl
  | @cons n value neighbors values hvalue _ ih =>
      obtain ⟨fields, rfl, hid, hscore⟩ := hvalue
      have hrest := ih (fun m hm => hrange m (List.mem_cons_of_mem _ hm)) (i + 1)
      have hfirst : parseNeighbor readers idField context (.object fields, i)
          = .ok { id := n.neighborId.toNat, score := n.score } := by
        simp [parseNeighbor, requiredField, hid, hscore, readDouble, bind, Except.bind,
          readPositiveUint64_int (hrange n List.mem_cons_self)]
      rw [List.zipIdx_cons, List.mapM_cons, hfirst, hrest]
      rfl

/-- The line of a row is read as the row. -/
theorem parseLocalFileSimilarityJsonlLine_of_isRow {row : SimilarityRow} {document : Json}
    (h : IsRow idField row document) (hrange : InRange row) (context : String) :
  parseLocalFileSimilarityJsonlLine readers document idField idField context
    = .ok {
        entityId := row.entityId.toNat
        neighbors := row.neighbors.map fun n => { id := n.neighborId.toNat, score := n.score } }
  := by
  obtain ⟨fields, values, rfl, hid, hneighbors, hvalues⟩ := h
  simp [parseLocalFileSimilarityJsonlLine, requiredField, hid, hneighbors, parseNeighbors,
    readPositiveUint64_int hrange.entityId,
    parseNeighbors_of_isNeighbor readers hvalues hrange.neighborId, bind, Except.bind]

/-- Lines of rows are loaded as the neighbours of the rows. -/
theorem foldlM_loadSimilarityLine {ν : Type}
    (toNeighbors : List LocalFileSimilarityNeighbor → List ν) (neighbor : SimilarityNeighbor → ν)
    (hneighbors : ∀ neighbors : List SimilarityNeighbor,
      toNeighbors (neighbors.map fun n => { id := n.neighborId.toNat, score := n.score })
        = neighbors.map neighbor)
    (filePath : String) {rows : List SimilarityRow} {documents : List Json}
    (h : List.Forall₂ (IsRow idField) rows documents) (hrange : ∀ row ∈ rows, InRange row)
    (loaded : List (ℕ × List ν)) (i : ℕ) :
  ((documents.map some).zipIdx i).foldlM
      (loadSimilarityLine idField idField toNeighbors readers filePath) loaded
    = .ok (rows.foldl (fun loaded row =>
        Keyed.upsert row.entityId.toNat (fun _ => row.neighbors.map neighbor) loaded) loaded)
  := by
  induction h generalizing loaded i with
  | nil => rfl
  | @cons row document rows documents hrow _ ih =>
      have hline : loadSimilarityLine idField idField toNeighbors readers filePath loaded
          (some document, i)
            = .ok (Keyed.upsert row.entityId.toNat (fun _ => row.neighbors.map neighbor)
              loaded) := by
        simp only [loadSimilarityLine, bind, Except.bind, hneighbors,
          parseLocalFileSimilarityJsonlLine_of_isRow readers hrow (hrange row List.mem_cons_self)]
      rw [List.map_cons, List.zipIdx_cons, List.foldlM_cons, hline, List.foldl_cons]
      exact ih (fun row hrow => hrange row (List.mem_cons_of_mem _ hrow)) _ (i + 1)

/-- A file of rows is loaded into the store of the rows. -/
theorem loadFromJsonlFile_itemStore (filePath : String) {rows : List SimilarityRow}
    {documents : List Json} (h : List.Forall₂ (IsRow "item_id") rows documents)
    (hrange : ∀ row ∈ rows, InRange row) :
  LocalFileItemSimilarityStore.loadFromJsonlFile readers filePath (some (documents.map some))
    = .ok (itemStore rows)
  := by
  have hloop := foldlM_loadSimilarityLine readers
    LocalFileItemSimilarityStore.toItemNeighbors itemNeighbor (fun _ => List.map_map) filePath h
    hrange [] 1
  simp only [LocalFileItemSimilarityStore.loadFromJsonlFile, LocalFileItemSimilarityStore.loadLine,
    hloop, bind, Except.bind]
  rfl

theorem loadFromJsonlFile_userStore (filePath : String) {rows : List SimilarityRow}
    {documents : List Json} (h : List.Forall₂ (IsRow "user_id") rows documents)
    (hrange : ∀ row ∈ rows, InRange row) :
  LocalFileUserSimilarityStore.loadFromJsonlFile readers filePath (some (documents.map some))
    = .ok (userStore rows)
  := by
  have hloop := foldlM_loadSimilarityLine readers
    LocalFileUserSimilarityStore.toUserNeighbors userNeighbor (fun _ => List.map_map) filePath h
    hrange [] 1
  simp only [LocalFileUserSimilarityStore.loadFromJsonlFile, LocalFileUserSimilarityStore.loadLine,
    hloop, bind, Except.bind]
  rfl

end Loaders

/-- The neighbours of an entity in the dictionary of rows. -/
def neighborsOf (rows : List SimilarityRow) (entityId : ℤ) : List SimilarityNeighbor :=
  ((rowsByEntityId rows).lookup entityId).elim [] SimilarityRow.neighbors

theorem lookup_rowsByEntityId (rows : List SimilarityRow) (entityId : ℤ) :
  (rowsByEntityId rows).lookup entityId = (rows.filter (·.entityId = entityId)).getLast?
  := by
  rw [rowsByEntityId, Keyed.lookup_collect, Keyed.accumulate_replace fun row => row]
  exact Option.map_id'

/-- A row of the dictionary is one of the rows. -/
theorem mem_of_lookup_rowsByEntityId {rows : List SimilarityRow} {entityId : ℤ}
    {row : SimilarityRow} (h : (rowsByEntityId rows).lookup entityId = some row) :
  row ∈ rows ∧ row.entityId = entityId
  := by
  rw [lookup_rowsByEntityId] at h
  obtain ⟨hrow, hid⟩ := List.mem_filter.mp (List.mem_of_getLast? h)
  exact ⟨hrow, of_decide_eq_true hid⟩

/-- A store finds what the dictionary of rows lists. -/
theorem lookup_collect_toNat {ν : Type} (neighbor : SimilarityNeighbor → ν)
    (rows : List SimilarityRow) {id : ℕ} (hid : id ≠ 0) :
  ((Keyed.collect (fun row : SimilarityRow => row.entityId.toNat)
      (fun row _ => row.neighbors.map neighbor) rows).lookup id).getD []
    = (neighborsOf rows id).map neighbor
  := by
  have hfilter : rows.filter (fun row => row.entityId.toNat = id)
      = rows.filter (fun row => row.entityId = (id : ℤ)) := by
    apply List.filter_congr
    intro row _
    apply decide_eq_decide.mpr
    omega
  rw [Keyed.lookup_collect, Keyed.accumulate_replace, hfilter, neighborsOf, lookup_rowsByEntityId]
  cases (rows.filter (·.entityId = (id : ℤ))).getLast? <;> rfl

theorem take_min_length {ν : Type} (neighbors : List ν) (n : ℕ) :
  neighbors.take (min neighbors.length n) = neighbors.take n
  := by
  apply List.take_eq_take_iff.mpr
  rw [min_right_comm, min_self, min_comm]

theorem findNeighborsByItemId_itemStore (rows : List SimilarityRow) {id : ℕ} (hid : id ≠ 0) {n : ℤ}
    (hn : 0 < n) :
  (itemStore rows).findNeighborsByItemId id n
    = (sliceTo (neighborsOf rows id) n).map itemNeighbor
  := by
  have hnot : ¬ (id = 0 ∨ n ≤ 0) := by omega
  have hlookup := lookup_collect_toNat itemNeighbor rows hid
  rw [LocalFileItemSimilarityStore.findNeighborsByItemId, if_neg hnot, sliceTo, if_pos hn.le,
    List.map_take, ← hlookup, itemStore]
  cases (Keyed.collect (fun row : SimilarityRow => row.entityId.toNat)
      (fun row _ => row.neighbors.map itemNeighbor) rows).lookup id with
  | none => simp
  | some neighbors => exact take_min_length neighbors n.toNat

theorem findNeighborsByUserId_userStore (rows : List SimilarityRow) {id : ℕ} (hid : id ≠ 0) {n : ℤ}
    (hn : 0 < n) :
  (userStore rows).findNeighborsByUserId id n
    = (sliceTo (neighborsOf rows id) n).map userNeighbor
  := by
  have hnot : ¬ (id = 0 ∨ n ≤ 0) := by omega
  have hlookup := lookup_collect_toNat userNeighbor rows hid
  rw [LocalFileUserSimilarityStore.findNeighborsByUserId, if_neg hnot, sliceTo, if_pos hn.le,
    List.map_take, ← hlookup, userStore]
  cases (Keyed.collect (fun row : SimilarityRow => row.entityId.toNat)
      (fun row _ => row.neighbors.map userNeighbor) rows).lookup id with
  | none => simp
  | some neighbors => exact take_min_length neighbors n.toNat

/-! ### Weighted items -/

/-- The entry that the tool makes of an identifier and a score. -/
def entryOf (id : ℕ) (score : ℚ) : ℤ × ℚ :=
  (id, score)

theorem scoredItem_eq (baseScore : ℚ) :
  scoredItem baseScore = weightedEntry entryOf baseScore
  := by
  funext indexed
  rw [scoredItem, weightedEntry]
  split
  · rfl
  next hid =>
    rw [entryOf, weightedScore, weightedItemScore, Int.toNat_of_nonneg (by omega), Nat.cast_add,
      Nat.cast_one]
    rfl

/-- The channels of the tool give the entries of the channels of a retriever. -/
theorem collect_eq_collectWeightedItems {σ : Type} {key : σ → ℕ} {entry : ℕ → ℚ → σ}
    {view : σ → ℤ × ℚ} (hview : ∀ id score, view (entry id score) = entryOf id score)
    (hkey : ∀ e, (view e).1 = key e) (channel₁ channel₂ channel₃ : List WeightedItem × ℚ) :
  (appendScoredItems channel₃.1 channel₃.2 (appendScoredItems channel₂.1 channel₂.2
      (appendScoredItems channel₁.1 channel₁.2 ([], [])))).2
    = (collectWeightedItems key entry channel₁ channel₂ channel₃).map view
  := by
  obtain ⟨hseen₁, h₁⟩ := Keyed.foldl_addUnseen Prod.fst (scoredItem channel₁.2)
    channel₁.1.zipIdx (Keyed.seen_nil Prod.fst)
  obtain ⟨hseen₂, h₂⟩ := Keyed.foldl_addUnseen Prod.fst (scoredItem channel₂.2)
    channel₂.1.zipIdx hseen₁
  obtain ⟨-, h₃⟩ := Keyed.foldl_addUnseen Prod.fst (scoredItem channel₃.2)
    channel₃.1.zipIdx hseen₂
  have hentries : ∀ channel : List WeightedItem × ℚ,
      channel.1.zipIdx.filterMap (scoredItem channel.2)
        = (weightedEntries entry channel).map view := by
    intro channel
    rw [scoredItem_eq, weightedEntries, List.map_filterMap]
    apply List.filterMap_congr
    intro indexed _
    rw [weightedEntry, weightedEntry]
    split
    · rfl
    · rw [Option.map_some, hview]
  have hfirsts := Keyed.firsts_map Nat.cast_injective hkey
    ([channel₁, channel₂, channel₃].flatMap (weightedEntries entry))
  rw [collectWeightedItems_eq, ← hfirsts, List.map_flatMap]
  simp only [List.flatMap_cons, List.flatMap_nil, List.append_nil, ← hentries]
  rw [← List.append_assoc, Keyed.firsts_append, Keyed.firsts_append]
  simp only [appendScoredItems, h₃, h₂, h₁]
  rfl

/-! ### Seeds -/

/-- A seed as the tool holds it. -/
def seedEntry (seed : TriggerSeed) : ℤ × ℚ :=
  (seed.entityId, seed.score)

/-- An item of a similar user as the tool holds it. -/
def itemEntry (item : ScoredItem) : ℤ × ℚ :=
  (item.itemId, item.score)

/-- Naturals and their integers compare alike. -/
theorem higherFirst_cast {α : Type} (id : α → ℕ) (score : α → ℚ) (a b : α) :
  Ranked.higherFirst score id a b
    = Ranked.higherFirst Prod.snd Prod.fst ((id a : ℤ), score a) ((id b : ℤ), score b)
  := by
  simp only [Ranked.higherFirst, Nat.cast_lt]

/-- The seeds of the retriever in the order in which the tool takes them. -/
def rankedSeeds (profile : Profile) (maxTriggerSeeds : ℤ) : List TriggerSeed :=
  (Ranked.sortBy (Ranked.higherFirst TriggerSeed.score TriggerSeed.entityId)
    (RetrieverItemCf.collectTriggerSeeds profile)).take maxTriggerSeeds.toNat

theorem collectTriggerSeeds_eq (profile : Profile) {maxTriggerSeeds : ℤ} (h : 0 < maxTriggerSeeds) :
  collectTriggerSeeds profile maxTriggerSeeds
    = (rankedSeeds profile maxTriggerSeeds).map seedEntry
  := by
  have hview : ∀ id score, seedEntry (TriggerSeed.mk id score) = entryOf id score :=
    fun _ _ => rfl
  have hkey : ∀ seed, (seedEntry seed).1 = seed.entityId := fun _ => rfl
  have hseeds := collect_eq_collectWeightedItems hview hkey
    (profile.behaviors.recentLikedItems, 1) (profile.behaviors.likedItems, 1 / 2)
    (profile.behaviors.interestedItems, 3 / 10)
  simp only [collectTriggerSeeds, appendTriggerSeeds, hseeds, sliceTo, if_pos h.le, sortScores,
    rankedSeeds, List.map_take]
  rw [Ranked.map_sortBy _ seedEntry (higherFirst_cast TriggerSeed.entityId TriggerSeed.score)]
  rfl

/-- The retriever and the tool take the same seeds. -/
theorem rankedSeeds_perm (profile : Profile) {maxTriggerSeeds : ℤ} (h : 0 < maxTriggerSeeds) :
  (rankedSeeds profile maxTriggerSeeds).Perm
    (RetrieverItemCf.selectTopTriggerSeeds (RetrieverItemCf.collectTriggerSeeds profile)
      maxTriggerSeeds)
  := by
  rw [RetrieverItemCf.selectTopTriggerSeeds]
  split
  next hfew =>
    rw [rankedSeeds, List.take_of_length_le]
    · apply Ranked.sortBy_perm
    · rw [Ranked.length_sortBy]
      omega
  · exact List.Perm.refl _

theorem collectNeighborCandidateItems_eq (profile : Profile) :
  collectNeighborCandidateItems profile
    = (RetrieverUserCf.collectNeighborCandidateItems
        (ProfileService.fillUserCfProfile profile)).map itemEntry
  := by
  have hview : ∀ id score, itemEntry (ScoredItem.mk id score) = entryOf id score := fun _ _ => rfl
  have hkey : ∀ item, (itemEntry item).1 = item.itemId := fun _ => rfl
  exact collect_eq_collectWeightedItems hview hkey (profile.behaviors.recentLikedItems, 1)
    (profile.behaviors.likedItems, 7 / 10) (profile.behaviors.interestedItems, 3 / 10)

/-! ### Filtered items -/

theorem mem_collectFilterItems {profile : Profile} {id : ℕ} (hid : id ≠ 0) :
  (id : ℤ) ∈ collectFilterItems profile ↔ id ∈ collectItemIdsToFilterOut profile
  := by
  have hpos : (0 : ℤ) < id := by omega
  rw [mem_collectItemIdsToFilterOut hid]
  simp only [collectFilterItems, collectItemIdsFromWeightedItems, consumedItems, List.flatMap_cons,
    List.flatMap_nil, List.append_nil, List.mem_append, List.mem_filter, hpos, decide_true, and_true,
    or_assoc]

/-! ### Scores -/

/-- The scores of a map as the tool holds them. -/
def scoresOf (candidates : List (ℕ × CandidateScore)) : List (ℤ × ℚ) :=
  candidates.map (Prod.map Nat.cast CandidateScore.score)

/-- A contribution of a seed is added to both in the same way. -/
theorem addCandidateScore_scoresOf {seed : TriggerSeed} (hseed : 0 < seed.score) (itemId : ℕ)
    (score : ℚ) (candidates : List (ℕ × CandidateScore)) :
  addCandidateScore (scoresOf candidates) itemId (seed.score * score)
    = scoresOf (addCandidateContribution seed itemId score candidates)
  := by
  have hproduct : seed.score * score ≤ 0 ↔ score ≤ 0 := by
    rw [← not_lt, ← not_lt, mul_pos_iff_of_pos_left hseed]
  have hid : (itemId : ℤ) ≤ 0 ↔ itemId = 0 := by omega
  rw [addCandidateScore, addCandidateContribution]
  simp only [Arithmetic.exact_mul, hproduct, hid]
  by_cases hskip : itemId = 0 ∨ score ≤ 0
  · rw [if_pos hskip, if_pos hskip]
  · rw [if_neg hskip, if_neg hskip, if_neg (mt Or.inr hskip), scoresOf, scoresOf]
    apply Keyed.upsert_map Nat.cast_injective
    intro found
    cases found with
    | none => simp [scoreContribution]
    | some found =>
        simp only [scoreContribution, Option.map_some, Option.getD_some]
        split <;> rfl

theorem exists_eq_mk {α β : Type} {p : α × β} {a : α} (h : p.1 = a) :
  ∃ b, p = (a, b)
  := ⟨p.2, Prod.ext h rfl⟩

/-- What is found from a seed is added to both in the same way. -/
theorem fst_foldl_addScoredItem {α : Type} {itemId : α → ℕ} {score : α → ℚ} {profile : Profile}
    {seed : TriggerSeed} (hseed : 0 < seed.score) (items : List α)
    (candidates : List (ℕ × CandidateScore)) (filteredCount : ℕ) :
  ((items.map fun item => ((itemId item : ℤ), score item)).foldl
      (addScoredItem (collectFilterItems profile) seed.score)
      (scoresOf candidates, filteredCount)).1
    = scoresOf (aggregateContributions itemId score (collectItemIdsToFilterOut profile)
        [(seed, items)] candidates)
  := by
  induction items generalizing candidates filteredCount with
  | nil => rfl
  | cons item items ih =>
      have hstep : ∃ count, addScoredItem (collectFilterItems profile) seed.score
          (scoresOf candidates, filteredCount) ((itemId item : ℤ), score item)
            = (scoresOf (if itemId item ∈ collectItemIdsToFilterOut profile then candidates
                else addCandidateContribution seed (itemId item) (score item) candidates),
              count) := by
        rw [addScoredItem]
        by_cases hid : itemId item = 0
        · have hnone : ∀ scores contribution, addCandidateScore scores (itemId item) contribution
              = scores := by
            intro scores contribution
            rw [addCandidateScore, if_pos]
            omega
          have hsame : addCandidateContribution seed (itemId item) (score item) candidates
              = candidates := by
            rw [addCandidateContribution, if_pos (Or.inl hid)]
          rw [hnone, hsame, ite_self]
          split
          · use filteredCount + 1
          · use filteredCount
        · simp only [mem_collectFilterItems hid]
          split
          · use filteredCount + 1
          · rw [addCandidateScore_scoresOf hseed]
            use filteredCount
      obtain ⟨count, hstep⟩ := hstep
      rw [List.map_cons, List.foldl_cons, hstep, ih]
      rfl

/-- The best scores of the tool are those of the candidates of a response. -/
theorem sliceTo_sortScores_scoresOf (label : RetrieverLabel) {maxCandidates : ℤ}
    (hmax : 0 < maxCandidates) (cs : List Contribution) :
  sliceTo (sortScores (scoresOf (cs.foldl Contribution.add []))) maxCandidates
    = (fillResponseCandidates label 1 maxCandidates (cs.foldl Contribution.add [])).map
      fun candidate => ((candidate.itemId : ℤ), candidate.retrieveScore)
  := by
  have hscores : scoresOf (cs.foldl Contribution.add [])
      = ((cs.foldl Contribution.add []).map Prod.snd).map
        fun scored : CandidateScore => ((scored.itemId : ℤ), scored.score) := by
    rw [scoresOf, List.map_map]
    apply List.map_congr_left
    intro p hp
    rw [Prod.map_apply', Contribution.fst_of_mem_foldl_add hp]
    rfl
  rw [sliceTo, if_pos hmax.le, sortScores, hscores, ← Ranked.map_sortBy _ _
    (higherFirst_cast CandidateScore.itemId CandidateScore.score), fillResponseCandidates,
    sortCandidates, List.map_map, List.map_take]
  congr 1
  apply List.map_congr_left
  intro scored _
  simp [buildCandidate]

/-! ### Similar items -/

/-- A neighbour of positive identifier as the tool holds it. -/
theorem map_itemNeighbor {neighbors : List SimilarityNeighbor}
    (h : ∀ n ∈ neighbors, 0 < n.neighborId) :
  (neighbors.map itemNeighbor).map (fun n => ((n.itemId : ℤ), n.score))
    = neighbors.map fun n => (n.neighborId, n.score)
  := by
  rw [List.map_map]
  apply List.map_congr_left
  intro n hn
  rw [Function.comp_apply, itemNeighbor, Int.toNat_of_nonneg (h n hn).le]

theorem mem_of_mem_sliceTo {α : Type} {l : List α} {n : ℤ} {x : α} (h : x ∈ sliceTo l n) :
  x ∈ l
  := by
  rw [sliceTo] at h
  split at h <;> exact List.mem_of_mem_take h

/-- The neighbours of the seeds are gone over in order. -/
theorem aggregateItemCf_eq_foldl (triggerSeeds : List (ℤ × ℚ)) (filterItems : List ℤ)
    (rows : List SimilarityRow) (maxCandidates : ℤ) :
  (aggregateItemCf triggerSeeds filterItems (rowsByEntityId rows) maxCandidates).1
    = sliceTo (sortScores (triggerSeeds.foldl
        (fun acc seed =>
          ((sliceTo (neighborsOf rows seed.1) maxCandidates).map
            fun n => (n.neighborId, n.score)).foldl (addScoredItem filterItems seed.2) acc)
        ([], 0)).1) maxCandidates
  := by
  have hnil : sliceTo ([] : List SimilarityNeighbor) maxCandidates = [] := by simp [sliceTo]
  simp only [aggregateItemCf]
  congr 3
  apply List.foldl_ext
  intro acc seed _
  rw [List.foldl_map, neighborsOf]
  cases (rowsByEntityId rows).lookup seed.1 with
  | none =>
      rw [Option.elim_none, hnil]
      rfl
  | some row => rfl

section Rows

variable {rows : List SimilarityRow} (hrows : ∀ row ∈ rows, Normalized row)

include hrows

theorem pos_of_mem_neighborsOf {entityId : ℤ} {n : SimilarityNeighbor}
    (h : n ∈ neighborsOf rows entityId) :
  0 < n.neighborId
  := by
  rw [neighborsOf] at h
  cases hlookup : (rowsByEntityId rows).lookup entityId with
  | none =>
      rw [hlookup] at h
      cases h
  | some row =>
      rw [hlookup] at h
      exact ((hrows row (mem_of_lookup_rowsByEntityId hlookup).1).positive n h).1

/-- The neighbours of the seeds are added to both in the same way. -/
theorem fst_foldl_neighborsOf {profile : Profile} (maxCandidates : ℤ) {seeds : List TriggerSeed}
    (hseeds : ∀ seed ∈ seeds, 0 < seed.score) (candidates : List (ℕ × CandidateScore))
    (filteredCount : ℕ) :
  ((seeds.map seedEntry).foldl
      (fun acc seed =>
        ((sliceTo (neighborsOf rows seed.1) maxCandidates).map
          fun n => (n.neighborId, n.score)).foldl
            (addScoredItem (collectFilterItems profile) seed.2) acc)
      (scoresOf candidates, filteredCount)).1
    = scoresOf (aggregateContributions ItemNeighbor.itemId ItemNeighbor.score
        (collectItemIdsToFilterOut profile)
        (seeds.map fun seed =>
          (seed, (sliceTo (neighborsOf rows seed.entityId) maxCandidates).map itemNeighbor))
        candidates)
  := by
  induction seeds generalizing candidates filteredCount with
  | nil => rfl
  | cons seed seeds ih =>
      obtain ⟨hseed, hrest⟩ := List.forall_mem_cons.mp hseeds
      have hneighbors : ∀ n ∈ sliceTo (neighborsOf rows seed.entityId) maxCandidates,
          0 < n.neighborId := fun n hn => pos_of_mem_neighborsOf hrows (mem_of_mem_sliceTo hn)
      have hstep := @fst_foldl_addScoredItem _ ItemNeighbor.itemId ItemNeighbor.score profile _ hseed
        ((sliceTo (neighborsOf rows seed.entityId) maxCandidates).map itemNeighbor) candidates
        filteredCount
      rw [map_itemNeighbor hneighbors] at hstep
      rw [List.map_cons, List.foldl_cons, List.map_cons, seedEntry]
      obtain ⟨count, hcount⟩ := exists_eq_mk hstep
      rw [hcount]
      exact ih hrest _ count

end Rows

/-- The request of a user with a profile. -/
def requestOf (userId : ℤ) (profile : Profile) (maxCandidates : ℤ) : RetrieverRequest where
  userId := userId
  profile := some profile
  maxCandidateCount := maxCandidates

/-- What a retriever returns for a request, as the tool holds it. -/
def recalled (response : Status × RetrieverResponse) : List (ℤ × ℚ) :=
  response.2.candidates.map fun candidate => ((candidate.itemId : ℤ), candidate.retrieveScore)

theorem recalled_retrieve (defaultMaxCandidateCount : ℤ)
    (doRetrieve : Stub RetrieverRequest RetrieverResponse) {userId : ℤ} (huser : 0 < userId)
    (profile : Profile) {maxCandidates : ℤ} (hcandidates : 0 < maxCandidates) :
  recalled (RetrieverBase.retrieve defaultMaxCandidateCount doRetrieve
      (requestOf userId profile maxCandidates))
    = recalled (doRetrieve (requestOf userId profile maxCandidates))
  := by
  have hproblem : RetrieverBase.requestProblem (requestOf userId profile maxCandidates) = none := by
    rw [RetrieverBase.requestProblem, requestOf, if_neg (by simp only; omega)]
    rfl
  obtain ⟨-, -, hcandidates⟩ :=
    RetrieverBase.retrieve_eq defaultMaxCandidateCount doRetrieve hproblem hcandidates
  rw [recalled, recalled, hcandidates]

/-- The item-based retriever returns the same whatever the order of its seeds. -/
theorem recalled_doRetrieve_itemCf {r : RetrieverItemCf} {find : ℕ → ℤ → List ItemNeighbor}
    (hanswers : r.itemSimilarityStore.Answers find) (hmultiplier : r.scoreMultiplier = 1)
    {userId : ℤ} {profile : Profile} {maxCandidates : ℤ} {seeds : List TriggerSeed}
    (hperm : seeds.Perm (r.buildTriggerSeeds (requestOf userId profile maxCandidates))) :
  recalled (r.doRetrieve (requestOf userId profile maxCandidates))
    = (fillResponseCandidates RetrieverItemCf.label 1 maxCandidates
        ((contributions ItemNeighbor.itemId ItemNeighbor.score (collectItemIdsToFilterOut profile)
          (seeds.map fun seed => (seed, find seed.entityId maxCandidates))).foldl
            Contribution.add [])).map
      fun candidate => ((candidate.itemId : ℤ), candidate.retrieveScore)
  := by
  by_cases hempty : r.buildTriggerSeeds (requestOf userId profile maxCandidates) = []
  · rw [hempty, List.perm_nil] at hperm
    simp [recalled, RetrieverItemCf.doRetrieve, hempty, hperm, contributions,
      fillResponseCandidates, sortCandidates]
  · have hcontributions := ((hperm.symm.map fun seed =>
      (seed, find seed.entityId maxCandidates)).flatMap_right
        fun found => (found.2.filter fun n : ItemNeighbor =>
          n.itemId ∉ collectItemIdsToFilterOut profile).map fun n =>
            Contribution.mk found.1 n.itemId n.score)
    have hbest := congrArg (List.map (Prod.map (Nat.cast : ℕ → ℤ) id))
      (@map_score_fillResponseCandidates_perm RetrieverItemCf.label _ zero_lt_one maxCandidates _ _
        hcontributions)
    rw [List.map_map, List.map_map] at hbest
    rw [RetrieverItemCf.doRetrieve_eq hanswers hempty, hmultiplier]
    exact hbest

/-- The tool recalls from similar items what the item-based retriever returns. -/
theorem aggregateItemCf_eq_retrieve {rows : List SimilarityRow}
    (hrows : ∀ row ∈ rows, Normalized row) {maxTriggerSeeds maxCandidates : ℤ}
    (htriggers : 0 < maxTriggerSeeds) (hcandidates : 0 < maxCandidates) (profile : Profile)
    {userId : ℤ} (huser : 0 < userId) {r : RetrieverItemCf}
    (hstore : r.itemSimilarityStore = .ofSingle fun itemId maxNeighborCount =>
      .ok ((itemStore rows).findNeighborsByItemId itemId maxNeighborCount))
    (hseeds : r.maxTriggerSeedCount = maxTriggerSeeds) (hmultiplier : r.scoreMultiplier = 1) :
  (aggregateItemCf (collectTriggerSeeds profile maxTriggerSeeds) (collectFilterItems profile)
      (rowsByEntityId rows) maxCandidates).1
    = recalled (r.retrieve (requestOf userId profile maxCandidates))
  := by
  have hanswers : r.itemSimilarityStore.Answers (itemStore rows).findNeighborsByItemId := by
    intro itemIds maxNeighborCount
    rw [hstore]
    exact Batch.mapM_eq_ok fun _ _ => rfl
  have hperm : (rankedSeeds profile maxTriggerSeeds).Perm
      (r.buildTriggerSeeds (requestOf userId profile maxCandidates)) := by
    rw [RetrieverItemCf.buildTriggerSeeds, hseeds]
    exact rankedSeeds_perm profile htriggers
  have hpositive : ∀ seed ∈ rankedSeeds profile maxTriggerSeeds,
      0 < seed.entityId ∧ 0 < seed.score := by
    intro seed hseed
    have hmem := hperm.mem_iff.mp hseed
    constructor
    · exact RetrieverItemCf.entityId_pos_of_mem_buildTriggerSeeds hmem
    · exact RetrieverItemCf.score_pos_of_mem_buildTriggerSeeds hmem
  have hfound : (rankedSeeds profile maxTriggerSeeds).map (fun seed =>
        (seed, (sliceTo (neighborsOf rows seed.entityId) maxCandidates).map itemNeighbor))
      = (rankedSeeds profile maxTriggerSeeds).map fun seed =>
        (seed, (itemStore rows).findNeighborsByItemId seed.entityId maxCandidates) := by
    apply List.map_congr_left
    intro seed hseed
    rw [findNeighborsByItemId_itemStore rows (hpositive seed hseed).1.ne' hcandidates]
  have hloop := @fst_foldl_neighborsOf rows hrows profile maxCandidates _
    (fun seed hseed => (hpositive seed hseed).2) [] 0
  rw [hfound, aggregateContributions_eq] at hloop
  rw [aggregateItemCf_eq_foldl, collectTriggerSeeds_eq profile htriggers]
  apply (congrArg (fun scores => sliceTo (sortScores scores) maxCandidates) hloop).trans
  rw [sliceTo_sortScores_scoresOf RetrieverItemCf.label hcandidates, RetrieverItemCf.retrieve,
    recalled_retrieve _ _ huser profile hcandidates,
    recalled_doRetrieve_itemCf hanswers hmultiplier hperm]

/-! ### Similar users -/

/-- The seed of a similar user. -/
def userSeed (n : SimilarityNeighbor) : TriggerSeed where
  entityId := n.neighborId.toNat
  score := n.score

/-- The neighbours that the loops over similar users do not skip. -/
structure Counted (userId : ℤ) (seenUsers : List ℤ) (neighbors : List SimilarityNeighbor) : Prop
    where
  nodup : (neighbors.map SimilarityNeighbor.neighborId).Nodup
  positive : ∀ n ∈ neighbors, 0 < n.neighborId ∧ 0 < n.score
  ne_user : ∀ n ∈ neighbors, n.neighborId ≠ userId
  fresh : ∀ n ∈ neighbors, n.neighborId ∉ seenUsers

/-- All of the first neighbours of a normalised row count. -/
theorem counted_sliceTo {row : SimilarityRow} (h : Normalized row) (n : ℤ) :
  Counted row.entityId [] (sliceTo row.neighbors n)
  := by
  constructor
  · rw [sliceTo]
    split <;> exact h.nodup.sublist ((List.take_sublist _ _).map _)
  · intro neighbor hneighbor
    exact h.positive neighbor (mem_of_mem_sliceTo hneighbor)
  · intro neighbor hneighbor
    exact h.ne_entity neighbor (mem_of_mem_sliceTo hneighbor)
  · simp

theorem Counted.tail {userId : ℤ} {seenUsers : List ℤ} {n : SimilarityNeighbor}
    {neighbors : List SimilarityNeighbor} (h : Counted userId seenUsers (n :: neighbors)) :
  Counted userId (n.neighborId :: seenUsers) neighbors
  := by
  obtain ⟨hnew, hnodup⟩ := List.nodup_cons.mp h.nodup
  constructor
  · exact hnodup
  · exact fun m hm => h.positive m (List.mem_cons_of_mem _ hm)
  · exact fun m hm => h.ne_user m (List.mem_cons_of_mem _ hm)
  · intro m hm hseen
    rcases List.mem_cons.mp hseen with heq | hseen
    · apply hnew
      rw [← heq]
      exact List.mem_map_of_mem hm
    · exact h.fresh m (List.mem_cons_of_mem _ hm) hseen

/-- The retriever takes every neighbour that counts as a seed. -/
theorem collectTriggerSeeds_map_userNeighbor {userId : ℤ} (huser : 0 < userId) {seenUsers : List ℤ}
    {neighbors : List SimilarityNeighbor} (h : Counted userId seenUsers neighbors) :
  RetrieverUserCf.collectTriggerSeeds userId.toNat (neighbors.map userNeighbor)
    = neighbors.map userSeed
  := by
  have hseeds : (neighbors.map userNeighbor).filterMap (RetrieverUserCf.triggerSeed userId.toNat)
      = neighbors.map userSeed := by
    rw [List.filterMap_map, ← List.filterMap_eq_map]
    apply List.filterMap_congr
    intro n hn
    obtain ⟨hid, hscore⟩ := h.positive n hn
    have hne := h.ne_user n hn
    have hcounts : ¬ (n.neighborId.toNat = 0 ∨ n.neighborId.toNat = userId.toNat ∨ n.score ≤ 0) := by
      rw [not_or, not_or, not_le]
      refine ⟨?_, ?_, hscore⟩ <;> omega
    rw [Function.comp_apply, RetrieverUserCf.triggerSeed, userNeighbor, if_neg hcounts]
    rfl
  have hnodup : ((neighbors.map userSeed).map (·.entityId)).Nodup := by
    rw [List.map_map]
    apply List.pairwise_map.mpr
    apply (List.pairwise_map.mp h.nodup).imp_of_mem
    intro m n hm hn hne heq
    apply hne
    have hmpos := (h.positive m hm).1
    have hnpos := (h.positive n hn).1
    simp only [Function.comp_apply, userSeed] at heq
    omega
  rw [RetrieverUserCf.collectTriggerSeeds_eq, hseeds, Keyed.firsts_of_nodup hnodup]

/-- The items of the neighbours' profiles are added to both in the same way. -/
theorem scores_foldl_addUserNeighbor {profile : Profile} (profiles : List (ℤ × Profile))
    {userId : ℤ} {neighbors : List SimilarityNeighbor} {loop : UserCfLoop}
    (h : Counted userId loop.seenUsers neighbors) {candidates : List (ℕ × CandidateScore)}
    (hscores : loop.scores = scoresOf candidates) :
  (neighbors.foldl (addUserNeighbor userId profiles (collectFilterItems profile)) loop).scores
    = scoresOf (aggregateContributions ScoredItem.itemId ScoredItem.score
        (collectItemIdsToFilterOut profile)
        (neighbors.map fun n => (userSeed n,
          ((profiles.lookup n.neighborId).map ProfileService.fillUserCfProfile).elim []
            RetrieverUserCf.collectNeighborCandidateItems))
        candidates)
  := by
  induction neighbors generalizing loop candidates with
  | nil => exact hscores
  | cons n neighbors ih =>
      obtain ⟨hid, hscore⟩ := h.positive n List.mem_cons_self
      have hcounts : ¬ (n.neighborId ≤ 0 ∨ n.neighborId = userId ∨ n.score ≤ 0) := by
        rw [not_or, not_or, not_le, not_le]
        exact ⟨hid, h.ne_user n List.mem_cons_self, hscore⟩
      rw [List.foldl_cons, List.map_cons, addUserNeighbor, if_neg hcounts,
        if_neg (h.fresh n List.mem_cons_self)]
      cases hprofile : profiles.lookup n.neighborId with
      | none => exact ih h.tail hscores
      | some neighborProfile =>
          have hstep := @fst_foldl_addScoredItem _ ScoredItem.itemId ScoredItem.score profile
            (userSeed n) hscore (RetrieverUserCf.collectNeighborCandidateItems
              (ProfileService.fillUserCfProfile neighborProfile)) candidates loop.filteredCount
          have hitems : (RetrieverUserCf.collectNeighborCandidateItems
              (ProfileService.fillUserCfProfile neighborProfile)).map
                (fun item => ((item.itemId : ℤ), item.score))
              = collectNeighborCandidateItems neighborProfile :=
            (collectNeighborCandidateItems_eq neighborProfile).symm
          rw [hitems, ← hscores] at hstep
          exact ih h.tail hstep

/-- The user-based retriever returns the best items of the profiles of its seeds. -/
theorem recalled_doRetrieve_userCf {r : RetrieverUserCf} {findProfile : ℤ → Option Profile}
    (hanswered : r.ProfilesAnswered findProfile) (hmultiplier : r.scoreMultiplier = 1)
    {userId : ℤ} {profile : Profile} {maxCandidates : ℤ} {seeds : List TriggerSeed}
    (hload : r.loadTriggerSeeds (requestOf userId profile maxCandidates) = .ok seeds)
    (hids : ∀ seed ∈ seeds, seed.entityId ≠ 0) :
  recalled (r.doRetrieve (requestOf userId profile maxCandidates))
    = (fillResponseCandidates RetrieverUserCf.label 1 maxCandidates
        ((contributions ScoredItem.itemId ScoredItem.score (collectItemIdsToFilterOut profile)
          (RetrieverUserCf.itemsByTriggerSeed findProfile seeds)).foldl Contribution.add [])).map
      fun candidate => ((candidate.itemId : ℤ), candidate.retrieveScore)
  := by
  simp only [RetrieverUserCf.doRetrieve, hload]
  split
  next hempty =>
    simp [recalled, List.isEmpty_iff.mp hempty, RetrieverUserCf.itemsByTriggerSeed, contributions,
      fillResponseCandidates, sortCandidates]
  next hempty =>
    simp only [RetrieverUserCf.loadTriggerUserProfiles_eq hanswered hids,
      RetrieverUserCf.aggregateCandidates_eq, hmultiplier, recalled]
    rfl

/-- The seeds of a user that has a row are its first neighbours. -/
theorem loadTriggerSeeds_userStore {rows : List SimilarityRow} {row : SimilarityRow}
    (hrow : (rowsByEntityId rows).lookup row.entityId = some row) (huser : 1 ≤ row.entityId)
    {maxUserNeighbors : ℤ} (hneighbors : 0 < maxUserNeighbors)
    (hcounted : Counted row.entityId [] (sliceTo row.neighbors maxUserNeighbors))
    {r : RetrieverUserCf}
    (hstore : r.userSimilarityStore = ⟨fun userId maxNeighborCount =>
      .ok ((userStore rows).findNeighborsByUserId userId maxNeighborCount)⟩)
    (hseeds : r.triggerSeedUserCount = maxUserNeighbors) (profile : Profile) (maxCandidates : ℤ) :
  r.loadTriggerSeeds (requestOf row.entityId profile maxCandidates)
    = .ok ((sliceTo row.neighbors maxUserNeighbors).map userSeed)
  := by
  have hrows : neighborsOf rows (row.entityId.toNat : ℤ) = row.neighbors := by
    rw [Int.toNat_of_nonneg (by omega), neighborsOf, hrow, Option.elim_some]
  have hfind : r.userSimilarityStore.findNeighborsByUserId row.entityId.toNat r.triggerSeedUserCount
      = .ok ((sliceTo row.neighbors maxUserNeighbors).map userNeighbor) := by
    rw [hstore, hseeds, ← hrows]
    exact congrArg Except.ok (findNeighborsByUserId_userStore rows (by omega) hneighbors)
  rw [RetrieverUserCf.loadTriggerSeeds_of_findNeighbors hfind]
  exact congrArg Except.ok (collectTriggerSeeds_map_userNeighbor huser hcounted)

/-- The items of the profiles of the seeds are those of the profiles of the neighbours. -/
theorem itemsByTriggerSeed_map_userSeed {userId : ℤ} {seenUsers : List ℤ}
    {neighbors : List SimilarityNeighbor} (hcounted : Counted userId seenUsers neighbors)
    (hmax : ∀ n ∈ neighbors, n.neighborId ≤ intMax) (profiles : List (ℤ × Profile)) :
  RetrieverUserCf.itemsByTriggerSeed (fun userId => profiles.lookup userId)
      (neighbors.map userSeed)
    = neighbors.map fun n => (userSeed n,
        ((profiles.lookup n.neighborId).map ProfileService.fillUserCfProfile).elim []
          RetrieverUserCf.collectNeighborCandidateItems)
  := by
  rw [RetrieverUserCf.itemsByTriggerSeed, List.map_map]
  apply List.map_congr_left
  intro n hn
  have hpos := (hcounted.positive n hn).1
  have hid : ((userSeed n).entityId : ℤ) = n.neighborId := Int.toNat_of_nonneg hpos.le
  rw [Function.comp_apply, RetrieverUserCf.profileOf, hid, if_pos (hmax n hn)]

/-- The tool recalls from similar users what the user-based retriever returns. -/
theorem aggregateUserCf_eq_retrieve {rows : List SimilarityRow}
    (hrows : ∀ row ∈ rows, Normalized row)
    (hids : ∀ row ∈ rows, 1 ≤ row.entityId ∧ ∀ n ∈ row.neighbors, n.neighborId ≤ intMax)
    {maxUserNeighbors maxCandidates : ℤ} (hneighbors : 0 < maxUserNeighbors)
    (hcandidates : 0 < maxCandidates) (profiles : List (ℤ × Profile)) (profile : Profile)
    {userId : ℤ} {row : SimilarityRow} (hrow : (rowsByEntityId rows).lookup userId = some row)
    {r : RetrieverUserCf} {service : ProfileService}
    (hstub : r.profileStub = service.batchGetUserCfProfiles)
    (hprofiles : service.profileStore.Answers fun userId => profiles.lookup userId)
    (hstore : r.userSimilarityStore = ⟨fun userId maxNeighborCount =>
      .ok ((userStore rows).findNeighborsByUserId userId maxNeighborCount)⟩)
    (hseeds : r.triggerSeedUserCount = maxUserNeighbors) (hmultiplier : r.scoreMultiplier = 1) :
  (aggregateUserCf userId row profiles (collectFilterItems profile) maxUserNeighbors
      maxCandidates).1
    = recalled (r.retrieve (requestOf userId profile maxCandidates))
  := by
  obtain ⟨hmem, rfl⟩ := mem_of_lookup_rowsByEntityId hrow
  obtain ⟨huser, hmax⟩ := hids row hmem
  have hcounted := counted_sliceTo (hrows row hmem) maxUserNeighbors
  have hanswered : r.ProfilesAnswered fun userId => profiles.lookup userId := by
    intro profileRequest
    rw [hstub]
    exact ProfileService.batchGetUserCfProfiles_eq hprofiles profileRequest
  have hload := loadTriggerSeeds_userStore hrow huser hneighbors hcounted hstore hseeds profile
    maxCandidates
  have hnonzero : ∀ seed ∈ (sliceTo row.neighbors maxUserNeighbors).map userSeed,
      seed.entityId ≠ 0 := by
    intro seed hseed
    obtain ⟨n, hn, rfl⟩ := List.mem_map.mp hseed
    have hpos := (hcounted.positive n hn).1
    simp only [userSeed]
    omega
  have hitems := itemsByTriggerSeed_map_userSeed hcounted
    (fun n hn => hmax n (mem_of_mem_sliceTo hn)) profiles
  have hscores := @scores_foldl_addUserNeighbor profile profiles _ _ {} hcounted [] rfl
  rw [← hitems, aggregateContributions_eq] at hscores
  rw [aggregateUserCf, RetrieverUserCf.retrieve, recalled_retrieve _ _ huser profile hcandidates,
    recalled_doRetrieve_userCf hanswered hmultiplier hload hnonzero,
    ← sliceTo_sortScores_scoresOf RetrieverUserCf.label hcandidates, ← hscores]

/-! ### Both recalls -/

theorem normalized_of_mapM {readers : NumberReaders} {documents : List Json}
    {entityField neighborField : String} {rows : List SimilarityRow}
    (h : documents.mapM (normalizeSimilarityRow readers · entityField neighborField) = .ok rows) :
  ∀ row ∈ rows, Normalized row
  := by
  intro row hrow
  obtain ⟨_, -, hdocument⟩ := Batch.exists_of_mem_mapM h hrow
  exact normalized_of_normalizeSimilarityRow hdocument

/-- Over the rows that the tool has normalised, it recalls what the retrievers return: the same items
with the same scores in the same order. -/
theorem recall_eq_retrieve (readers : NumberReaders) {itemDocuments userDocuments : List Json}
    {itemRows userRows : List SimilarityRow}
    (hitemRows : itemDocuments.mapM (normalizeSimilarityRow readers · "item_id" "item_id")
      = .ok itemRows)
    (huserRows : userDocuments.mapM (normalizeSimilarityRow readers · "user_id" "user_id")
      = .ok userRows)
    (hids : ∀ row ∈ userRows, (1 ≤ row.entityId ∧ row.entityId ≤ intMax)
      ∧ ∀ n ∈ row.neighbors, 1 ≤ n.neighborId ∧ n.neighborId ≤ intMax)
    {maxTriggerSeeds maxUserNeighbors maxCandidates : ℤ} (htriggers : 0 < maxTriggerSeeds)
    (hneighbors : 0 < maxUserNeighbors) (hcandidates : 0 < maxCandidates)
    (profiles : List (ℤ × Profile)) (profile : Profile) {userId : ℤ} (huser : 0 < userId)
    {itemCf : RetrieverItemCf} (hitemMultiplier : itemCf.scoreMultiplier = 1)
    (hitemSeeds : itemCf.maxTriggerSeedCount = maxTriggerSeeds)
    (hitemStore : itemCf.itemSimilarityStore = .ofSingle fun itemId maxNeighborCount =>
      .ok ((itemStore itemRows).findNeighborsByItemId itemId maxNeighborCount))
    {userCf : RetrieverUserCf} {service : ProfileService} (huserMultiplier : userCf.scoreMultiplier = 1)
    (huserSeeds : userCf.triggerSeedUserCount = maxUserNeighbors)
    (huserStore : userCf.userSimilarityStore = ⟨fun userId maxNeighborCount =>
      .ok ((userStore userRows).findNeighborsByUserId userId maxNeighborCount)⟩)
    (hstub : userCf.profileStub = service.batchGetUserCfProfiles)
    (hprofiles : service.profileStore.Answers fun userId => profiles.lookup userId) :
  (aggregateItemCf (collectTriggerSeeds profile maxTriggerSeeds) (collectFilterItems profile)
        (rowsByEntityId itemRows) maxCandidates).1
      = recalled (itemCf.retrieve (requestOf userId profile maxCandidates))
    ∧ ∀ row, (rowsByEntityId userRows).lookup userId = some row →
      (aggregateUserCf userId row profiles (collectFilterItems profile) maxUserNeighbors
          maxCandidates).1
        = recalled (userCf.retrieve (requestOf userId profile maxCandidates))
  := by
  constructor
  · exact aggregateItemCf_eq_retrieve (normalized_of_mapM hitemRows) htriggers hcandidates profile
      huser hitemStore hitemSeeds hitemMultiplier
  · intro row hrow
    have hids' : ∀ row ∈ userRows, 1 ≤ row.entityId ∧ ∀ n ∈ row.neighbors, n.neighborId ≤ intMax :=
      fun row hmem => ⟨(hids row hmem).1.1, fun n hn => ((hids row hmem).2 n hn).2⟩
    exact aggregateUserCf_eq_retrieve (normalized_of_mapM huserRows) hids' hneighbors hcandidates
      profiles profile hrow hstub hprofiles huserStore huserSeeds huserMultiplier

/-- A similarity document. -/
def sampleDocument (field : String) (id : ℤ) (neighbors : List (ℤ × ℚ)) : Json :=
  .object [(field, .int id), ("neighbors", .array (neighbors.map fun n =>
    .object [(field, .int n.1), ("score", .float n.2)]))]

/-- Item 20 is similar to item 1. -/
def sampleItemRows : List SimilarityRow :=
  [{ entityId := 1, neighbors := [{ neighborId := 20, score := 1 / 2 }] }]

/-- User 8 is similar to user 7. -/
def sampleUserRows : List SimilarityRow :=
  [{ entityId := 7, neighbors := [{ neighborId := 8, score := 1 / 2 }] }]

theorem defaultCandidateCount_pos : (0 : ℤ) < 10 := by decide

theorem defaultSeedCount_pos : (0 : ℤ) < 24 := by decide

theorem defaultBatchSize_pos : (0 : ℤ) < 8 := by decide

theorem defaultMultiplier_pos : (0 : ℚ) < 1 := by decide

/-- The item-based retriever over the sample. -/
def sampleItemCf : RetrieverItemCf where
  itemSimilarityStore := .ofSingle fun itemId maxNeighborCount =>
    .ok ((itemStore sampleItemRows).findNeighborsByItemId itemId maxNeighborCount)
  defaultMaxCandidateCount_pos := defaultCandidateCount_pos
  maxTriggerSeedCount_pos := defaultSeedCount_pos
  redisCommandBatchSize_pos := defaultBatchSize_pos
  scoreMultiplier_pos := defaultMultiplier_pos

/-- User 8 likes items 1 and 20. -/
def sampleProfiles : List (ℤ × Profile) :=
  [(8, { behaviors := { recentLikedItems := [⟨1, 0⟩, ⟨20, 0⟩] } })]

/-- The service over these profiles. -/
def sampleService : ProfileService where
  profileStore := ⟨fun userId => .ok (sampleProfiles.lookup userId)⟩

/-- The user-based retriever over the sample. -/
def sampleUserCf : RetrieverUserCf where
  userSimilarityStore := ⟨fun userId maxNeighborCount =>
    .ok ((userStore sampleUserRows).findNeighborsByUserId userId maxNeighborCount)⟩
  profileStub := sampleService.batchGetUserCfProfiles
  defaultMaxCandidateCount_pos := defaultCandidateCount_pos
  triggerSeedUserCount_pos := defaultCandidateCount_pos
  scoreMultiplier_pos := defaultMultiplier_pos

/-- Both recalls find the item that is similar to the liked one and that the similar user likes
second. -/
theorem recall_eq_retrieve_liked :
  recalled (sampleItemCf.retrieve (requestOf 7 { behaviors := { likedItems := [⟨1, 0⟩] } } 2))
      = [(20, 1 / 4)]
    ∧ recalled (sampleUserCf.retrieve (requestOf 7 { behaviors := { likedItems := [⟨1, 0⟩] } } 2))
      = [(20, 1 / 4)]
  := by
  have hitemRows : [sampleDocument "item_id" 1 [(1, 1), (20, 1 / 2), (20, 1), (-3, 1)]].mapM
      (normalizeSimilarityRow RedisItemSimilarityStore.noTexts · "item_id" "item_id")
        = .ok sampleItemRows := by
    decide +kernel
  have huserRows : [sampleDocument "user_id" 7 [(8, 1 / 2), (9, 0)]].mapM
      (normalizeSimilarityRow RedisItemSimilarityStore.noTexts · "user_id" "user_id")
        = .ok sampleUserRows := by
    decide +kernel
  have hrecall := @recall_eq_retrieve RedisItemSimilarityStore.noTexts _ _ _ _ hitemRows huserRows
    (by decide) 24 10 2 (by decide) (by decide) (by decide) sampleProfiles
    { behaviors := { likedItems := [⟨1, 0⟩] } } 7 (by decide) sampleItemCf rfl rfl rfl sampleUserCf
    sampleService rfl rfl rfl rfl (fun _ => rfl)
  rw [← hrecall.1, ← hrecall.2 { entityId := 7, neighbors := [{ neighborId := 8, score := 1 / 2 }] }
    (by decide +kernel)]
  decide +kernel

end FixtureRecall

end RecommendationEngine
