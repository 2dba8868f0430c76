import Mathlib.Data.Rat.Floor
import Mathlib.Tactic.NormNum
import ShootingStar.Lib.Batch
import ShootingStar.Retrieval.CandidateScores
import ShootingStar.Retrieval.WeightedItems

/-!
# Item-based retrieval

The retriever takes the items a user likes as seeds, looks up the items similar to each seed in
batches, and returns the best items found.  With a store that looks up each item, the result does
not depend on the batch size (`aggregateSimilarityCandidates_eq`).
-/

namespace RecommendationEngine

/-- A similar item. -/
structure ItemNeighbor where
  itemId : ℕ := 0
  score : ℚ := 0
  deriving DecidableEq, Repr

/-- The items similar to each of a list of items, or the message of the exception it throws. -/
structure ItemSimilarityStore where
  findNeighborsByItemIds : List ℕ → ℤ → Except String (List (List ItemNeighbor))

/-- A store that looks up one item at a time. -/
def ItemSimilarityStore.ofSingle (findNeighborsByItemId : ℕ → ℤ → Except String (List ItemNeighbor)) :
    ItemSimilarityStore where
  findNeighborsByItemIds itemIds maxNeighborCount :=
    itemIds.mapM fun itemId => findNeighborsByItemId itemId maxNeighborCount

/-- The store looks up each item with `find` and does not fail. -/
def ItemSimilarityStore.Answers (store : ItemSimilarityStore)
    (find : ℕ → ℤ → List ItemNeighbor) : Prop :=
  ∀ itemIds maxNeighborCount, store.findNeighborsByItemIds itemIds maxNeighborCount
    = .ok (itemIds.map fun itemId => find itemId maxNeighborCount)

/-- The options of the retriever. -/
structure RetrieverItemCf.Options where
  defaultMaxCandidateCount : ℤ := 10
  maxTriggerSeedCount : ℤ := 24
  redisCommandBatchSize : ℤ := 8
  scoreMultiplier : ℚ := 1
  deriving DecidableEq, Repr

/-- A retriever over similar items, with options that have been checked. -/
structure RetrieverItemCf extends RetrieverItemCf.Options where
  itemSimilarityStore : ItemSimilarityStore
  defaultMaxCandidateCount_pos : 0 < defaultMaxCandidateCount
  maxTriggerSeedCount_pos : 0 < maxTriggerSeedCount
  redisCommandBatchSize_pos : 0 < redisCommandBatchSize
  scoreMultiplier_pos : 0 < scoreMultiplier

namespace RetrieverItemCf

/-- The constructor, with the message of the exception it throws; a null store is `none`. -/
def create (store : Option ItemSimilarityStore) (options : Options) :
    Except String RetrieverItemCf :=
  match store with
  | none => .error "RetrieverItemCf item_similarity_store must not be null"
  | some store =>
    if hcount : options.defaultMaxCandidateCount ≤ 0 then
      .error "RetrieverItemCf default_max_candidate_count must be positive"
    else if hseeds : options.maxTriggerSeedCount ≤ 0 then
      .error "RetrieverItemCf max_trigger_seed_count must be positive"
    else if hbatch : options.redisCommandBatchSize ≤ 0 then
      .error "RetrieverItemCf redis_command_batch_size must be positive"
    else if hmultiplier : options.scoreMultiplier ≤ 0 then
      .error "RetrieverItemCf score_multiplier must be positive"
    else
      .ok {
        options with
        itemSimilarityStore := store
        defaultMaxCandidateCount_pos := lt_of_not_ge hcount
        maxTriggerSeedCount_pos := lt_of_not_ge hseeds
        redisCommandBatchSize_pos := lt_of_not_ge hbatch
        scoreMultiplier_pos := lt_of_not_ge hmultiplier }

section Rounded

variable [Arithmetic ℚ]

/-! ### Seeds -/

/-- The seeds of a profile: the items of three channels of different weight. -/
def collectTriggerSeeds (profile : Profile) : List TriggerSeed :=
  collectWeightedItems TriggerSeed.entityId TriggerSeed.mk
    (profile.behaviors.recentLikedItems, Arithmetic.literal 1)
    (profile.behaviors.likedItems, Arithmetic.literal (1 / 2))
    (profile.behaviors.interestedItems, Arithmetic.literal (3 / 10))

/-- The best seeds, when there are too many. -/
def selectTopTriggerSeeds (triggerSeeds : List TriggerSeed) (maxTriggerSeedCount : ℤ) :
    List TriggerSeed :=
  if maxTriggerSeedCount ≤ 0 ∨ triggerSeeds.length ≤ maxTriggerSeedCount.toNat then triggerSeeds
  else
    (Ranked.sortBy (Ranked.higherFirst TriggerSeed.score TriggerSeed.entityId) triggerSeeds).take
      maxTriggerSeedCount.toNat

/-- The seeds of a request. -/
def buildTriggerSeeds (r : RetrieverItemCf) (request : RetrieverRequest) : List TriggerSeed :=
  selectTopTriggerSeeds (collectTriggerSeeds (request.profile.getD {})) r.maxTriggerSeedCount

/-! ### Retrieval -/

/-- The contribution of a neighbour of a seed is added to the map. -/
def addCandidateContribution (triggerSeed : TriggerSeed) (neighbor : ItemNeighbor)
    (candidates : List (ℕ × CandidateScore)) : List (ℕ × CandidateScore) :=
  RecommendationEngine.addCandidateContribution triggerSeed neighbor.itemId neighbor.score
    candidates

/-- The neighbours of the seeds of one batch are added to the map. -/
def aggregateSimilarityBatch (itemIdsToFilterOut : List ℕ) (batch : List TriggerSeed)
    (neighborsByItemId : List (List ItemNeighbor)) (candidates : List (ℕ × CandidateScore)) :
    List (ℕ × CandidateScore) :=
  aggregateContributions ItemNeighbor.itemId ItemNeighbor.score itemIdsToFilterOut
    (batch.zip neighborsByItemId) candidates

/-- The neighbours of a batch are added one by one. -/
theorem aggregateSimilarityBatch_eq (itemIdsToFilterOut : List ℕ) (batch : List TriggerSeed)
    (neighborsByItemId : List (List ItemNeighbor)) (candidates : List (ℕ × CandidateScore)) :
  aggregateSimilarityBatch itemIdsToFilterOut batch neighborsByItemId candidates
    = (batch.zip neighborsByItemId).foldl
      (fun candidates (triggerSeed, neighbors) =>
        neighbors.foldl
          (fun candidates neighbor =>
            if neighbor.itemId ∈ itemIdsToFilterOut then candidates
            else addCandidateContribution triggerSeed neighbor candidates)
          candidates)
      candidates
  := rfl

/-- One turn of the loop over the batches. -/
def processBatch (r : RetrieverItemCf) (itemIdsToFilterOut : List ℕ) (maxCandidateCount : ℤ)
    (candidates : List (ℕ × CandidateScore)) (batch : List TriggerSeed) :
    Except String (List (ℕ × CandidateScore)) :=
  match r.itemSimilarityStore.findNeighborsByItemIds (batch.map (·.entityId)) maxCandidateCount with
  | .error message => .error message
  | .ok neighborsByItemId =>
    if neighborsByItemId.length ≠ batch.length then
      .error "ItemSimilarityStore batch lookup returned mismatched result size"
    else
      .ok (aggregateSimilarityBatch itemIdsToFilterOut batch neighborsByItemId candidates)

/-- The map of all neighbours of the seeds. -/
def aggregateSimilarityCandidates (r : RetrieverItemCf) (triggerSeeds : List TriggerSeed)
    (itemIdsToFilterOut : List ℕ) (maxCandidateCount : ℤ) :
    Except String (List (ℕ × CandidateScore)) :=
  (Batch.batches r.redisCommandBatchSize.toNat triggerSeeds).foldlM
    (r.processBatch itemIdsToFilterOut maxCandidateCount) []

/-- The name under which candidates are explained. -/
def kRetrieverName : String := "item_cf"

/-- The texts of the candidates. -/
def label : RetrieverLabel where
  name := kRetrieverName
  reasonType := .itemCf
  entityType := .item
  describe triggerItemId := s!"Retrieved from item_cf using trigger item {triggerItemId}."

/-- `DoRetrieve`. -/
def doRetrieve (r : RetrieverItemCf) : Stub RetrieverRequest RetrieverResponse := fun request =>
  let triggerSeeds := r.buildTriggerSeeds request
  if triggerSeeds.isEmpty then
    (.OK, {
      status := .emptyTriggerSeeds
      msg := "No valid trigger seeds found from user profile." })
  else
    let itemIdsToFilterOut := collectItemIdsToFilterOut (request.profile.getD {})
    match r.aggregateSimilarityCandidates triggerSeeds itemIdsToFilterOut
        request.maxCandidateCount with
    | .error message => (⟨.internal, message⟩, { status := .systemError, msg := message })
    | .ok candidates =>
      (.OK, {
        status := .success
        msg := ""
        candidates :=
          fillResponseCandidates label r.scoreMultiplier request.maxCandidateCount candidates })

/-- `Retrieve`. -/
def retrieve (r : RetrieverItemCf) : Stub RetrieverRequest RetrieverResponse :=
  RetrieverBase.retrieve r.defaultMaxCandidateCount r.doRetrieve

/-! ### What is retrieved -/

omit [Arithmetic ℚ] in
theorem mem_of_mem_selectTopTriggerSeeds {triggerSeeds : List TriggerSeed}
    {maxTriggerSeedCount : ℤ} {triggerSeed : TriggerSeed}
    (h : triggerSeed ∈ selectTopTriggerSeeds triggerSeeds maxTriggerSeedCount) :
  triggerSeed ∈ triggerSeeds
  := by
  rw [selectTopTriggerSeeds] at h
  split at h
  · exact h
  · exact Ranked.mem_sortBy.mp (List.mem_of_mem_take h)

/-- The map collects neighbours that are not left out. -/
theorem collected_aggregateSimilarityCandidates {r : RetrieverItemCf}
    {triggerSeeds : List TriggerSeed} {itemIdsToFilterOut : List ℕ} {maxCandidateCount : ℤ}
    {candidates : List (ℕ × CandidateScore)}
    (h : r.aggregateSimilarityCandidates triggerSeeds itemIdsToFilterOut maxCandidateCount
      = .ok candidates) :
  Collected itemIdsToFilterOut candidates
  := by
  apply Batch.of_foldlM_eq_ok _ (collected_nil itemIdsToFilterOut) h
  intro candidates batch candidates' hcollected hbatch
  rw [processBatch] at hbatch
  split at hbatch
  · cases hbatch
  · split at hbatch
    · cases hbatch
    · obtain rfl := Except.ok.inj hbatch
      exact hcollected.aggregateContributions _

/-- No candidate is item 0 or has been consumed. -/
theorem not_consumed_of_mem_doRetrieve {r : RetrieverItemCf} {request : RetrieverRequest}
    {candidate : CandidateItem} (h : candidate ∈ (r.doRetrieve request).2.candidates) :
  candidate.itemId ≠ 0 ∧ (candidate.itemId : ℤ) ∉ consumedItems (request.profile.getD {})
  := by
  simp only [doRetrieve] at h
  split at h
  · simp at h
  · split at h
    · simp at h
    next _ candidates hok =>
      exact not_consumed_of_mem_fillResponseCandidates
        (collected_aggregateSimilarityCandidates hok) h

section Answers

variable {r : RetrieverItemCf} {find : ℕ → ℤ → List ItemNeighbor}

/-- With a store that looks up each item, the neighbours of all seeds are added in order. -/
theorem aggregateSimilarityCandidates_eq (hstore : r.itemSimilarityStore.Answers find)
    (triggerSeeds : List TriggerSeed) (itemIdsToFilterOut : List ℕ) (maxCandidateCount : ℤ) :
  r.aggregateSimilarityCandidates triggerSeeds itemIdsToFilterOut maxCandidateCount
    = .ok (aggregateContributions ItemNeighbor.itemId ItemNeighbor.score itemIdsToFilterOut
        (triggerSeeds.map fun seed => (seed, find seed.entityId maxCandidateCount)) [])
  := by
  have hbatch : ∀ candidates, ∀ batch ∈ Batch.batches r.redisCommandBatchSize.toNat triggerSeeds,
      r.processBatch itemIdsToFilterOut maxCandidateCount candidates batch
        = .ok (batch.foldl (fun candidates seed =>
            aggregateContributions ItemNeighbor.itemId ItemNeighbor.score itemIdsToFilterOut
              [(seed, find seed.entityId maxCandidateCount)] candidates) candidates) := by
    intro candidates batch _
    have hzip : batch.zip ((batch.map (·.entityId)).map fun itemId => find itemId maxCandidateCount)
        = batch.map fun seed => (seed, find seed.entityId maxCandidateCount) := by
      have hid : (batch.map id).zip (batch.map fun seed => find seed.entityId maxCandidateCount)
          = batch.map fun seed => (id seed, find seed.entityId maxCandidateCount) := List.zip_map'
      rw [List.map_id] at hid
      rw [List.map_map]
      exact hid
    rw [processBatch, hstore]
    simp only [List.length_map, ne_eq, not_true, if_false, aggregateSimilarityBatch, hzip,
      aggregateContributions, List.foldl_map, List.foldl_cons, List.foldl_nil]
  rw [aggregateSimilarityCandidates, Batch.foldlM_eq_ok hbatch,
    Batch.foldl_batches (by have := r.redisCommandBatchSize_pos; omega), aggregateContributions,
    List.foldl_map]
  rfl

/-- A seed has a similar item that counts, with it, and has not been consumed. -/
def Finds (r : RetrieverItemCf) (find : ℕ → ℤ → List ItemNeighbor) (request : RetrieverRequest) :
    Prop :=
  ∃ seed ∈ r.buildTriggerSeeds request, ∃ neighbor ∈ find seed.entityId request.maxCandidateCount,
    neighbor.itemId ≠ 0 ∧ 0 < neighbor.score ∧ 0 < Arithmetic.mul seed.score neighbor.score
      ∧ (neighbor.itemId : ℤ) ∉ consumedItems (request.profile.getD {})

/-- The retrieval succeeds, and finds candidates exactly when there are some to be found. -/
theorem doRetrieve_of_answers (hstore : r.itemSimilarityStore.Answers find)
    {request : RetrieverRequest} (hmax : 0 < request.maxCandidateCount) :
  (r.doRetrieve request).1 = .OK
    ∧ ((r.doRetrieve request).2.status = .success
      ∨ (r.doRetrieve request).2.status = .emptyTriggerSeeds)
    ∧ ((r.doRetrieve request).2.candidates ≠ [] ↔ r.Finds find request)
  := by
  simp only [doRetrieve]
  split
  next hseeds =>
    refine ⟨rfl, Or.inr rfl, ?_⟩
    simp [Finds, List.isEmpty_iff.mp hseeds]
  next hseeds =>
    rw [aggregateSimilarityCandidates_eq hstore, aggregateContributions_eq]
    refine ⟨rfl, Or.inl rfl, (fillResponseCandidates_ne_nil hmax).trans ?_⟩
    simp only [mem_contributions]
    constructor
    · rintro ⟨_, ⟨_, hfound, neighbor, hneighbor, hfilter, rfl⟩, hid, hscore, hproduct⟩
      obtain ⟨seed, hseed, rfl⟩ := List.mem_map.mp hfound
      exact ⟨seed, hseed, neighbor, hneighbor, hid, hscore, hproduct,
        mt (mem_collectItemIdsToFilterOut hid).mpr hfilter⟩
    · rintro ⟨seed, hseed, neighbor, hneighbor, hid, hscore, hproduct, hconsumed⟩
      exact ⟨_, ⟨_, List.mem_map_of_mem hseed, neighbor, hneighbor,
        mt (mem_collectItemIdsToFilterOut hid).mp hconsumed, rfl⟩, hid, hscore, hproduct⟩

end Answers

/-! ### The selected seeds -/

/-- The channels of a profile in order, each with its base score. -/
def channels (profile : Profile) : List (List WeightedItem × ℚ) :=
  [(profile.behaviors.recentLikedItems, Arithmetic.literal 1),
    (profile.behaviors.likedItems, Arithmetic.literal (1 / 2)),
    (profile.behaviors.interestedItems, Arithmetic.literal (3 / 10))]

/-- A seed goes before another: it has a higher score, or the same score and a smaller item. -/
def Precedes (a b : TriggerSeed) : Prop :=
  b.score < a.score ∨ (a.score = b.score ∧ a.entityId < b.entityId)

omit [Arithmetic ℚ] in
theorem precedes_iff {a b : TriggerSeed} :
  Precedes a b
    ↔ Ranked.scoreRank TriggerSeed.score TriggerSeed.entityId a
      < Ranked.scoreRank TriggerSeed.score TriggerSeed.entityId b
  := Ranked.scoreRank_lt.symm

/-- The seeds of a profile are the first occurrences of its positive items. -/
theorem mem_collectTriggerSeeds {profile : Profile} {triggerSeed : TriggerSeed} :
  triggerSeed ∈ collectTriggerSeeds profile
    ↔ FirstOccurrence (channels profile) triggerSeed.entityId triggerSeed.score
  := by
  rw [collectTriggerSeeds, mem_collectWeightedItems (fun _ _ => rfl)]
  constructor
  · rintro ⟨score, hfirst, he⟩
    rw [he]
    exact hfirst
  · intro hfirst
    use triggerSeed.score, hfirst

theorem nodup_map_entityId_collectTriggerSeeds (profile : Profile) :
  ((collectTriggerSeeds profile).map (·.entityId)).Nodup
  := by
  rw [collectTriggerSeeds, collectWeightedItems_eq, Keyed.map_firsts]
  apply Keyed.nodup_eraseDups

theorem entityId_pos_of_mem_buildTriggerSeeds {r : RetrieverItemCf} {request : RetrieverRequest}
    {seed : TriggerSeed} (h : seed ∈ r.buildTriggerSeeds request) :
  0 < seed.entityId
  := (mem_collectTriggerSeeds.mp (mem_of_mem_selectTopTriggerSeeds h)).pos

/-- Every positive item has a seed. -/
theorem exists_mem_collectTriggerSeeds_of_pos {profile : Profile} {item : WeightedItem}
    (h : item ∈ (channels profile).flatMap Prod.fst) (hid : 0 < item.itemId) :
  ∃ triggerSeed ∈ collectTriggerSeeds profile, (triggerSeed.entityId : ℤ) = item.itemId
  := by
  have hnat : item.itemId = (item.itemId.toNat : ℤ) := (Int.toNat_of_nonneg hid.le).symm
  obtain ⟨score, hfirst⟩ := exists_firstOccurrence (by omega) ⟨item, h, hnat⟩
  use ⟨item.itemId.toNat, score⟩, mem_collectTriggerSeeds.mpr hfirst
  exact hnat.symm

omit [Arithmetic ℚ] in
/-- Seeds that fit are all kept. -/
theorem selectTopTriggerSeeds_of_le {triggerSeeds : List TriggerSeed} {maxTriggerSeedCount : ℤ}
    (h : (triggerSeeds.length : ℤ) ≤ maxTriggerSeedCount) :
  selectTopTriggerSeeds triggerSeeds maxTriggerSeedCount = triggerSeeds
  := by
  rw [selectTopTriggerSeeds, if_pos]
  omega

omit [Arithmetic ℚ] in
/-- When there are too many seeds, the best are kept in order. -/
theorem selectTopTriggerSeeds_of_lt {triggerSeeds : List TriggerSeed} {maxTriggerSeedCount : ℤ}
    (hnodup : (triggerSeeds.map (·.entityId)).Nodup) (hpos : 0 < maxTriggerSeedCount)
    (h : maxTriggerSeedCount < triggerSeeds.length) :
  ((selectTopTriggerSeeds triggerSeeds maxTriggerSeedCount).length : ℤ) = maxTriggerSeedCount
    ∧ (selectTopTriggerSeeds triggerSeeds maxTriggerSeedCount).Pairwise Precedes
    ∧ ∀ kept ∈ selectTopTriggerSeeds triggerSeeds maxTriggerSeedCount, ∀ other ∈ triggerSeeds,
      other ∉ selectTopTriggerSeeds triggerSeeds maxTriggerSeedCount → Precedes kept other
  := by
  have hcompares := Ranked.compares_higherFirst TriggerSeed.score TriggerSeed.entityId
  have hranks : (triggerSeeds.map
      (Ranked.scoreRank TriggerSeed.score TriggerSeed.entityId)).Nodup :=
    Ranked.nodup_map_scoreRank hnodup
  have hselect : selectTopTriggerSeeds triggerSeeds maxTriggerSeedCount
      = (Ranked.sortBy (Ranked.higherFirst TriggerSeed.score TriggerSeed.entityId)
          triggerSeeds).take maxTriggerSeedCount.toNat := by
    rw [selectTopTriggerSeeds, if_neg]
    omega
  rw [hselect]
  constructor
  · rw [List.length_take, Ranked.length_sortBy]
    omega
  · constructor
    · apply ((Ranked.pairwise_lt_sortBy hcompares hranks).sublist (List.take_sublist _ _)).imp
      intro a b hab
      exact precedes_iff.mpr hab
    · intro kept hkept other hother hdropped
      apply precedes_iff.mpr
      exact Ranked.rank_lt_of_not_mem_take hcompares hranks hkept hother hdropped

omit [Arithmetic ℚ] in
theorem nodup_map_entityId_selectTopTriggerSeeds {triggerSeeds : List TriggerSeed}
    (maxTriggerSeedCount : ℤ) (hnodup : (triggerSeeds.map (·.entityId)).Nodup) :
  ((selectTopTriggerSeeds triggerSeeds maxTriggerSeedCount).map (·.entityId)).Nodup
  := by
  rw [selectTopTriggerSeeds]
  split
  · exact hnodup
  · apply List.Nodup.sublist ((List.take_sublist _ _).map _)
    exact ((Ranked.sortBy_perm _ _).map _).nodup_iff.mpr hnodup

/-- The seeds used for a profile, at most `maxTriggerSeedCount`: the seeds collected are the
first occurrences of its positive items, and when there are too many the best are used. -/
structure Selects (profile : Profile) (maxTriggerSeedCount : ℤ) (triggerSeeds : List TriggerSeed) :
    Prop where
  distinct : (triggerSeeds.map (·.entityId)).Nodup
  positive : ∀ seed ∈ triggerSeeds, 0 < seed.entityId ∧ 0 < seed.score
  first : ∀ seed ∈ triggerSeeds, FirstOccurrence (channels profile) seed.entityId seed.score
  collected_distinct : ((collectTriggerSeeds profile).map (·.entityId)).Nodup
  mem_collected : ∀ seed, seed ∈ collectTriggerSeeds profile
    ↔ FirstOccurrence (channels profile) seed.entityId seed.score
  collected_of_pos : ∀ item ∈ (channels profile).flatMap Prod.fst, 0 < item.itemId →
    ∃ seed ∈ collectTriggerSeeds profile, (seed.entityId : ℤ) = item.itemId
  all_kept : (collectTriggerSeeds profile).length ≤ maxTriggerSeedCount →
    triggerSeeds = collectTriggerSeeds profile
  best_kept : maxTriggerSeedCount < (collectTriggerSeeds profile).length →
    triggerSeeds.length = maxTriggerSeedCount
      ∧ triggerSeeds.Pairwise Precedes
      ∧ ∀ kept ∈ triggerSeeds, ∀ other ∈ collectTriggerSeeds profile,
        other ∉ triggerSeeds → Precedes kept other

/-- A seed of a profile has a positive score. -/
theorem score_pos_of_ofMessage {profile : Profile} (hmessage : OfMessage (channels profile))
    {triggerSeed : TriggerSeed} (h : triggerSeed ∈ collectTriggerSeeds profile) :
  0 < triggerSeed.score
  := by
  obtain ⟨channel, hchannel, item, hitem, hid, index, hindex, rfl⟩ :=
    exists_of_mem_collectWeightedItems h
  have hchannel' : channel ∈ channels profile := hchannel
  have hlength := hmessage.length_le channel hchannel'
  apply weightedScore_pos_of_le _ (hmessage.le_weight channel hchannel' item hitem) (by omega)
  simp only [channels, List.mem_cons, List.not_mem_nil, or_false] at hchannel'
  rcases hchannel' with rfl | rfl | rfl
  · exact Arithmetic.le_literal (by decide) (by norm_num)
  · exact Arithmetic.le_literal (by decide) (by norm_num)
  · exact Arithmetic.le_literal (by decide) (by norm_num)

/-- The seeds of a request are the best of those of its profile, in whatever precision their scores
are computed. -/
theorem selects_buildTriggerSeeds (r : RetrieverItemCf) (request : RetrieverRequest)
    (hmessage : OfMessage (channels (request.profile.getD {}))) :
  Selects (request.profile.getD {}) r.maxTriggerSeedCount (r.buildTriggerSeeds request)
  := by
  have hnodup := nodup_map_entityId_collectTriggerSeeds (request.profile.getD {})
  constructor
  · exact nodup_map_entityId_selectTopTriggerSeeds r.maxTriggerSeedCount hnodup
  · intro seed hseed
    constructor
    · exact entityId_pos_of_mem_buildTriggerSeeds hseed
    · exact score_pos_of_ofMessage hmessage (mem_of_mem_selectTopTriggerSeeds hseed)
  · intro seed hseed
    exact mem_collectTriggerSeeds.mp (mem_of_mem_selectTopTriggerSeeds hseed)
  · exact hnodup
  · intro seed
    exact mem_collectTriggerSeeds
  · intro item hitem hid
    exact exists_mem_collectTriggerSeeds_of_pos hitem hid
  · exact selectTopTriggerSeeds_of_le
  · exact selectTopTriggerSeeds_of_lt hnodup r.maxTriggerSeedCount_pos

end Rounded

/-- A profile whose fifth liked item and third interesting item have the same exact score. -/
def tiedItems : Profile where
  behaviors := {
    likedItems := [⟨11, 0⟩, ⟨12, 0⟩, ⟨13, 0⟩, ⟨14, 0⟩, ⟨9, 0⟩]
    interestedItems := [⟨21, 0⟩, ⟨22, 0⟩, ⟨3, 0⟩] }

/-- Of the two items with the same exact score the seventh seed is the one whose score is greater in
double precision, though its identifier is greater too. -/
theorem selects_buildTriggerSeeds_tiedItems :
  letI : Arithmetic ℚ := Arithmetic.binary64
  ∃ triggerSeeds, Selects tiedItems 7 triggerSeeds
    ∧ triggerSeeds.map (·.entityId) = [11, 21, 12, 13, 22, 14, 9]
  := by
  let doubles : Arithmetic ℚ := Arithmetic.binary64
  let r : RetrieverItemCf := {
    maxTriggerSeedCount := 7
    itemSimilarityStore := ⟨fun ids _ => .ok (ids.map fun _ => [])⟩
    defaultMaxCandidateCount_pos := by decide
    maxTriggerSeedCount_pos := by decide
    redisCommandBatchSize_pos := by decide
    scoreMultiplier_pos := by decide }
  have hmessage : @OfMessage (@channels doubles tiedItems) := by
    constructor
    · decide +kernel
    · decide +kernel
  use @buildTriggerSeeds doubles r { profile := some tiedItems },
    @selects_buildTriggerSeeds doubles r { profile := some tiedItems } hmessage
  decide +kernel

/-! ### The weighted sums -/

/-- The seeds of a request, each with its neighbours. -/
def neighborsByTriggerSeed (r : RetrieverItemCf) (find : ℕ → ℤ → List ItemNeighbor)
    (request : RetrieverRequest) : List (TriggerSeed × List ItemNeighbor) :=
  (r.buildTriggerSeeds request).map fun seed => (seed, find seed.entityId request.maxCandidateCount)

/-- The items found for a request, each with the sum over its entries of the seed's score times
the entry's score, times the multiplier. -/
def scoredItems (r : RetrieverItemCf) (find : ℕ → ℤ → List ItemNeighbor)
    (request : RetrieverRequest) : List (ℕ × ℚ) :=
  let found := r.neighborsByTriggerSeed find request
  (foundItems ItemNeighbor.itemId ItemNeighbor.score
      (collectItemIdsToFilterOut (request.profile.getD {})) found).map fun id =>
    (id, r.scoreMultiplier * weightedSum ItemNeighbor.itemId ItemNeighbor.score found id)

/-- The lookup of a batch throws, or returns a wrong number of lists. -/
def BatchFails (r : RetrieverItemCf) (maxCandidateCount : ℤ) (batch : List TriggerSeed) : Prop :=
  ∀ neighborsByItemId,
    r.itemSimilarityStore.findNeighborsByItemIds (batch.map (·.entityId)) maxCandidateCount
      = .ok neighborsByItemId → neighborsByItemId.length ≠ batch.length

theorem processBatch_of_fails {r : RetrieverItemCf} {maxCandidateCount : ℤ}
    {batch : List TriggerSeed} (h : r.BatchFails maxCandidateCount batch)
    (itemIdsToFilterOut : List ℕ) (candidates : List (ℕ × CandidateScore)) :
  ∃ message, r.processBatch itemIdsToFilterOut maxCandidateCount candidates batch = .error message
  := by
  rw [processBatch]
  split
  next message _ => exact ⟨message, rfl⟩
  next neighborsByItemId hok =>
    rw [if_pos (h neighborsByItemId hok)]
    exact ⟨_, rfl⟩

theorem score_pos_of_mem_collectTriggerSeeds {profile : Profile} {triggerSeed : TriggerSeed}
    (h : triggerSeed ∈ collectTriggerSeeds profile) :
  0 < triggerSeed.score
  := by
  obtain ⟨channel, hchannel, item, -, -, index, -, rfl⟩ := exists_of_mem_collectWeightedItems h
  apply weightedScore_pos
  simp only [List.mem_cons, List.not_mem_nil, or_false] at hchannel
  rcases hchannel with rfl | rfl | rfl <;> norm_num

theorem score_pos_of_mem_buildTriggerSeeds {r : RetrieverItemCf} {request : RetrieverRequest}
    {seed : TriggerSeed} (h : seed ∈ r.buildTriggerSeeds request) :
  0 < seed.score
  := score_pos_of_mem_collectTriggerSeeds (mem_of_mem_selectTopTriggerSeeds h)

theorem score_pos_of_mem_neighborsByTriggerSeed (r : RetrieverItemCf)
    (find : ℕ → ℤ → List ItemNeighbor) (request : RetrieverRequest) :
  ∀ entry ∈ r.neighborsByTriggerSeed find request, 0 < entry.1.score
  := by
  intro entry hentry
  obtain ⟨seed, hseed, rfl⟩ := List.mem_map.mp hentry
  exact score_pos_of_mem_buildTriggerSeeds hseed

/-- With seeds and a store that looks up each item, the candidates are those of the items found
from the seeds. -/
theorem doRetrieve_eq {r : RetrieverItemCf} {find : ℕ → ℤ → List ItemNeighbor}
    (hstore : r.itemSimilarityStore.Answers find) {request : RetrieverRequest}
    (hseeds : r.buildTriggerSeeds request ≠ []) :
  r.doRetrieve request
    = (.OK, {
        status := .success
        msg := ""
        candidates := fillResponseCandidates label r.scoreMultiplier request.maxCandidateCount
          ((contributions ItemNeighbor.itemId ItemNeighbor.score
            (collectItemIdsToFilterOut (request.profile.getD {}))
            (r.neighborsByTriggerSeed find request)).foldl Contribution.add []) })
  := by
  have hempty : (r.buildTriggerSeeds request).isEmpty = false := List.isEmpty_eq_false_iff.mpr hseeds
  simp only [doRetrieve, hempty, Bool.false_eq_true, if_false,
    aggregateSimilarityCandidates_eq hstore, aggregateContributions_eq, neighborsByTriggerSeed]

/-- The candidates are the best of the items found, by weighted sum. -/
theorem map_score_doRetrieve {r : RetrieverItemCf} {find : ℕ → ℤ → List ItemNeighbor}
    (hstore : r.itemSimilarityStore.Answers find) {request : RetrieverRequest}
    (hseeds : r.buildTriggerSeeds request ≠ []) :
  (r.doRetrieve request).2.candidates.map (fun c => (c.itemId, c.retrieveScore))
    = bestItems request.maxCandidateCount (r.scoredItems find request)
  := by
  rw [doRetrieve_eq hstore hseeds]
  exact fillResponseCandidates_contributions r.scoreMultiplier_pos _
    (score_pos_of_mem_neighborsByTriggerSeed r find request)

/-- The retrieval returns the best items by weighted sum, whatever the batch size, and nothing
when the lookup of a batch fails. -/
theorem doRetrieve_weighted_sums (r : RetrieverItemCf) (request : RetrieverRequest)
    (hseeds : r.buildTriggerSeeds request ≠ []) :
  (∀ find, r.itemSimilarityStore.Answers find →
    (r.doRetrieve request).1 = .OK
      ∧ (r.doRetrieve request).2.status = .success
      ∧ (r.doRetrieve request).2.candidates.map (fun c => (c.itemId, c.retrieveScore))
        = bestItems request.maxCandidateCount (r.scoredItems find request)
      ∧ ((r.doRetrieve request).2.candidates.map (·.itemId)).Nodup
      ∧ (∀ c ∈ (r.doRetrieve request).2.candidates, 0 < c.retrieveScore)
      ∧ ∀ batchSize (hbatch : 0 < batchSize),
        doRetrieve { r with
          redisCommandBatchSize := batchSize
          redisCommandBatchSize_pos := hbatch } request = r.doRetrieve request)
    ∧ ((∃ batch ∈ Batch.batches r.redisCommandBatchSize.toNat (r.buildTriggerSeeds request),
        r.BatchFails request.maxCandidateCount batch) →
      (r.doRetrieve request).1.code = .internal
        ∧ (r.doRetrieve request).2.status = .systemError
        ∧ (r.doRetrieve request).2.candidates = [])
  := by
  constructor
  · intro find hstore
    have hscores := map_score_doRetrieve hstore hseeds
    rw [doRetrieve_eq hstore hseeds] at hscores ⊢
    refine ⟨rfl, rfl, hscores, nodup_map_itemId_of_bestItems hscores nodup_foundItems, ?_, ?_⟩
    · intro candidate hcandidate
      apply retrieveScore_pos_of_bestItems hscores _ hcandidate
      intro id hid
      exact mul_pos r.scoreMultiplier_pos
        (weightedSum_pos (score_pos_of_mem_neighborsByTriggerSeed r find request) hid)
    · intro batchSize hbatch
      apply doRetrieve_eq (r := { r with
        redisCommandBatchSize := batchSize
        redisCommandBatchSize_pos := hbatch }) hstore hseeds
  · rintro ⟨batch, hbatch, hfails⟩
    obtain ⟨message, herror⟩ := Batch.exists_foldlM_eq_error hbatch
      (processBatch_of_fails hfails (collectItemIdsToFilterOut (request.profile.getD {}))) []
    have hempty : (r.buildTriggerSeeds request).isEmpty = false :=
      List.isEmpty_eq_false_iff.mpr hseeds
    have haggregate : r.aggregateSimilarityCandidates (r.buildTriggerSeeds request)
        (collectItemIdsToFilterOut (request.profile.getD {})) request.maxCandidateCount
          = .error message := herror
    simp only [doRetrieve, hempty, Bool.false_eq_true, if_false, haggregate]
    exact ⟨trivial, trivial, trivial⟩

/-- Two liked items share a neighbour: its two weighted scores add up. -/
theorem doRetrieve_weighted_sums_shared :
  ∃ r : RetrieverItemCf, (r.doRetrieve {
      userId := 7
      maxCandidateCount := 1
      profile := some { behaviors := { likedItems := [⟨1, 0⟩, ⟨2, 0⟩] } } }).2.candidates.map
        (fun c => (c.itemId, c.retrieveScore))
      = [(20, 9 / 20)]
  := by
  use {
    itemSimilarityStore := ⟨fun ids _ => .ok (ids.map fun id => [⟨20, 3 / 5⟩, ⟨id, 1⟩])⟩
    defaultMaxCandidateCount_pos := by decide
    maxTriggerSeedCount_pos := by decide
    redisCommandBatchSize_pos := by decide
    scoreMultiplier_pos := by decide }
  rw [((doRetrieve_weighted_sums _ _ (by decide +kernel)).1 (fun id _ => [⟨20, 3 / 5⟩, ⟨id, 1⟩])
    (fun _ _ => rfl)).2.2.1]
  decide +kernel

end RetrieverItemCf

end RecommendationEngine
