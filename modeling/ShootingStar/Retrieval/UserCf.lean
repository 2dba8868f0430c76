import Mathlib.Tactic.NormNum
import ShootingStar.Lib.Batch
import ShootingStar.Profile.ProfileService
import ShootingStar.Retrieval.CandidateScores
import ShootingStar.Retrieval.WeightedItems

/-!
# User-based retrieval

The retriever takes the users similar to a user as seeds, fetches their profiles in one batch,
and returns the best of the items they like.  The users with invalid identifiers are left out of
the batch, and each seed gets the profile of its own user (`loadTriggerUserProfiles_eq`).
-/

namespace RecommendationEngine

/-- A similar user. -/
structure UserNeighbor where
  userId : ℕ := 0
  score : ℚ := 0
  deriving DecidableEq, Repr

/-- The users similar to a user, or the message of the exception it throws. -/
structure UserSimilarityStore where
  findNeighborsByUserId : ℕ → ℤ → Except String (List UserNeighbor)

/-- The store looks up each user with `find` and does not fail. -/
def UserSimilarityStore.Answers (store : UserSimilarityStore)
    (find : ℕ → ℤ → List UserNeighbor) : Prop :=
  ∀ userId maxNeighborCount,
    store.findNeighborsByUserId userId maxNeighborCount = .ok (find userId maxNeighborCount)

/-- An item of a similar user. -/
structure ScoredItem where
  itemId : ℕ := 0
  score : ℚ := 0
  deriving DecidableEq, Repr

/-- The batch lookup of the profile service. -/
abbrev ProfileStub := Stub BatchGetUserCfProfilesRequest BatchGetUserCfProfilesResponse

/-- The options of the retriever. -/
structure RetrieverUserCf.Options where
  defaultMaxCandidateCount : ℤ := 10
  triggerSeedUserCount : ℤ := 10
  scoreMultiplier : ℚ := 1
  deriving DecidableEq, Repr

/-- The options the constructor accepts. -/
structure RetrieverUserCf.ValidOptions extends RetrieverUserCf.Options where
  defaultMaxCandidateCount_pos : 0 < defaultMaxCandidateCount
  triggerSeedUserCount_pos : 0 < triggerSeedUserCount
  scoreMultiplier_pos : 0 < scoreMultiplier

/-- A retriever over similar users, with options that have been checked. -/
structure RetrieverUserCf extends RetrieverUserCf.ValidOptions where
  userSimilarityStore : UserSimilarityStore
  profileStub : ProfileStub

namespace RetrieverUserCf

/-- The constructor, with the message of the exception it throws; a null pointer is `none`. -/
def create (store : Option UserSimilarityStore) (profileStub : Option ProfileStub)
    (options : Options) : Except String RetrieverUserCf :=
  match store, profileStub with
  | none, _ => .error "RetrieverUserCf user_similarity_store must not be null"
  | some _, none => .error "RetrieverUserCf profile_stub must not be null"
  | some store, some profileStub =>
    if hcount : options.defaultMaxCandidateCount ≤ 0 then
      .error "RetrieverUserCf default_max_candidate_count must be positive"
    else if hseeds : options.triggerSeedUserCount ≤ 0 then
      .error "RetrieverUserCf trigger_seed_user_count must be positive"
    else if hmultiplier : options.scoreMultiplier ≤ 0 then
      .error "RetrieverUserCf score_multiplier must be positive"
    else
      .ok {
        options with
        userSimilarityStore := store
        profileStub := profileStub
        defaultMaxCandidateCount_pos := lt_of_not_ge hcount
        triggerSeedUserCount_pos := lt_of_not_ge hseeds
        scoreMultiplier_pos := lt_of_not_ge hmultiplier }

/-! ### Seeds -/

/-- The seed of a similar user; the user itself, user 0 and a score that is not positive give
none. -/
def triggerSeed (requestUserId : ℕ) (userNeighbor : UserNeighbor) : Option TriggerSeed :=
  if userNeighbor.userId = 0 ∨ userNeighbor.userId = requestUserId ∨ userNeighbor.score ≤ 0 then
    none
  else some { entityId := userNeighbor.userId, score := userNeighbor.score }

/-- The similar users in order; a user seen before is skipped. -/
def collectTriggerSeeds (requestUserId : ℕ) (userNeighbors : List UserNeighbor) :
    List TriggerSeed :=
  (userNeighbors.foldl (Keyed.addUnseen TriggerSeed.entityId (triggerSeed requestUserId))
    ([], [])).2

/-- The seeds are the first entries of the similar users that count. -/
theorem collectTriggerSeeds_eq (requestUserId : ℕ) (userNeighbors : List UserNeighbor) :
  collectTriggerSeeds requestUserId userNeighbors
    = Keyed.firsts TriggerSeed.entityId (userNeighbors.filterMap (triggerSeed requestUserId))
  := (Keyed.foldl_addUnseen _ _ _ (Keyed.seen_nil _)).2

/-- The seeds of a request, or the message of the exception of the store. -/
def loadTriggerSeeds (r : RetrieverUserCf) (request : RetrieverRequest) :
    Except String (List TriggerSeed) :=
  let requestUserId := request.userId.toNat
  (r.userSimilarityStore.findNeighborsByUserId requestUserId r.triggerSeedUserCount).map
    (collectTriggerSeeds requestUserId)

/-! ### Profiles -/

/-- The users asked for in a batch. -/
def isValidUserId (userId : ℕ) : Bool :=
  !(userId = 0 || int64Max < (userId : ℤ))

/-- The profile of a result, if it is a success. -/
def resultProfile (result : UserCfProfileResult) : Option UserCfProfile :=
  if result.status = .success then some result.profile else none

/-- The profiles of the seeds, or the message of the exception it throws. -/
def loadTriggerUserProfiles (r : RetrieverUserCf) (triggerSeeds : List TriggerSeed) :
    Except String (List (Option UserCfProfile)) :=
  let triggerUserIds := triggerSeeds.map (·.entityId)
  let triggerUserProfiles := triggerUserIds.map fun _ => none
  let userIds := (triggerUserIds.filter isValidUserId).map fun userId : ℕ => (userId : ℤ)
  let validIndexes := Batch.indexesFrom isValidUserId triggerUserIds 0
  if validIndexes.isEmpty then .ok triggerUserProfiles
  else
    let (status, response) := r.profileStub { userIds := userIds }
    if !status.isOk then .error s!"Failed to fetch user_cf profiles: {status.message}"
    else if response.status ≠ .success then
      .error (s!"Profile service returned status {response.status.toInt}"
        ++ " for user_cf profile batch.")
    else if response.results.length ≠ validIndexes.length then
      .error "Profile service user_cf batch returned mismatched result size"
    else .ok (Batch.scatter resultProfile validIndexes response.results triggerUserProfiles)

section Answers

variable {r : RetrieverUserCf} {findProfile : ℤ → Option Profile}

/-- A seed is a similar user that counts. -/
theorem mem_of_mem_collectTriggerSeeds {requestUserId : ℕ} {userNeighbors : List UserNeighbor}
    {seed : TriggerSeed} (h : seed ∈ collectTriggerSeeds requestUserId userNeighbors) :
  ∃ neighbor ∈ userNeighbors, neighbor.userId ≠ 0 ∧ neighbor.userId ≠ requestUserId
    ∧ 0 < neighbor.score ∧ seed = ⟨neighbor.userId, neighbor.score⟩
  := by
  rw [collectTriggerSeeds_eq] at h
  obtain ⟨neighbor, hneighbor, hseed⟩ :=
    List.mem_filterMap.mp ((Keyed.firsts_sublist _ _).subset h)
  rw [triggerSeed] at hseed
  split at hseed
  · cases hseed
  next hcounts =>
    simp only [not_or, not_le] at hcounts
    exact ⟨neighbor, hneighbor, hcounts.1, hcounts.2.1, hcounts.2.2, (Option.some.inj hseed).symm⟩

theorem entityId_ne_zero_of_mem_collectTriggerSeeds {requestUserId : ℕ}
    {userNeighbors : List UserNeighbor} {seed : TriggerSeed}
    (h : seed ∈ collectTriggerSeeds requestUserId userNeighbors) :
  seed.entityId ≠ 0
  := by
  obtain ⟨_, -, hid, -, -, rfl⟩ := mem_of_mem_collectTriggerSeeds h
  exact hid

/-- The seeds are those of the neighbours found. -/
theorem loadTriggerSeeds_of_findNeighbors {request : RetrieverRequest}
    {userNeighbors : List UserNeighbor}
    (h : r.userSimilarityStore.findNeighborsByUserId request.userId.toNat r.triggerSeedUserCount
      = .ok userNeighbors) :
  r.loadTriggerSeeds request = .ok (collectTriggerSeeds request.userId.toNat userNeighbors)
  := by
  rw [loadTriggerSeeds, h]
  rfl

/-- The profile service answers a batch with the profiles that `findProfile` looks up. -/
def ProfilesAnswered (r : RetrieverUserCf) (findProfile : ℤ → Option Profile) : Prop :=
  ∀ request : BatchGetUserCfProfilesRequest, r.profileStub request
    = (.OK, {
        status := .success
        msg := ""
        results := request.userIds.map (ProfileService.resultOf findProfile) })

/-- The profile of a seed. -/
def profileOf (findProfile : ℤ → Option Profile) (userId : ℕ) : Option UserCfProfile :=
  if (userId : ℤ) ≤ intMax then (findProfile userId).map ProfileService.fillUserCfProfile else none

theorem resultProfile_resultOf {userId : ℕ} (hid : userId ≠ 0) :
  resultProfile (ProfileService.resultOf findProfile userId) = profileOf findProfile userId
  := by
  by_cases h : (userId : ℤ) ≤ intMax
  · have hvalid : ¬((userId : ℤ) ≤ 0 ∨ intMax < (userId : ℤ)) := by omega
    rw [profileOf, if_pos h, ProfileService.resultOf, if_neg hvalid]
    cases findProfile userId <;> rfl
  · have hinvalid : (userId : ℤ) ≤ 0 ∨ intMax < (userId : ℤ) := by omega
    rw [profileOf, if_neg h, ProfileService.resultOf, if_pos hinvalid]
    rfl

/-- Users left out of the batch have no profile. -/
theorem profile_of_validity {userId : ℕ} (hid : userId ≠ 0) :
  (if isValidUserId userId then resultProfile (ProfileService.resultOf findProfile userId)
    else none) = profileOf findProfile userId
  := by
  split
  next h => exact resultProfile_resultOf hid
  next h =>
    have hlarge : ¬(userId : ℤ) ≤ intMax := by
      have hinvalid : int64Max < userId := by simpa [isValidUserId, hid] using h
      rw [int64Max] at hinvalid
      rw [intMax]
      omega
    rw [profileOf, if_neg hlarge]

/-- Every seed gets the profile of its own user. -/
theorem loadTriggerUserProfiles_eq (hprofiles : r.ProfilesAnswered findProfile)
    {triggerSeeds : List TriggerSeed} (hids : ∀ seed ∈ triggerSeeds, seed.entityId ≠ 0) :
  r.loadTriggerUserProfiles triggerSeeds
    = .ok (triggerSeeds.map fun seed => profileOf findProfile seed.entityId)
  := by
  have hscatter := Batch.scatter_filter resultProfile isValidUserId
    (fun userId : ℕ => ProfileService.resultOf findProfile userId) (triggerSeeds.map (·.entityId))
  have hprofile : ∀ userId ∈ triggerSeeds.map (·.entityId),
      (if isValidUserId userId then resultProfile (ProfileService.resultOf findProfile userId)
        else none) = profileOf findProfile userId := by
    intro userId hmem
    obtain ⟨seed, hseed, rfl⟩ := List.mem_map.mp hmem
    exact profile_of_validity (hids seed hseed)
  have hall : (triggerSeeds.map (·.entityId)).map (profileOf findProfile)
      = triggerSeeds.map fun seed => profileOf findProfile seed.entityId := List.map_map
  rw [List.map_congr_left hprofile, hall] at hscatter
  simp only [loadTriggerUserProfiles, hprofiles _, Status.isOk_OK, Bool.not_true,
    Bool.false_eq_true, if_false, ne_eq, not_true, List.length_map, Batch.length_indexesFrom]
  split
  next hempty =>
    rw [List.isEmpty_iff.mp hempty] at hscatter
    exact congrArg Except.ok hscatter
  next hempty =>
    rw [List.map_map]
    exact congrArg Except.ok hscatter

end Answers

/-! ### Retrieval -/

section Rounded

variable [Arithmetic ℚ]

/-- The items of a similar user: the items of three channels of different weight. -/
def collectNeighborCandidateItems (profile : UserCfProfile) : List ScoredItem :=
  collectWeightedItems ScoredItem.itemId ScoredItem.mk
    (profile.recentLikedItems, Arithmetic.literal 1)
    (profile.likedItems, Arithmetic.literal (7 / 10))
    (profile.interestedItems, Arithmetic.literal (3 / 10))

/-- The contribution of an item of a similar user is added to the map. -/
def addCandidateContribution (triggerSeed : TriggerSeed) (neighborItem : ScoredItem)
    (candidates : List (ℕ × CandidateScore)) : List (ℕ × CandidateScore) :=
  RecommendationEngine.addCandidateContribution triggerSeed neighborItem.itemId neighborItem.score
    candidates

/-- The map of the items of the similar users; a seed without a profile gives none. -/
def aggregateCandidates (triggerSeeds : List TriggerSeed)
    (triggerUserProfiles : List (Option UserCfProfile)) (itemIdsToFilterOut : List ℕ) :
    List (ℕ × CandidateScore) :=
  let neighborItems := triggerUserProfiles.map fun profile =>
    profile.elim [] collectNeighborCandidateItems
  aggregateContributions ScoredItem.itemId ScoredItem.score itemIdsToFilterOut
    (triggerSeeds.zip neighborItems) []

/-- The items of the similar users are added one by one. -/
theorem aggregateCandidates_eq_foldl (triggerSeeds : List TriggerSeed)
    (triggerUserProfiles : List (Option UserCfProfile)) (itemIdsToFilterOut : List ℕ) :
  aggregateCandidates triggerSeeds triggerUserProfiles itemIdsToFilterOut
    = (triggerSeeds.zip (triggerUserProfiles.map fun profile =>
        profile.elim [] collectNeighborCandidateItems)).foldl
      (fun candidates (triggerSeed, neighborItems) =>
        neighborItems.foldl
          (fun candidates neighborItem =>
            if neighborItem.itemId ∈ itemIdsToFilterOut then candidates
            else addCandidateContribution triggerSeed neighborItem candidates)
          candidates)
      []
  := rfl

/-- The name under which candidates are explained. -/
def kRetrieverName : String := "user_cf"

/-- The texts of the candidates. -/
def label : RetrieverLabel where
  name := kRetrieverName
  reasonType := .userCf
  entityType := .user
  describe similarUserId := s!"Retrieved from user_cf using similar user {similarUserId}."

/-- `DoRetrieve`. -/
def doRetrieve (r : RetrieverUserCf) : Stub RetrieverRequest RetrieverResponse := fun request =>
  match r.loadTriggerSeeds request with
  | .error message => (⟨.internal, message⟩, { status := .systemError, msg := message })
  | .ok triggerSeeds =>
    if triggerSeeds.isEmpty then
      (.OK, {
        status := .emptyTriggerSeeds
        msg := "No similar users available as trigger seeds." })
    else
      let itemIdsToFilterOut := collectItemIdsToFilterOut (request.profile.getD {})
      match r.loadTriggerUserProfiles triggerSeeds with
      | .error message => (⟨.internal, message⟩, { status := .systemError, msg := message })
      | .ok triggerUserProfiles =>
        (.OK, {
          status := .success
          msg := ""
          candidates :=
            fillResponseCandidates label r.scoreMultiplier request.maxCandidateCount
              (aggregateCandidates triggerSeeds triggerUserProfiles itemIdsToFilterOut) })

/-- `Retrieve`. -/
def retrieve (r : RetrieverUserCf) : Stub RetrieverRequest RetrieverResponse :=
  RetrieverBase.retrieve r.defaultMaxCandidateCount r.doRetrieve

/-! ### What is retrieved -/

/-- No candidate is item 0 or has been consumed. -/
theorem not_consumed_of_mem_doRetrieve {r : RetrieverUserCf} {request : RetrieverRequest}
    {candidate : CandidateItem} (h : candidate ∈ (r.doRetrieve request).2.candidates) :
  candidate.itemId ≠ 0 ∧ (candidate.itemId : ℤ) ∉ consumedItems (request.profile.getD {})
  := by
  simp only [doRetrieve] at h
  split at h
  · simp at h
  · split at h
    · simp at h
    · split at h
      · simp at h
      · apply not_consumed_of_mem_fillResponseCandidates _ h
        exact (collected_nil _).aggregateContributions _

section Answers

variable {r : RetrieverUserCf} {find : ℕ → ℤ → List UserNeighbor}
  {findProfile : ℤ → Option Profile}

/-- The channels of a similar user in order, each with its base score. -/
def channels (profile : UserCfProfile) : List (List WeightedItem × ℚ) :=
  [(profile.recentLikedItems, Arithmetic.literal 1),
    (profile.likedItems, Arithmetic.literal (7 / 10)),
    (profile.interestedItems, Arithmetic.literal (3 / 10))]

/-- A seed has a stored profile with an item that counts, with it, and has not been consumed. -/
def Finds (r : RetrieverUserCf) (find : ℕ → ℤ → List UserNeighbor)
    (findProfile : ℤ → Option Profile) (request : RetrieverRequest) : Prop :=
  ∃ seed ∈ collectTriggerSeeds request.userId.toNat
      (find request.userId.toNat r.triggerSeedUserCount),
    ∃ profile, profileOf findProfile seed.entityId = some profile
      ∧ ∃ id score, FirstOccurrence (channels profile) id score
        ∧ 0 < score ∧ 0 < Arithmetic.mul seed.score score
        ∧ (id : ℤ) ∉ consumedItems (request.profile.getD {})

/-- The items of a similar user are the first occurrences in its channels. -/
theorem mem_collectNeighborCandidateItems {profile : UserCfProfile} {item : ScoredItem} :
  item ∈ collectNeighborCandidateItems profile
    ↔ FirstOccurrence (channels profile) item.itemId item.score
  := by
  rw [collectNeighborCandidateItems, mem_collectWeightedItems (fun _ _ => rfl)]
  constructor
  · rintro ⟨score, hfirst, he⟩
    rw [he]
    exact hfirst
  · intro hfirst
    use item.score, hfirst

/-- An item of a seed is one of the stored profile of its user. -/
theorem exists_item_of_profile {userId : ℕ} {item : ScoredItem}
    (h : item ∈ (profileOf findProfile userId).elim [] collectNeighborCandidateItems) :
  ∃ profile, findProfile userId = some profile
    ∧ ∃ liked ∈ profile.behaviors.recentLikedItems ++ profile.behaviors.likedItems
        ++ profile.behaviors.interestedItems,
      0 < liked.itemId ∧ liked.itemId = item.itemId
  := by
  rw [profileOf] at h
  split at h
  next hid =>
    cases hprofile : findProfile userId with
    | none => simp [hprofile] at h
    | some profile =>
        rw [hprofile] at h
        obtain ⟨channel, hchannel, liked, hliked, hpos, index, -, rfl⟩ :=
          exists_of_mem_collectWeightedItems h
        refine ⟨profile, rfl, liked, ?_, hpos, (Int.toNat_of_nonneg hpos.le).symm⟩
        simp only [List.mem_cons, List.not_mem_nil, or_false] at hchannel
        rcases hchannel with rfl | rfl | rfl
        · exact List.mem_append_left _ (List.mem_append_left _ hliked)
        · exact List.mem_append_left _ (List.mem_append_right _ hliked)
        · exact List.mem_append_right _ hliked
  next hid => cases h

/-- The map collects the items of the seeds. -/
theorem aggregateCandidates_eq (triggerSeeds : List TriggerSeed)
    (profile : TriggerSeed → Option UserCfProfile) (itemIdsToFilterOut : List ℕ) :
  aggregateCandidates triggerSeeds (triggerSeeds.map profile) itemIdsToFilterOut
    = (contributions ScoredItem.itemId ScoredItem.score itemIdsToFilterOut
        (triggerSeeds.map fun seed =>
          (seed, (profile seed).elim [] collectNeighborCandidateItems))).foldl Contribution.add []
  := by
  have hzip : (triggerSeeds.map id).zip
        (triggerSeeds.map fun seed => (profile seed).elim [] collectNeighborCandidateItems)
      = triggerSeeds.map fun seed =>
        (id seed, (profile seed).elim [] collectNeighborCandidateItems) := List.zip_map'
  rw [List.map_id] at hzip
  rw [← aggregateContributions_eq]
  simp only [aggregateCandidates, List.map_map]
  exact congrArg (aggregateContributions _ _ _ · []) hzip

/-- The retrieval succeeds, and finds candidates exactly when there are some to be found. -/
theorem doRetrieve_of_answers (hstore : r.userSimilarityStore.Answers find)
    (hprofiles : r.ProfilesAnswered findProfile) {request : RetrieverRequest}
    (hmax : 0 < request.maxCandidateCount) :
  (r.doRetrieve request).1 = .OK
    ∧ ((r.doRetrieve request).2.status = .success
      ∨ (r.doRetrieve request).2.status = .emptyTriggerSeeds)
    ∧ ((r.doRetrieve request).2.candidates ≠ [] ↔ r.Finds find findProfile request)
  := by
  simp only [doRetrieve, loadTriggerSeeds_of_findNeighbors (hstore _ _)]
  split
  next hempty =>
    refine ⟨rfl, Or.inr rfl, iff_of_false (by simp) ?_⟩
    rintro ⟨seed, hseed, -⟩
    rw [List.isEmpty_iff.mp hempty] at hseed
    cases hseed
  next hempty =>
    have hids : ∀ seed ∈ collectTriggerSeeds request.userId.toNat
        (find request.userId.toNat r.triggerSeedUserCount), seed.entityId ≠ 0 :=
      fun _ => entityId_ne_zero_of_mem_collectTriggerSeeds
    simp only [loadTriggerUserProfiles_eq hprofiles hids, aggregateCandidates_eq]
    refine ⟨trivial, Or.inl trivial, (fillResponseCandidates_ne_nil hmax).trans ?_⟩
    simp only [mem_contributions]
    constructor
    · rintro ⟨_, ⟨_, hfound, item, hitem, hfilter, rfl⟩, hid, hscore, hproduct⟩
      obtain ⟨seed, hseed, rfl⟩ := List.mem_map.mp hfound
      cases hprofile : profileOf findProfile seed.entityId with
      | none => simp [hprofile] at hitem
      | some profile =>
          simp only [hprofile, Option.elim_some] at hitem
          exact ⟨seed, hseed, profile, hprofile, item.itemId, item.score,
            mem_collectNeighborCandidateItems.mp hitem, hscore, hproduct,
            mt (mem_collectItemIdsToFilterOut hid).mpr hfilter⟩
    · rintro ⟨seed, hseed, profile, hprofile, id, score, hfirst, hscore, hproduct, hconsumed⟩
      have hid : id ≠ 0 := hfirst.pos.ne'
      have hitem : (⟨id, score⟩ : ScoredItem)
          ∈ (profileOf findProfile seed.entityId).elim [] collectNeighborCandidateItems := by
        rw [hprofile]
        exact mem_collectNeighborCandidateItems.mpr hfirst
      exact ⟨_, ⟨_, List.mem_map_of_mem hseed, ⟨id, score⟩, hitem,
        mt (mem_collectItemIdsToFilterOut hid).mp hconsumed, rfl⟩, hid, hscore, hproduct⟩

end Answers

end Rounded

/-! ### The weighted sums -/

/-- The score of an item in the channels: that of its first entry, or 0 if it has none. -/
def channelScore (profile : UserCfProfile) (id : ℕ) : ℚ :=
  (((channels profile).flatMap (weightedEntries ScoredItem.mk)).find? (·.itemId = id)).elim 0
    ScoredItem.score

theorem score_pos_of_mem_collectNeighborCandidateItems {profile : UserCfProfile}
    {item : ScoredItem} (h : item ∈ collectNeighborCandidateItems profile) :
  0 < item.score
  := by
  obtain ⟨channel, hchannel, liked, -, -, index, -, rfl⟩ := exists_of_mem_collectWeightedItems h
  apply weightedScore_pos
  simp only [List.mem_cons, List.not_mem_nil, or_false] at hchannel
  rcases hchannel with rfl | rfl | rfl <;> norm_num

/-- The entries of an item among those of a similar user. -/
theorem filter_collectNeighborCandidateItems (profile : UserCfProfile) (id : ℕ) :
  (collectNeighborCandidateItems profile).filter (fun item => item.itemId = id ∧ 0 < item.score)
    = (((channels profile).flatMap (weightedEntries ScoredItem.mk)).find? (·.itemId = id)).toList
  := by
  rw [← Keyed.filter_firsts, channels, ← collectWeightedItems_eq]
  apply List.filter_congr
  intro item hitem
  apply decide_eq_decide.mpr
  exact and_iff_left (score_pos_of_mem_collectNeighborCandidateItems hitem)

/-- The seeds, each with the items of the stored profile of its user. -/
def itemsByTriggerSeed (findProfile : ℤ → Option Profile) (triggerSeeds : List TriggerSeed) :
    List (TriggerSeed × List ScoredItem) :=
  triggerSeeds.map fun seed =>
    (seed, (profileOf findProfile seed.entityId).elim [] collectNeighborCandidateItems)

/-- The sum over the seeds of the seed's score times the score of the item in the stored profile
of the seed's user. -/
def profileSum (findProfile : ℤ → Option Profile) (triggerSeeds : List TriggerSeed) (id : ℕ) :
    ℚ :=
  (triggerSeeds.map fun seed =>
    seed.score * (profileOf findProfile seed.entityId).elim 0 (channelScore · id)).sum

/-- The items of the stored profiles that are not left out, each with its sum times the
multiplier. -/
def scoredItems (r : RetrieverUserCf) (findProfile : ℤ → Option Profile)
    (triggerSeeds : List TriggerSeed) (itemIdsToFilterOut : List ℕ) : List (ℕ × ℚ) :=
  (foundItems ScoredItem.itemId ScoredItem.score itemIdsToFilterOut
      (itemsByTriggerSeed findProfile triggerSeeds)).map fun id =>
    (id, r.scoreMultiplier * profileSum findProfile triggerSeeds id)

theorem weightedSum_eq_profileSum (findProfile : ℤ → Option Profile)
    (triggerSeeds : List TriggerSeed) (id : ℕ) :
  weightedSum ScoredItem.itemId ScoredItem.score (itemsByTriggerSeed findProfile triggerSeeds) id
    = profileSum findProfile triggerSeeds id
  := by
  rw [weightedSum, itemsByTriggerSeed, List.map_map, profileSum]
  congr 1
  apply List.map_congr_left
  intro seed _
  rw [Function.comp_apply]
  cases hprofile : profileOf findProfile seed.entityId with
  | none => simp
  | some profile =>
      simp only [Option.elim_some]
      rw [filter_collectNeighborCandidateItems, channelScore]
      cases ((channels profile).flatMap (weightedEntries ScoredItem.mk)).find? (·.itemId = id) with
      | none => simp
      | some item => simp

/-- Every seed gets the stored profile of its own user, and the candidates are the best items of
these profiles, by weighted sum. -/
theorem doRetrieve_own_profiles (r : RetrieverUserCf) (service : ProfileService)
    (hstub : r.profileStub = service.batchGetUserCfProfiles)
    (findProfile : ℤ → Option Profile) (hstore : service.profileStore.Answers findProfile)
    (request : RetrieverRequest) (userNeighbors : List UserNeighbor)
    (hneighbors : r.userSimilarityStore.findNeighborsByUserId request.userId.toNat
      r.triggerSeedUserCount = .ok userNeighbors) :
  r.loadTriggerUserProfiles (collectTriggerSeeds request.userId.toNat userNeighbors)
      = .ok ((collectTriggerSeeds request.userId.toNat userNeighbors).map fun seed =>
          profileOf findProfile seed.entityId)
    ∧ (r.doRetrieve request).1 = .OK
    ∧ (r.doRetrieve request).2.candidates.map (fun c => (c.itemId, c.retrieveScore))
      = bestItems request.maxCandidateCount
        (r.scoredItems findProfile (collectTriggerSeeds request.userId.toNat userNeighbors)
          (collectItemIdsToFilterOut (request.profile.getD {})))
  := by
  have hprofiles : r.ProfilesAnswered findProfile := by
    intro profileRequest
    rw [hstub]
    exact ProfileService.batchGetUserCfProfiles_eq hstore profileRequest
  have hids : ∀ seed ∈ collectTriggerSeeds request.userId.toNat userNeighbors,
      seed.entityId ≠ 0 := fun _ => entityId_ne_zero_of_mem_collectTriggerSeeds
  have hload := loadTriggerUserProfiles_eq hprofiles hids
  use hload
  simp only [doRetrieve, loadTriggerSeeds_of_findNeighbors hneighbors]
  split
  next hempty =>
    rw [List.isEmpty_iff.mp hempty]
    use rfl
    simp [scoredItems, itemsByTriggerSeed, foundItems, bestItems]
  next hempty =>
    have hpos : ∀ entry ∈ itemsByTriggerSeed findProfile
        (collectTriggerSeeds request.userId.toNat userNeighbors), 0 < entry.1.score := by
      intro entry hentry
      obtain ⟨seed, hseed, rfl⟩ := List.mem_map.mp hentry
      obtain ⟨neighbor, -, -, -, hscore, rfl⟩ := mem_of_mem_collectTriggerSeeds hseed
      exact hscore
    simp only [hload, aggregateCandidates_eq, scoredItems, ← weightedSum_eq_profileSum]
    use trivial
    exact fillResponseCandidates_contributions r.scoreMultiplier_pos _ hpos

/-- Of three similar users the first has an identifier above the range of `int` and the second no
stored profile; the third is still credited with its own item. -/
theorem doRetrieve_own_profiles_third :
  ∃ r : RetrieverUserCf, (r.doRetrieve { userId := 7, maxCandidateCount := 10 }).2.candidates.map
      (fun c => (c.itemId, c.retrieveScore)) = [(20, 1)]
  := by
  use {
    defaultMaxCandidateCount_pos := by decide
    triggerSeedUserCount_pos := by decide
    scoreMultiplier_pos := by decide
    userSimilarityStore := ⟨fun _ _ => .ok [⟨4294967295, 3⟩, ⟨2, 2⟩, ⟨7, 5⟩, ⟨3, 1⟩, ⟨3, 4⟩]⟩
    profileStub := ProfileService.batchGetUserCfProfiles ⟨⟨fun userId => .ok
      (if userId = 3 then some { behaviors := { recentLikedItems := [⟨20, 0⟩] } } else none)⟩⟩ }
  rw [(doRetrieve_own_profiles _ _ rfl (fun userId =>
    if userId = 3 then some { behaviors := { recentLikedItems := [⟨20, 0⟩] } } else none)
    (fun _ => rfl) _ _ rfl).2.2]
  decide +kernel

end RetrieverUserCf

end RecommendationEngine
