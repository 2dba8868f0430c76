import ShootingStar.Gateway.Pipeline

/-!
# What a recommendation reads

The services answer a request from a few entries of their stores: the profile of the user, the
similar items of the seeds of that profile, the similar users of the user and their profiles, and
the index entries of the items found.  Stores that agree on these entries give the same answer,
whatever else they hold (`recommend_onStores_congr`).
-/

namespace RecommendationEngine

/-! ### Each service -/

/-- Item-based retrieval reads the similar items of its seeds. -/
theorem RetrieverItemCf.doRetrieve_congr [Arithmetic ℚ] {r r' : RetrieverItemCf}
    {find find' : ℕ → ℤ → List ItemNeighbor} (hstore : r.itemSimilarityStore.Answers find)
    (hstore' : r'.itemSimilarityStore.Answers find') (hoptions : r.toOptions = r'.toOptions)
    {request : RetrieverRequest}
    (h : ∀ seed ∈ r.buildTriggerSeeds request,
      find seed.entityId request.maxCandidateCount = find' seed.entityId request.maxCandidateCount) :
  r.doRetrieve request = r'.doRetrieve request
  := by
  have hseeds : r'.buildTriggerSeeds request = r.buildTriggerSeeds request := by
    rw [buildTriggerSeeds, buildTriggerSeeds, hoptions]
  have hfound : (r.buildTriggerSeeds request).map
        (fun seed => (seed, find seed.entityId request.maxCandidateCount))
      = (r.buildTriggerSeeds request).map
        fun seed => (seed, find' seed.entityId request.maxCandidateCount) := by
    apply List.map_congr_left
    intro seed hseed
    rw [h seed hseed]
  simp only [doRetrieve, hseeds, aggregateSimilarityCandidates_eq hstore,
    aggregateSimilarityCandidates_eq hstore', hfound, hoptions]

/-- The seeds of a request are similar users of the user. -/
theorem RetrieverUserCf.of_loadTriggerSeeds_eq_ok {r : RetrieverUserCf} {request : RetrieverRequest}
    {seeds : List TriggerSeed} (h : r.loadTriggerSeeds request = .ok seeds) :
  ∃ neighbors, r.userSimilarityStore.findNeighborsByUserId request.userId.toNat
      r.triggerSeedUserCount = .ok neighbors
    ∧ ∀ seed ∈ seeds, seed.entityId ≠ 0 ∧ ∃ neighbor ∈ neighbors, neighbor.userId = seed.entityId
  := by
  rw [loadTriggerSeeds] at h
  cases hfind : r.userSimilarityStore.findNeighborsByUserId request.userId.toNat
      r.triggerSeedUserCount with
  | error message =>
      rw [hfind] at h
      cases h
  | ok neighbors =>
      rw [hfind] at h
      obtain rfl := Except.ok.inj h
      refine ⟨neighbors, rfl, ?_⟩
      intro seed hseed
      obtain ⟨neighbor, hneighbor, hid, -, -, rfl⟩ := mem_of_mem_collectTriggerSeeds hseed
      exact ⟨hid, neighbor, hneighbor, rfl⟩

/-- The users whose profiles are fetched. -/
def RetrieverUserCf.fetchedUserIds (triggerSeeds : List TriggerSeed) : List ℤ :=
  ((triggerSeeds.map (·.entityId)).filter isValidUserId).map fun userId : ℕ => (userId : ℤ)

/-- The profiles of the seeds depend on the answer to one batch, if there is one. -/
theorem RetrieverUserCf.loadTriggerUserProfiles_congr {r r' : RetrieverUserCf}
    {triggerSeeds : List TriggerSeed}
    (h : fetchedUserIds triggerSeeds ≠ [] →
      r.profileStub { userIds := fetchedUserIds triggerSeeds }
        = r'.profileStub { userIds := fetchedUserIds triggerSeeds }) :
  r.loadTriggerUserProfiles triggerSeeds = r'.loadTriggerUserProfiles triggerSeeds
  := by
  by_cases hempty : (Batch.indexesFrom isValidUserId (triggerSeeds.map (·.entityId)) 0).isEmpty
  · simp only [loadTriggerUserProfiles, hempty, if_true]
  · have hne : fetchedUserIds triggerSeeds ≠ [] := by
      intro hnil
      apply hempty
      rw [List.isEmpty_iff_length_eq_zero, Batch.length_indexesFrom]
      rw [fetchedUserIds, List.map_eq_nil_iff] at hnil
      rw [hnil, List.length_nil]
    have hstub := h hne
    rw [fetchedUserIds] at hstub
    simp only [loadTriggerUserProfiles, hstub]

/-- A failed batch is an error. -/
theorem RetrieverUserCf.loadTriggerUserProfiles_of_failed {r : RetrieverUserCf}
    {triggerSeeds : List TriggerSeed} (hne : fetchedUserIds triggerSeeds ≠ [])
    (h : ¬ (r.profileStub { userIds := fetchedUserIds triggerSeeds }).1.isOk) :
  ∃ message, r.loadTriggerUserProfiles triggerSeeds = .error message
  := by
  have hempty : ¬ (Batch.indexesFrom isValidUserId (triggerSeeds.map (·.entityId)) 0).isEmpty := by
    rw [List.isEmpty_iff_length_eq_zero, Batch.length_indexesFrom, List.length_eq_zero_iff]
    intro hnil
    apply hne
    rw [fetchedUserIds, hnil, List.map_nil]
  have hfailed : (r.profileStub { userIds := fetchedUserIds triggerSeeds }).1.isOk = false := by
    simpa using h
  rw [fetchedUserIds] at hfailed
  simp only [loadTriggerUserProfiles, hempty, hfailed]
  exact ⟨_, rfl⟩

/-- User-based retrieval reads the similar users of the user and their profiles. -/
theorem RetrieverUserCf.doRetrieve_congr [Arithmetic ℚ] {r r' : RetrieverUserCf}
    (hoptions : r.toValidOptions = r'.toValidOptions) {request : RetrieverRequest}
    (husers : r.userSimilarityStore.findNeighborsByUserId request.userId.toNat
        r.triggerSeedUserCount
      = r'.userSimilarityStore.findNeighborsByUserId request.userId.toNat r.triggerSeedUserCount)
    (hprofiles : ∀ seeds, r.loadTriggerSeeds request = .ok seeds → fetchedUserIds seeds ≠ [] →
      r.profileStub { userIds := fetchedUserIds seeds }
        = r'.profileStub { userIds := fetchedUserIds seeds }) :
  r.doRetrieve request = r'.doRetrieve request
  := by
  have hload : r'.loadTriggerSeeds request = r.loadTriggerSeeds request := by
    rw [loadTriggerSeeds, loadTriggerSeeds, husers, hoptions]
  simp only [doRetrieve, hload, hoptions]
  split
  next => rfl
  next seeds hseeds => rw [loadTriggerUserProfiles_congr (hprofiles seeds hseeds)]

/-- A candidate is similar to a seed. -/
theorem RetrieverItemCf.of_mem_doRetrieve [Arithmetic ℚ] {r : RetrieverItemCf}
    {find : ℕ → ℤ → List ItemNeighbor}
    (hstore : r.itemSimilarityStore.Answers find) {request : RetrieverRequest}
    {candidate : CandidateItem} (h : candidate ∈ (r.doRetrieve request).2.candidates) :
  ∃ seed ∈ r.buildTriggerSeeds request, ∃ neighbor ∈ find seed.entityId request.maxCandidateCount,
    neighbor.itemId = candidate.itemId
  := by
  simp only [doRetrieve, aggregateSimilarityCandidates_eq hstore, aggregateContributions_eq] at h
  split at h
  · simp at h
  · obtain ⟨c, hc, -, hid⟩ := exists_accepted_of_mem_fillResponseCandidates h
    obtain ⟨found, hfound, neighbor, hneighbor, -, rfl⟩ := mem_contributions.mp hc
    obtain ⟨seed, hseed, rfl⟩ := List.mem_map.mp hfound
    exact ⟨seed, hseed, neighbor, hneighbor, hid.symm⟩

/-- A candidate is an item that a similar user likes. -/
theorem RetrieverUserCf.of_mem_doRetrieve [Arithmetic ℚ] {r : RetrieverUserCf}
    {findProfile : ℤ → Option Profile}
    (hprofiles : r.ProfilesAnswered findProfile) {request : RetrieverRequest}
    {candidate : CandidateItem} (h : candidate ∈ (r.doRetrieve request).2.candidates) :
  ∃ seeds, r.loadTriggerSeeds request = .ok seeds ∧ ∃ seed ∈ seeds, ∃ profile,
    findProfile seed.entityId = some profile ∧ ∃ item ∈ profile.behaviors.recentLikedItems
      ++ profile.behaviors.likedItems ++ profile.behaviors.interestedItems,
      0 < item.itemId ∧ item.itemId = candidate.itemId
  := by
  simp only [doRetrieve] at h
  split at h
  · simp at h
  next seeds hseeds =>
    refine ⟨seeds, hseeds, ?_⟩
    obtain ⟨_, -, hmem⟩ := of_loadTriggerSeeds_eq_ok hseeds
    have hids : ∀ seed ∈ seeds, seed.entityId ≠ 0 := fun seed hseed => (hmem seed hseed).1
    split at h
    · simp at h
    · rw [loadTriggerUserProfiles_eq hprofiles hids] at h
      simp only [aggregateCandidates_eq] at h
      obtain ⟨c, hc, haccepted, hid⟩ := exists_accepted_of_mem_fillResponseCandidates h
      obtain ⟨found, hfound, item, hitem, -, rfl⟩ := mem_contributions.mp hc
      obtain ⟨seed, hseed, rfl⟩ := List.mem_map.mp hfound
      obtain ⟨profile, hprofile, liked, hliked, hpos, he⟩ := exists_item_of_profile hitem
      rw [hid]
      exact ⟨seed, hseed, profile, hprofile, liked, hliked, hpos, he⟩

/-- The checks around a retrieval read nothing. -/
theorem RetrieverBase.retrieve_congr (defaultMaxCandidateCount : ℤ)
    {doRetrieve doRetrieve' : Stub RetrieverRequest RetrieverResponse} {request : RetrieverRequest}
    (h : ∀ maxCandidateCount,
      (maxCandidateCount = if request.maxCandidateCount ≤ 0 then defaultMaxCandidateCount
        else request.maxCandidateCount) →
      doRetrieve { request with maxCandidateCount := maxCandidateCount }
        = doRetrieve' { request with maxCandidateCount := maxCandidateCount }) :
  retrieve defaultMaxCandidateCount doRetrieve request
    = retrieve defaultMaxCandidateCount doRetrieve' request
  := by
  have heq := h _ rfl
  by_cases hcount : request.maxCandidateCount ≤ 0
  · rw [if_pos hcount] at heq
    simp only [retrieve, if_pos hcount, heq]
  · rw [if_neg hcount] at heq
    have hsame : ({ request with maxCandidateCount := request.maxCandidateCount } :
        RetrieverRequest) = request := rfl
    rw [hsame] at heq
    simp only [retrieve, if_neg hcount, heq]

/-- A candidate of a retrieval is one of the retriever, for a positive number of candidates. -/
theorem RetrieverBase.of_mem_retrieve {defaultMaxCandidateCount : ℤ}
    {doRetrieve : Stub RetrieverRequest RetrieverResponse} {request : RetrieverRequest}
    {candidate : CandidateItem}
    (h : candidate ∈ (retrieve defaultMaxCandidateCount doRetrieve request).2.candidates) :
  candidate ∈ (doRetrieve { request with
    maxCandidateCount := if request.maxCandidateCount ≤ 0 then defaultMaxCandidateCount
      else request.maxCandidateCount }).2.candidates
  := by
  by_cases hcount : request.maxCandidateCount ≤ 0
  · simp only [retrieve, if_pos hcount] at h ⊢
    split at h
    · simp at h
    · repeat' split at h
      all_goals exact h
  · simp only [retrieve, if_neg hcount] at h ⊢
    split at h
    · simp at h
    · repeat' split at h
      all_goals exact h

/-- The orchestrator reads the answers of its retrievers to one request. -/
theorem RetrievalOrchestrator.retrieve_congr {o o' : RetrievalOrchestrator}
    (hratio : o.recallCandidateExpandRatio = o'.recallCandidateExpandRatio)
    {request : RetrieveRequest}
    (h : o.retrieverStubs.map (fun retriever => (retriever.1,
        retriever.2.map fun stub => stub (o.retrieverRequest request)))
      = o'.retrieverStubs.map fun retriever => (retriever.1,
        retriever.2.map fun stub => stub (o.retrieverRequest request))) :
  o.retrieve request = o'.retrieve request
  := by
  have hrequest : o'.retrieverRequest request = o.retrieverRequest request := by
    rw [retrieverRequest, retrieverRequest, hratio]
  have hfetch : ∀ retriever : String × Option RetrieverStub,
      fetchCandidatesFromRetriever retriever.1 retriever.2 (o.retrieverRequest request)
        = fetchCandidatesFromRetriever retriever.1
          ((retriever.2.map fun stub => stub (o.retrieverRequest request)).map fun answer _ => answer)
          (o.retrieverRequest request) := by
    rintro ⟨name, stub⟩
    cases stub <;> rfl
  have houtcomes : o.outcomes request = o'.outcomes request := by
    have hall := congrArg (List.map fun retriever : String × Option (Status × RetrieverResponse) =>
      (retriever.1, fetchCandidatesFromRetriever retriever.1
        (retriever.2.map fun answer _ => answer) (o.retrieverRequest request))) h
    rw [List.map_map, List.map_map] at hall
    rw [outcomes, outcomes, hrequest]
    refine Eq.trans ?_ (hall.trans ?_)
    · apply List.map_congr_left
      intro retriever _
      rw [hfetch]
      rfl
    · apply List.map_congr_left
      intro retriever _
      rw [hfetch]
      rfl
  have hresponses : o.retrieverResponses request = o'.retrieverResponses request := by
    rw [retrieverResponses, retrieverResponses, houtcomes]
  have hfailures : o.failureMessages request = o'.failureMessages request := by
    rw [failureMessages, failureMessages, houtcomes]
  simp only [retrieve, dispatchToRetrievers, hresponses, hfailures]

theorem RankingService.findRanker_heuristic_eq (log1p : ℚ → ℚ) (store : ItemIndexStore)
    (rankerName : String) :
  (heuristic log1p store).findRanker rankerName
    = if HeuristicRankTask.kName = rankerName then some (heuristicRanker log1p (some store)) else none
  := by
  by_cases h : HeuristicRankTask.kName = rankerName <;>
    simp [heuristic, RankerRegistry.findRanker, heuristicRanker, h]

/-- The ranker reads the entries of the items of a request. -/
theorem RankingService.rank_heuristic_congr (log1p : ℚ → ℚ) {store store' : ItemIndexStore}
    {find find' : ℕ → Option ItemIndexEntry}
    (hstore : ∀ ids, store.findByItemIds ids = .ok (ids.map find))
    (hstore' : ∀ ids, store'.findByItemIds ids = .ok (ids.map find')) {request : RankRequest}
    (h : ∀ id ∈ distinctItems request, find id = find' id) :
  (heuristic log1p store).rank request = (heuristic log1p store').rank request
  := by
  have hsorted : (HeuristicRankTask.create request (some store)).sortedCandidates log1p find
      = (HeuristicRankTask.create request (some store')).sortedCandidates log1p find' := by
    have hmap : (normalizeAndMergeCandidates request).map (fun c =>
          (HeuristicRankTask.create request (some store)).scoreCandidate log1p c (find c.itemId))
        = (normalizeAndMergeCandidates request).map fun c =>
          (HeuristicRankTask.create request (some store')).scoreCandidate log1p c
            (find' c.itemId) := by
      apply List.map_congr_left
      intro c hc
      have hid : c.itemId ∈ distinctItems request := by
        rw [← map_itemId_normalizeAndMergeCandidates]
        exact List.mem_map_of_mem hc
      rw [h _ hid]
      rfl
    exact congrArg (fun scored => (Ranked.sortBy HeuristicRankTask.ranksBefore scored).take
      request.maxResults.toNat) hmap
  have hrun := @HeuristicRankTask.run_eq log1p request _ store hstore request.candidates.length
  have hrun' := @HeuristicRankTask.run_eq log1p request _ store' hstore' request.candidates.length
  rw [hsorted] at hrun
  have hsame : (HeuristicRankTask.create request (some store)).run log1p
        { inputCandidateCount := request.candidates.length }
      = (HeuristicRankTask.create request (some store')).run log1p
        { inputCandidateCount := request.candidates.length } := hrun.trans hrun'.symm
  have hname : (heuristic log1p store').resolveRankerName request
      = (heuristic log1p store).resolveRankerName request := rfl
  simp only [rank, hname, findRanker_heuristic_eq]
  split
  next => rfl
  next =>
    by_cases hkname : HeuristicRankTask.kName = (heuristic log1p store).resolveRankerName request
    · simp only [if_pos hkname, heuristicRanker, hsame]
    · simp only [if_neg hkname]

/-! ### The composed services -/

/-- What stores that answer hold: profiles, similar items, similar users and index entries. -/
structure Stores where
  findProfile : ℤ → Option Profile
  findItems : ℕ → ℤ → List ItemNeighbor
  findUsers : ℕ → ℤ → List UserNeighbor
  findEntry : ℕ → Option ItemIndexEntry

namespace Pipeline

/-- The services over other stores. -/
def onStores (p : Pipeline) (s : Stores) : Pipeline :=
  { p with
    profileStore := ⟨fun userId => .ok (s.findProfile userId)⟩
    userSimilarityStore := ⟨fun userId maxNeighborCount => .ok (s.findUsers userId maxNeighborCount)⟩
    itemIndexStore := ⟨fun itemIds => .ok (itemIds.map s.findEntry)⟩
    itemCf := { p.itemCf with
      itemSimilarityStore := ⟨fun itemIds maxNeighborCount =>
        .ok (itemIds.map fun itemId => s.findItems itemId maxNeighborCount)⟩ } }

/-- The number of similar items that item-based retrieval reads for each seed. -/
def similarItemCount (p : Pipeline) (request : RecommendRequest) : ℤ :=
  let maxCandidateCount := RetrievalOrchestrator.computeRetrieverMaxCandidateCount
    request.maxResults p.recallCandidateExpandRatio
  if maxCandidateCount ≤ 0 then p.itemCf.defaultMaxCandidateCount else maxCandidateCount

section Rounded

variable [Arithmetic ℚ]

/-- The seeds of item-based retrieval for a profile. -/
def itemSeeds (p : Pipeline) (profile : Profile) : List TriggerSeed :=
  p.itemCf.buildTriggerSeeds { profile := some profile }

/-- The similar users that user-based retrieval reads. -/
def similarUsers (p : Pipeline) (s : Stores) (request : RecommendRequest) : List UserNeighbor :=
  s.findUsers request.userId.toNat p.userCfOptions.triggerSeedUserCount

/-- The items that a request may find in the stores: those similar to a seed, and those that a
similar user likes. -/
inductive MayFind (p : Pipeline) (s : Stores) (request : RecommendRequest) (profile : Profile) :
    ℕ → Prop where
  | similar {seed : TriggerSeed} {neighbor : ItemNeighbor} (hseed : seed ∈ p.itemSeeds profile)
      (hneighbor : neighbor ∈ s.findItems seed.entityId (p.similarItemCount request)) :
      MayFind p s request profile neighbor.itemId
  | liked {neighbor : UserNeighbor} {neighborProfile : Profile} {item : WeightedItem}
      (hneighbor : neighbor ∈ p.similarUsers s request)
      (hprofile : s.findProfile neighbor.userId = some neighborProfile)
      (hitem : item ∈ neighborProfile.behaviors.recentLikedItems
        ++ neighborProfile.behaviors.likedItems ++ neighborProfile.behaviors.interestedItems)
      (hpositive : 0 < item.itemId) :
      MayFind p s request profile item.itemId.toNat

/-- The stores agree on what a request reads. -/
structure SameFor (p : Pipeline) (s t : Stores) (request : RecommendRequest) : Prop where
  profile : s.findProfile request.userId = t.findProfile request.userId
  items : ∀ profile, s.findProfile request.userId = some profile → ∀ seed ∈ p.itemSeeds profile,
    s.findItems seed.entityId (p.similarItemCount request)
      = t.findItems seed.entityId (p.similarItemCount request)
  users : p.similarUsers s request = p.similarUsers t request
  profiles : ∀ neighbor ∈ p.similarUsers s request,
    s.findProfile neighbor.userId = t.findProfile neighbor.userId
  entries : ∀ profile, s.findProfile request.userId = some profile →
    ∀ itemId, p.MayFind s request profile itemId → s.findEntry itemId = t.findEntry itemId

variable {p : Pipeline} {s t : Stores} {request : RecommendRequest}

omit [Arithmetic ℚ] in
theorem answers_onStores (p : Pipeline) (s : Stores) :
  (p.onStores s).itemCf.itemSimilarityStore.Answers s.findItems
  := fun _ _ => rfl

omit [Arithmetic ℚ] in
/-- A call over the network reads the answer of the service. -/
theorem remote_congr {Request Response : Type} [Inhabited Response]
    (failure : Request → Option Failure) {stub stub' : Stub Request Response} {request : Request}
    (h : stub request = stub' request) :
  remote failure stub request = remote failure stub' request
  := by
  simp only [remote, h]

/-- Both retrievers give the same answer to the request of the orchestrator. -/
theorem itemCf_retrieve_onStores_congr (h : p.SameFor s t request) {profile : Profile}
    (hprofile : s.findProfile request.userId = some profile) :
  (p.onStores s).itemCf.retrieve (p.retrieverRequest request profile)
    = (p.onStores t).itemCf.retrieve (p.retrieverRequest request profile)
  := by
  apply RetrieverBase.retrieve_congr
  intro maxCandidateCount hcount
  apply RetrieverItemCf.doRetrieve_congr (answers_onStores p s) (answers_onStores p t) rfl
  intro seed hseed
  rw [hcount]
  exact h.items profile hprofile seed hseed

omit [Arithmetic ℚ] in
theorem batchGetUserCfProfiles_onStores_congr {userIds : List ℤ}
    (h : ∀ userId ∈ userIds, s.findProfile userId = t.findProfile userId) :
  (p.onStores s).profileService.batchGetUserCfProfiles { userIds := userIds }
    = (p.onStores t).profileService.batchGetUserCfProfiles { userIds := userIds }
  := by
  have hresults : userIds.map (ProfileService.resultOf s.findProfile)
      = userIds.map (ProfileService.resultOf t.findProfile) := by
    apply List.map_congr_left
    intro userId huserId
    rw [ProfileService.resultOf, ProfileService.resultOf, h userId huserId]
  rw [@ProfileService.batchGetUserCfProfiles_eq (p.onStores s).profileService s.findProfile
      fun _ => rfl,
    @ProfileService.batchGetUserCfProfiles_eq (p.onStores t).profileService t.findProfile fun _ => rfl]
  exact congrArg (fun results => (Status.OK,
    ({ status := .success, msg := "", results := results } : BatchGetUserCfProfilesResponse)))
    hresults

theorem userCf_retrieve_onStores_congr (h : p.SameFor s t request) (profile : Profile) :
  (p.onStores s).userCf.retrieve (p.retrieverRequest request profile)
    = (p.onStores t).userCf.retrieve (p.retrieverRequest request profile)
  := by
  have hoptions : (p.onStores s).userCf.toValidOptions = (p.onStores t).userCf.toValidOptions := rfl
  apply RetrieverBase.retrieve_congr
  intro maxCandidateCount _
  apply RetrieverUserCf.doRetrieve_congr hoptions
  · exact congrArg Except.ok h.users
  · intro seeds hseeds _
    obtain ⟨neighbors, hneighbors, hmem⟩ := RetrieverUserCf.of_loadTriggerSeeds_eq_ok hseeds
    obtain rfl := Except.ok.inj hneighbors
    have hfound : ∀ userId ∈ RetrieverUserCf.fetchedUserIds seeds,
        s.findProfile userId = t.findProfile userId := by
      intro userId huserId
      obtain ⟨id, hid, rfl⟩ := List.mem_map.mp huserId
      obtain ⟨seed, hseed, rfl⟩ := List.mem_map.mp (List.mem_filter.mp hid).1
      obtain ⟨-, neighbor, hneighbor, heq⟩ := hmem seed hseed
      rw [← heq]
      exact h.profiles neighbor hneighbor
    exact remote_congr p.batchFailure (batchGetUserCfProfiles_onStores_congr hfound)

/-- The orchestrator gives the same answer. -/
theorem retrieve_onStores_congr (h : p.SameFor s t request) {profile : Profile}
    (hprofile : s.findProfile request.userId = some profile) :
  (p.onStores s).orchestrator.retrieve (retrieveRequest request profile)
    = (p.onStores t).orchestrator.retrieve (retrieveRequest request profile)
  := by
  have hratio : (p.onStores s).orchestrator.recallCandidateExpandRatio
      = (p.onStores t).orchestrator.recallCandidateExpandRatio := rfl
  have hitem := remote_congr p.itemCfFailure (itemCf_retrieve_onStores_congr h hprofile)
  have huser := remote_congr p.userCfFailure (userCf_retrieve_onStores_congr h profile)
  apply RetrievalOrchestrator.retrieve_congr hratio
  change [("item_cf", some (remote p.itemCfFailure (p.onStores s).itemCf.retrieve
        (p.retrieverRequest request profile))),
      ("user_cf", some (remote p.userCfFailure (p.onStores s).userCf.retrieve
        (p.retrieverRequest request profile)))]
    = [("item_cf", some (remote p.itemCfFailure (p.onStores t).itemCf.retrieve
        (p.retrieverRequest request profile))),
      ("user_cf", some (remote p.userCfFailure (p.onStores t).userCf.retrieve
        (p.retrieverRequest request profile)))]
  rw [hitem, huser]

/-- The user-based retriever whose batches do not fail on the way. -/
def userCfWithoutFailure (p : Pipeline) : RetrieverUserCf :=
  { p.userCf with profileStub := p.profileService.batchGetUserCfProfiles }

/-- A user-based retrieval with a candidate is one whose batch does not fail. -/
theorem doRetrieve_userCfWithoutFailure {retrieverRequest : RetrieverRequest}
    (h : (p.userCf.doRetrieve retrieverRequest).2.candidates ≠ []) :
  p.userCf.doRetrieve retrieverRequest = p.userCfWithoutFailure.doRetrieve retrieverRequest
  := by
  have hoptions : p.userCf.toValidOptions = p.userCfWithoutFailure.toValidOptions := rfl
  apply RetrieverUserCf.doRetrieve_congr hoptions rfl
  intro seeds hseeds hne
  by_contra hdiffer
  apply h
  have hstub : ¬ (p.userCf.profileStub
      { userIds := RetrieverUserCf.fetchedUserIds seeds }).1.isOk :=
    fun hok => hdiffer (remote_of_isOk hok)
  obtain ⟨message, herror⟩ := RetrieverUserCf.loadTriggerUserProfiles_of_failed hne hstub
  simp only [RetrieverUserCf.doRetrieve, hseeds, herror]
  split <;> rfl

theorem mayFind_of_mem_itemCf {profile : Profile} {candidate : CandidateItem}
    (h : candidate ∈ ((p.onStores s).itemCf.retrieve
      (p.retrieverRequest request profile)).2.candidates) :
  p.MayFind s request profile candidate.itemId
  := by
  obtain ⟨seed, hseed, neighbor, hneighbor, hid⟩ :=
    RetrieverItemCf.of_mem_doRetrieve (answers_onStores p s) (RetrieverBase.of_mem_retrieve h)
  rw [← hid]
  exact .similar hseed hneighbor

theorem mayFind_of_mem_userCf {profile : Profile} {candidate : CandidateItem}
    (h : candidate ∈ ((p.onStores s).userCf.retrieve
      (p.retrieverRequest request profile)).2.candidates) :
  p.MayFind s request profile candidate.itemId
  := by
  have hmem := RetrieverBase.of_mem_retrieve h
  rw [doRetrieve_userCfWithoutFailure (List.ne_nil_of_mem hmem)] at hmem
  have hanswered : (p.onStores s).userCfWithoutFailure.ProfilesAnswered s.findProfile :=
    fun batch => ProfileService.batchGetUserCfProfiles_eq (fun _ => rfl) batch
  obtain ⟨seeds, hseeds, seed, hseed, neighborProfile, hprofile, item, hitem, hpositive, hid⟩ :=
    RetrieverUserCf.of_mem_doRetrieve hanswered hmem
  obtain ⟨neighbors, hneighbors, hfrom⟩ := RetrieverUserCf.of_loadTriggerSeeds_eq_ok hseeds
  obtain rfl := Except.ok.inj hneighbors
  obtain ⟨-, neighbor, hneighbor, heq⟩ := hfrom seed hseed
  have hcandidate : candidate.itemId = item.itemId.toNat := by omega
  rw [hcandidate]
  rw [← heq] at hprofile
  exact .liked hneighbor hprofile hitem hpositive

/-- What the orchestrator returns may be found in the stores. -/
theorem mayFind_of_mem_retrieve {profile : Profile} {candidate : CandidateItem}
    (h : candidate
      ∈ ((p.onStores s).orchestrator.retrieve (retrieveRequest request profile)).2.candidates) :
  p.MayFind s request profile candidate.itemId
  := by
  obtain ⟨-, retriever, hretriever, stub, hstub, c, hc, hid⟩ :=
    RetrievalOrchestrator.of_mem_candidates_retrieve h
  rw [← hid]
  change retriever ∈ (p.onStores s).retrieverStubs at hretriever
  simp only [retrieverStubs, List.mem_cons, List.not_mem_nil, or_false] at hretriever
  rcases hretriever with rfl | rfl
  · obtain rfl := Option.some.inj hstub
    apply of_remote (fun response : RetrieverResponse => ∀ candidate ∈ response.candidates,
      p.MayFind s request profile candidate.itemId) _ _ c hc
    · exact fun candidate h => absurd h List.not_mem_nil
    · exact fun candidate h => mayFind_of_mem_itemCf h
  · obtain rfl := Option.some.inj hstub
    apply of_remote (fun response : RetrieverResponse => ∀ candidate ∈ response.candidates,
      p.MayFind s request profile candidate.itemId) _ _ c hc
    · exact fun candidate h => absurd h List.not_mem_nil
    · exact fun candidate h => mayFind_of_mem_userCf h

/-- The ranking of what is retrieved is the same. -/
theorem rank_onStores_congr (h : p.SameFor s t request) {profile : Profile}
    (hprofile : s.findProfile request.userId = some profile) {response : RetrieveResponse}
    (hresponse : ∀ candidate ∈ response.candidates,
      p.MayFind s request profile candidate.itemId) :
  (p.onStores s).rankingService.rank (Gateway.rankRequest request profile response)
    = (p.onStores t).rankingService.rank (Gateway.rankRequest request profile response)
  := by
  apply RankingService.rank_heuristic_congr p.log1p (fun _ => rfl) (fun _ => rfl)
  intro id hid
  obtain ⟨hmem, -⟩ := List.mem_filter.mp (List.mem_eraseDups.mp hid)
  obtain ⟨candidate, hcandidate, rfl⟩ := List.mem_map.mp hmem
  exact h.entries profile hprofile _ (hresponse candidate hcandidate)

/-- Stores that agree on what a request reads give the same answer, whichever calls fail. -/
theorem recommend_onStores_congr (p : Pipeline) {s t : Stores} {request : RecommendRequest}
    (h : p.SameFor s t request) :
  (p.onStores s).recommend request = (p.onStores t).recommend request
  := by
  have hprofiles : (p.onStores s).gateway.fetchProfile request
      = (p.onStores t).gateway.fetchProfile request := by
    have hget : (p.onStores s).profileService.getProfile { userId := request.userId }
        = (p.onStores t).profileService.getProfile { userId := request.userId } := by
      have hfind : (p.onStores s).profileService.profileStore.findByUserId request.userId
          = (p.onStores t).profileService.profileStore.findByUserId request.userId :=
        congrArg Except.ok h.profile
      simp only [ProfileService.getProfile, hfind]
    have hstub : (p.onStores s).gateway.profileStub { userId := request.userId }
        = (p.onStores t).gateway.profileStub { userId := request.userId } :=
      remote_congr p.profileFailure hget
    simp only [Gateway.fetchProfile, hstub]
  have hfetch : (p.onStores s).gateway.fetch request = (p.onStores t).gateway.fetch request := by
    rw [Gateway.fetch, Gateway.fetch, ← hprofiles]
    cases hprofile : (p.onStores s).gateway.fetchProfile request with
    | error failed => rfl
    | ok profile =>
        have hstored := findByUserId_of_fetchProfile hprofile
        have hfound : s.findProfile request.userId = some profile := Except.ok.inj hstored
        have hretrieve : (p.onStores s).gateway.retrievalStub (retrieveRequest request profile)
            = (p.onStores t).gateway.retrievalStub (retrieveRequest request profile) :=
          remote_congr p.retrievalFailure (retrieve_onStores_congr h hfound)
        rw [retrieveRequest] at hretrieve
        have hcandidates : (p.onStores s).gateway.fetchCandidates request profile
            = (p.onStores t).gateway.fetchCandidates request profile := by
          simp only [Gateway.fetchCandidates, hretrieve]
        change ((p.onStores s).gateway.fetchCandidates request profile >>= _)
          = ((p.onStores t).gateway.fetchCandidates request profile >>= _)
        rw [← hcandidates]
        cases hresponse : (p.onStores s).gateway.fetchCandidates request profile with
        | error failed => rfl
        | ok response =>
            have hmay : ∀ candidate ∈ response.candidates,
                p.MayFind s request profile candidate.itemId := by
              rw [← Gateway.of_fetchCandidates_eq_ok hresponse]
              apply of_remote (fun response : RetrieveResponse => ∀ candidate ∈ response.candidates,
                p.MayFind s request profile candidate.itemId)
              · exact fun candidate h => absurd h List.not_mem_nil
              · exact fun candidate h => mayFind_of_mem_retrieve h
            have hrank : (p.onStores s).gateway.rankingStub
                  (Gateway.rankRequest request profile response)
                = (p.onStores t).gateway.rankingStub (Gateway.rankRequest request profile response) :=
              remote_congr p.rankingFailure (rank_onStores_congr h hfound hmay)
            change (p.onStores s).gateway.fetchRankedCandidates request profile response
              = (p.onStores t).gateway.fetchRankedCandidates request profile response
            simp only [Gateway.fetchRankedCandidates, hrank]
  rw [recommend, recommend, Gateway.recommend, Gateway.recommend, hfetch]

end Rounded

/-- Stores in which user 42 likes item 5, to which item 6 is similar, and item 8 to others. -/
def likedStores : Stores where
  findProfile id :=
    if id = 42 then some { userId := 42, behaviors := { likedItems := [⟨5, 1⟩] } } else none
  findItems id _ := if id = 5 then [⟨6, 1⟩] else [⟨8, 1⟩]
  findUsers _ _ := []
  findEntry id := some { itemId := id }

/-- The entries that the user needs. -/
def neededStores : Stores where
  findProfile id :=
    if id = 42 then some { userId := 42, behaviors := { likedItems := [⟨5, 1⟩] } } else none
  findItems id _ := if id = 5 then [⟨6, 1⟩] else []
  findUsers _ _ := []
  findEntry id := if id = 6 then some { itemId := id } else none

theorem sameFor_neededStores :
  newUser.SameFor likedStores neededStores { userId := 42, maxResults := 10 }
  := by
  have hseeds : ∀ profile, likedStores.findProfile 42 = some profile →
      ∀ seed ∈ newUser.itemSeeds profile, seed.entityId = 5 := by
    intro profile hprofile
    obtain rfl := Option.some.inj hprofile
    decide +kernel
  constructor
  case profile => rfl
  case items =>
    intro profile hprofile seed hseed
    rw [hseeds profile hprofile seed hseed]
    rfl
  case users => rfl
  case profiles => exact fun neighbor h => absurd h List.not_mem_nil
  case entries =>
    intro profile hprofile itemId hfind
    cases hfind with
    | similar hseed hneighbor =>
        rw [hseeds profile hprofile _ hseed] at hneighbor
        rw [List.mem_singleton.mp hneighbor]
        rfl
    | liked hneighbor => exact absurd hneighbor List.not_mem_nil

/-- The user is recommended item 6 from either stores. -/
theorem recommend_onStores_congr_neededStores :
  (newUser.onStores likedStores).recommend { userId := 42, maxResults := 10 }
      = (newUser.onStores neededStores).recommend { userId := 42, maxResults := 10 }
    ∧ ((newUser.onStores neededStores).recommend
        { userId := 42, maxResults := 10 }).2.candidates.map (·.itemId) = [6]
  := by
  constructor
  · exact recommend_onStores_congr newUser sameFor_neededStores
  · decide +kernel

end Pipeline

end RecommendationEngine
