import ShootingStar.Gateway.Gateway
import ShootingStar.Ranking.RankingService
import ShootingStar.Retrieval.ItemCf
import ShootingStar.Retrieval.Orchestrator
import ShootingStar.Retrieval.UserCf

/-!
# The composed services

The gateway with the profile service, the orchestrator with both retrievers, and the ranking
service with the heuristic ranker, over arbitrary stores.  Every remote call may fail.  The
retrievers score items in any arithmetic; what is summed up and ranked later is exact.

No item a user has consumed is recommended (`recommend_not_consumed`).
-/

namespace RecommendationEngine

/-! ### Remote calls -/

/-- The status of a call that fails on the way. -/
structure Failure where
  status : Status
  not_ok : status.isOk = false

/-- A call over the network.  It may fail on the way, and only the response of a call whose
status is OK arrives. -/
def remote {Request Response : Type} [Inhabited Response] (failure : Request → Option Failure)
    (stub : Stub Request Response) : Stub Request Response := fun request =>
  match failure request with
  | some f => (f.status, default)
  | none =>
    let (status, response) := stub request
    (status, if status.isOk then response else default)

instance : Inhabited GetProfileResponse := ⟨{}⟩

instance : Inhabited BatchGetUserCfProfilesResponse := ⟨{}⟩

instance : Inhabited RetrieverResponse := ⟨{}⟩

instance : Inhabited RetrieveResponse := ⟨{}⟩

instance : Inhabited RankResponse := ⟨{}⟩

section Remote

variable {Request Response : Type} [Inhabited Response] {failure : Request → Option Failure}
  {stub : Stub Request Response} {request : Request}

/-- What holds of the empty response and of that of the service holds of the response. -/
theorem of_remote (P : Response → Prop) (hdefault : P default) (h : P (stub request).2) :
  P (remote failure stub request).2
  := by
  simp only [remote]
  split
  · exact hdefault
  · split
    · exact h
    · exact hdefault

/-- A call whose status is OK is answered by the service. -/
theorem remote_of_isOk (h : (remote failure stub request).1.isOk) :
  remote failure stub request = stub request
  := by
  simp only [remote] at h ⊢
  split at h
  next f _ =>
    rw [f.not_ok] at h
    cases h
  next => rw [if_pos h]

/-- A call that does not fail on the way and succeeds. -/
theorem remote_eq (hfailure : failure request = none) (h : (stub request).1 = .OK) :
  remote failure stub request = stub request
  := by
  simp only [remote, hfailure, h, Status.isOk_OK, if_true]
  rw [← h]

end Remote

/-! ### The services -/

/-- The stores and the options of the services, and the calls that fail. -/
structure Pipeline where
  profileStore : ProfileStore
  userSimilarityStore : UserSimilarityStore
  itemIndexStore : ItemIndexStore
  itemCf : RetrieverItemCf
  userCfOptions : RetrieverUserCf.ValidOptions
  recallCandidateExpandRatio : ℚ
  ratio_pos : 0 < recallCandidateExpandRatio
  log1p : ℚ → ℚ
  profileFailure : GetProfileRequest → Option Failure := fun _ => none
  batchFailure : BatchGetUserCfProfilesRequest → Option Failure := fun _ => none
  itemCfFailure : RetrieverRequest → Option Failure := fun _ => none
  userCfFailure : RetrieverRequest → Option Failure := fun _ => none
  retrievalFailure : RetrieveRequest → Option Failure := fun _ => none
  rankingFailure : RankRequest → Option Failure := fun _ => none

namespace Pipeline

section Rounded

variable [Arithmetic ℚ]

/-- The profile service over its store. -/
def profileService (p : Pipeline) : ProfileService := ⟨p.profileStore⟩

/-- The retriever over similar users, which calls the profile service. -/
def userCf (p : Pipeline) : RetrieverUserCf :=
  { p.userCfOptions with
    userSimilarityStore := p.userSimilarityStore
    profileStub := remote p.batchFailure p.profileService.batchGetUserCfProfiles }

/-- The retrievers as the orchestrator calls them. -/
def retrieverStubs (p : Pipeline) : List (String × Option RetrieverStub) :=
  [("item_cf", some (remote p.itemCfFailure p.itemCf.retrieve)),
    ("user_cf", some (remote p.userCfFailure p.userCf.retrieve))]

/-- The orchestrator over the two retrievers. -/
def orchestrator (p : Pipeline) : RetrievalOrchestrator where
  retrieverStubs := p.retrieverStubs
  recallCandidateExpandRatio := p.recallCandidateExpandRatio
  stubs_ne_nil := List.cons_ne_nil _ _
  ratio_pos := p.ratio_pos
  stubs_valid := by simp [retrieverStubs, RetrievalOrchestrator.stubProblem]

/-- The ranking service over the item index. -/
def rankingService (p : Pipeline) : RankingService :=
  RankingService.heuristic p.log1p p.itemIndexStore

/-- The gateway over the other services. -/
def gateway (p : Pipeline) : Gateway where
  profileStub := remote p.profileFailure p.profileService.getProfile
  retrievalStub := remote p.retrievalFailure p.orchestrator.retrieve
  rankingStub := remote p.rankingFailure p.rankingService.rank

/-- `Recommend`. -/
def recommend (p : Pipeline) : Stub RecommendRequest RecommendResponse :=
  p.gateway.recommend

/-! ### Consumed items -/

variable {p : Pipeline}

/-- No retriever returns an item that has been consumed. -/
theorem not_consumed_of_mem_retriever {retriever : String × Option RetrieverStub}
    (hretriever : retriever ∈ p.retrieverStubs) {stub : RetrieverStub}
    (hstub : retriever.2 = some stub) (request : RetrieverRequest) :
  ∀ candidate ∈ (stub request).2.candidates,
    (candidate.itemId : ℤ) ∉ consumedItems (request.profile.getD {})
  := by
  simp only [retrieverStubs, List.mem_cons, List.not_mem_nil, or_false] at hretriever
  rcases hretriever with rfl | rfl
  · obtain rfl := Option.some.inj hstub
    apply of_remote (fun response : RetrieverResponse => ∀ candidate ∈ response.candidates,
      (candidate.itemId : ℤ) ∉ consumedItems (request.profile.getD {}))
    · exact fun candidate h => absurd h List.not_mem_nil
    · intro candidate h
      obtain ⟨request', hprofile, hmem⟩ := RetrieverBase.of_mem_candidates_retrieve h
      rw [← hprofile]
      exact (RetrieverItemCf.not_consumed_of_mem_doRetrieve hmem).2
  · obtain rfl := Option.some.inj hstub
    apply of_remote (fun response : RetrieverResponse => ∀ candidate ∈ response.candidates,
      (candidate.itemId : ℤ) ∉ consumedItems (request.profile.getD {}))
    · exact fun candidate h => absurd h List.not_mem_nil
    · intro candidate h
      obtain ⟨request', hprofile, hmem⟩ := RetrieverBase.of_mem_candidates_retrieve h
      rw [← hprofile]
      exact (RetrieverUserCf.not_consumed_of_mem_doRetrieve hmem).2

/-- No retrieved item is item 0 or has been consumed. -/
theorem not_consumed_of_fetchCandidates {request : RecommendRequest} {profile : Profile}
    {response : RetrieveResponse} (h : p.gateway.fetchCandidates request profile = .ok response) :
  ∀ candidate ∈ response.candidates,
    candidate.itemId ≠ 0 ∧ (candidate.itemId : ℤ) ∉ consumedItems profile
  := by
  rw [← Gateway.of_fetchCandidates_eq_ok h]
  apply of_remote (fun response : RetrieveResponse => ∀ candidate ∈ response.candidates,
    candidate.itemId ≠ 0 ∧ (candidate.itemId : ℤ) ∉ consumedItems profile)
  · exact fun candidate h => absurd h List.not_mem_nil
  · intro candidate hcandidate
    obtain ⟨hid, retriever, hretriever, stub, hstub, c, hc, he⟩ :=
      RetrievalOrchestrator.of_mem_candidates_retrieve hcandidate
    use hid
    rw [← he]
    exact not_consumed_of_mem_retriever hretriever hstub _ c hc

/-- The profile of a request is the stored one. -/
theorem findByUserId_of_fetchProfile {request : RecommendRequest} {profile : Profile}
    (h : p.gateway.fetchProfile request = .ok profile) :
  p.profileStore.findByUserId request.userId = .ok (some profile)
  := by
  obtain ⟨hok, hstatus, hprofile⟩ := Gateway.of_fetchProfile_eq_ok h
  have hremote : p.gateway.profileStub { userId := request.userId }
      = p.profileService.getProfile { userId := request.userId } := remote_of_isOk hok
  rw [hremote] at hstatus hprofile
  simp only [ProfileService.getProfile, profileService] at hstatus hprofile
  cases hfind : p.profileStore.findByUserId request.userId with
  | error message =>
      rw [hfind] at hstatus
      cases hstatus
  | ok found =>
      rw [hfind] at hstatus hprofile
      cases found with
      | none => cases hstatus
      | some stored => rw [← hprofile]

/-- Whatever the stores hold and whichever calls fail, no item that the stored profile of the user
lists as consumed is recommended.  The items are distinct and not 0, and at most as many as are
asked for. -/
theorem recommend_not_consumed (p : Pipeline) (request : RecommendRequest) :
  (∀ candidate ∈ (p.recommend request).2.candidates, ∃ profile,
      p.profileStore.findByUserId request.userId = .ok (some profile)
        ∧ (candidate.itemId : ℤ) ∉ consumedItems profile)
    ∧ ((p.recommend request).2.candidates.map (·.itemId)).Nodup
    ∧ (∀ candidate ∈ (p.recommend request).2.candidates, candidate.itemId ≠ 0)
    ∧ (p.recommend request).2.candidates.length ≤ request.maxResults.toNat
  := by
  by_cases hnil : (p.recommend request).2.candidates = []
  · rw [hnil]
    simp
  · obtain ⟨profile, response, hprofile, hresponse, hranked⟩ :=
      Gateway.of_fetch_eq_ok (Gateway.fetch_eq_ok_of_ne_nil hnil)
    have hfrom : HeuristicRankTask.RankedFrom (Gateway.rankRequest request profile response)
        (p.gateway.rankingStub (Gateway.rankRequest request profile response)).2.rankedCandidates :=
      of_remote (fun answer : RankResponse => HeuristicRankTask.RankedFrom
          (Gateway.rankRequest request profile response) answer.rankedCandidates)
        (HeuristicRankTask.rankedFrom_nil _) (RankingService.rankedFrom_rank _ _ _)
    obtain ⟨hitems, hnodup, hlength⟩ := hfrom
    have hcandidates := Gateway.of_fetchRankedCandidates_eq_ok hranked
    have hretrieved : ∀ candidate ∈ (p.recommend request).2.candidates,
        ∃ c ∈ response.candidates, c.itemId = candidate.itemId := by
      intro candidate hcandidate
      rw [recommend, ← hcandidates] at hcandidate
      obtain ⟨r, hr, rfl⟩ := List.mem_map.mp hcandidate
      have hid := List.mem_filter.mp (List.mem_eraseDups.mp (hitems r hr))
      exact List.mem_map.mp hid.1
    have hkept := not_consumed_of_fetchCandidates hresponse
    refine ⟨?_, ?_, ?_, ?_⟩
    · intro candidate hcandidate
      obtain ⟨c, hc, he⟩ := hretrieved candidate hcandidate
      use profile, findByUserId_of_fetchProfile hprofile
      rw [← he]
      exact (hkept c hc).2
    · rw [recommend, ← hcandidates, List.map_map]
      exact hnodup
    · intro candidate hcandidate
      obtain ⟨c, hc, he⟩ := hretrieved candidate hcandidate
      rw [← he]
      exact (hkept c hc).1
    · rw [recommend, ← hcandidates, List.length_map]
      exact hlength

/-! ### Users with nothing to recommend -/

/-- The stores look up each entry without an error, and no call fails on the way. -/
structure Answers (p : Pipeline) (findProfile : ℤ → Option Profile)
    (findItems : ℕ → ℤ → List ItemNeighbor) (findUsers : ℕ → ℤ → List UserNeighbor)
    (findEntry : ℕ → Option ItemIndexEntry) : Prop where
  profiles : p.profileStore.Answers findProfile
  items : p.itemCf.itemSimilarityStore.Answers findItems
  users : p.userSimilarityStore.Answers findUsers
  entries : ∀ ids, p.itemIndexStore.findByItemIds ids = .ok (ids.map findEntry)
  no_profileFailure : ∀ request, p.profileFailure request = none
  no_batchFailure : ∀ request, p.batchFailure request = none
  no_itemCfFailure : ∀ request, p.itemCfFailure request = none
  no_userCfFailure : ∀ request, p.userCfFailure request = none
  no_retrievalFailure : ∀ request, p.retrievalFailure request = none
  no_rankingFailure : ∀ request, p.rankingFailure request = none

/-- The request the retrievers get. -/
def retrieverRequest (p : Pipeline) (request : RecommendRequest) (profile : Profile) :
    RetrieverRequest where
  userId := request.userId
  profile := some profile
  maxCandidateCount := RetrievalOrchestrator.computeRetrieverMaxCandidateCount request.maxResults
    p.recallCandidateExpandRatio

/-- A retriever finds an item that the user has not consumed. -/
def Recommendable (p : Pipeline) (findProfile : ℤ → Option Profile)
    (findItems : ℕ → ℤ → List ItemNeighbor) (findUsers : ℕ → ℤ → List UserNeighbor)
    (request : RecommendRequest) (profile : Profile) : Prop :=
  p.itemCf.Finds findItems (p.retrieverRequest request profile)
    ∨ p.userCf.Finds findUsers findProfile (p.retrieverRequest request profile)

section Answered

variable {findProfile : ℤ → Option Profile} {findItems : ℕ → ℤ → List ItemNeighbor}
  {findUsers : ℕ → ℤ → List UserNeighbor} {findEntry : ℕ → Option ItemIndexEntry}
  {request : RecommendRequest} {profile : Profile}

theorem fetchProfile_eq (h : p.Answers findProfile findItems findUsers findEntry)
    (hprofile : findProfile request.userId = some profile) :
  p.gateway.fetchProfile request = .ok profile
  := by
  have hget : p.profileService.getProfile { userId := request.userId }
      = (.OK, { status := .success, msg := "", profile := profile }) :=
    ProfileService.getProfile_eq h.profiles hprofile
  have hok : (p.profileService.getProfile { userId := request.userId }).1 = .OK := by rw [hget]
  have hremote : p.gateway.profileStub { userId := request.userId }
      = p.profileService.getProfile { userId := request.userId } :=
    remote_eq (h.no_profileFailure _) hok
  simp only [Gateway.fetchProfile, hremote, hget]
  rfl

omit [Arithmetic ℚ] in
theorem profilesAnswered (h : p.Answers findProfile findItems findUsers findEntry) :
  p.userCf.ProfilesAnswered findProfile
  := by
  intro batch
  have hbatch := ProfileService.batchGetUserCfProfiles_eq (s := p.profileService) h.profiles batch
  have hok : (p.profileService.batchGetUserCfProfiles batch).1 = .OK := by rw [hbatch]
  rw [← hbatch]
  exact remote_eq (h.no_batchFailure _) hok

omit [Arithmetic ℚ] in
/-- A retriever answers a valid request as `DoRetrieve` does. -/
theorem accepted_of_doRetrieve (name : String) (defaultMaxCandidateCount : ℤ)
    {failure : RetrieverRequest → Option Failure} {doRetrieve : Stub RetrieverRequest RetrieverResponse}
    {retrieverRequest : RetrieverRequest} (hfailure : ∀ request, failure request = none)
    (huser : 0 < retrieverRequest.userId) (hprofile : retrieverRequest.profile.isSome)
    (hmax : 0 < retrieverRequest.maxCandidateCount)
    (hok : (doRetrieve retrieverRequest).1 = .OK)
    (hstatus : (doRetrieve retrieverRequest).2.status = .success
      ∨ (doRetrieve retrieverRequest).2.status = .emptyTriggerSeeds) :
  ∃ response : RetrieverResponse,
    RetrievalOrchestrator.fetchCandidatesFromRetriever name
        (some (remote failure (RetrieverBase.retrieve defaultMaxCandidateCount doRetrieve)))
        retrieverRequest = (.OK, response)
      ∧ response.candidates = (doRetrieve retrieverRequest).2.candidates
  := by
  have hproblem : RetrieverBase.requestProblem retrieverRequest = none := by
    cases hp : retrieverRequest.profile with
    | none => simp [hp] at hprofile
    | some profile => simp [RetrieverBase.requestProblem, not_le.mpr huser, hp]
  obtain ⟨hok', hstatus', hcandidates⟩ := RetrieverBase.retrieve_eq defaultMaxCandidateCount doRetrieve
    hproblem hmax
  have hremote : remote failure (RetrieverBase.retrieve defaultMaxCandidateCount doRetrieve)
      retrieverRequest = RetrieverBase.retrieve defaultMaxCandidateCount doRetrieve
        retrieverRequest := remote_eq (hfailure _) (hok'.trans hok)
  refine ⟨_, RetrievalOrchestrator.fetchCandidatesFromRetriever_of_accepted ?_ ?_, ?_⟩
  · rw [hremote, hok', hok]
  · rw [hremote, hstatus', RetrievalOrchestrator.isRetrieverResponseStatusAccepted]
    simpa using hstatus
  · rw [hremote, hcandidates]

/-- The request the orchestrator gets. -/
def retrieveRequest (request : RecommendRequest) (profile : Profile) : RetrieveRequest where
  userId := request.userId
  profile := some profile
  maxCandidateCount := request.maxResults

omit [Arithmetic ℚ] in
theorem exists_itemId_ne_zero {candidates : List CandidateItem}
    (hids : ∀ candidate ∈ candidates, candidate.itemId ≠ 0) :
  (∃ candidate ∈ candidates, candidate.itemId ≠ 0) ↔ candidates ≠ []
  := by
  constructor
  · rintro ⟨candidate, hcandidate, -⟩
    exact List.ne_nil_of_mem hcandidate
  · intro hne
    obtain ⟨candidate, hcandidate⟩ := List.exists_mem_of_ne_nil _ hne
    exact ⟨candidate, hcandidate, hids candidate hcandidate⟩

/-- Both retrievers are accepted, and one has a candidate when there is something to
recommend. -/
theorem retrieverResponses_eq (h : p.Answers findProfile findItems findUsers findEntry)
    (huser : 0 < request.userId) (hmax : 0 < request.maxResults) :
  ∃ itemCfResponse userCfResponse : RetrieverResponse,
    p.orchestrator.retrieverResponses (retrieveRequest request profile)
      = [itemCfResponse, userCfResponse]
    ∧ ((∃ response ∈ [itemCfResponse, userCfResponse], ∃ candidate ∈ response.candidates,
        candidate.itemId ≠ 0)
      ↔ p.Recommendable findProfile findItems findUsers request profile)
  := by
  have hcount : 0 < (p.retrieverRequest request profile).maxCandidateCount :=
    RetrievalOrchestrator.computeRetrieverMaxCandidateCount_pos hmax _
  obtain ⟨hitemOk, hitemStatus, hitemFinds⟩ :=
    RetrieverItemCf.doRetrieve_of_answers h.items hcount
  obtain ⟨huserOk, huserStatus, huserFinds⟩ :=
    RetrieverUserCf.doRetrieve_of_answers (r := p.userCf) h.users (profilesAnswered h) hcount
  obtain ⟨itemCfResponse, hitem, hitemCandidates⟩ :=
    accepted_of_doRetrieve "item_cf" p.itemCf.defaultMaxCandidateCount h.no_itemCfFailure huser
      rfl hcount hitemOk hitemStatus
  obtain ⟨userCfResponse, huserCf, huserCandidates⟩ :=
    accepted_of_doRetrieve "user_cf" p.userCf.defaultMaxCandidateCount h.no_userCfFailure huser
      rfl hcount huserOk huserStatus
  have houtcomes : p.orchestrator.outcomes (retrieveRequest request profile)
      = [("item_cf", .OK, itemCfResponse), ("user_cf", .OK, userCfResponse)] := by
    rw [← hitem, ← huserCf]
    rfl
  refine ⟨itemCfResponse, userCfResponse, ?_, ?_⟩
  · rw [RetrievalOrchestrator.retrieverResponses, houtcomes]
    rfl
  · have hitemIds : ∀ candidate ∈ itemCfResponse.candidates, candidate.itemId ≠ 0 := by
      rw [hitemCandidates]
      exact fun candidate hc => (RetrieverItemCf.not_consumed_of_mem_doRetrieve hc).1
    have huserIds : ∀ candidate ∈ userCfResponse.candidates, candidate.itemId ≠ 0 := by
      rw [huserCandidates]
      exact fun candidate hc => (RetrieverUserCf.not_consumed_of_mem_doRetrieve hc).1
    rw [Recommendable, ← hitemFinds, ← huserFinds, ← hitemCandidates, ← huserCandidates]
    simp only [List.mem_cons, List.not_mem_nil, or_false, exists_eq_or_imp, exists_eq_left]
    apply or_congr
    · exact exists_itemId_ne_zero hitemIds
    · exact exists_itemId_ne_zero huserIds

/-- The retrieval succeeds, and has candidates when there is something to recommend. -/
theorem fetchCandidates_eq (h : p.Answers findProfile findItems findUsers findEntry)
    (huser : 0 < request.userId) (hmax : 0 < request.maxResults) :
  ∃ response : RetrieveResponse, p.gateway.fetchCandidates request profile = .ok response
    ∧ (response.candidates ≠ []
      ↔ p.Recommendable findProfile findItems findUsers request profile)
  := by
  obtain ⟨itemCfResponse, userCfResponse, hresponses, hany⟩ :=
    retrieverResponses_eq h huser hmax
  have hne : p.orchestrator.retrieverResponses (retrieveRequest request profile) ≠ [] := by
    rw [hresponses]
    exact List.cons_ne_nil _ _
  obtain ⟨hok, hstatus, hcandidates⟩ :=
    RetrievalOrchestrator.retrieve_of_retrieverResponses huser rfl hne
  have hremote : p.gateway.retrievalStub (retrieveRequest request profile)
      = p.orchestrator.retrieve (retrieveRequest request profile) :=
    remote_eq (h.no_retrievalFailure _) hok
  refine ⟨(p.orchestrator.retrieve (retrieveRequest request profile)).2, ?_, ?_⟩
  · have hstub : p.gateway.retrievalStub {
          userId := request.userId
          profile := some profile
          maxCandidateCount := request.maxResults }
        = p.orchestrator.retrieve (retrieveRequest request profile) := hremote
    simp only [Gateway.fetchCandidates, hstub, hok, hstatus]
    rfl
  · have hmerged : 0 < (retrieveRequest request profile).maxCandidateCount := hmax
    rw [hcandidates, RetrievalOrchestrator.mergedCandidates_ne_nil hmerged, hresponses]
    exact hany

/-- The ranking fails exactly when nothing is retrieved. -/
theorem fetchRankedCandidates_eq (h : p.Answers findProfile findItems findUsers findEntry)
    (huser : 0 < request.userId) (hmax : 0 < request.maxResults)
    (hmatch : profile.userId = 0 ∨ profile.userId = request.userId)
    {response : RetrieveResponse}
    (hids : ∀ candidate ∈ response.candidates, candidate.itemId ≠ 0) :
  (response.candidates = [] →
      ∃ message, p.gateway.fetchRankedCandidates request profile response
        = .error (⟨.internal, message⟩, .systemError))
    ∧ (response.candidates ≠ [] →
      ∃ candidates, p.gateway.fetchRankedCandidates request profile response = .ok candidates)
  := by
  have hproblem : RankingService.requestProblem (Gateway.rankRequest request profile response)
      = none := by
    have hmismatch : ¬(profile.userId ≠ 0 ∧ profile.userId ≠ request.userId) := by omega
    simp only [RankingService.requestProblem, Gateway.rankRequest, not_le.mpr huser, if_false,
      if_neg hmismatch, not_le.mpr hmax]
  obtain ⟨hok, hstatus⟩ := RankingService.rank_heuristic p.log1p h.entries hproblem rfl
  have hremote : p.gateway.rankingStub (Gateway.rankRequest request profile response)
      = p.rankingService.rank (Gateway.rankRequest request profile response) :=
    remote_eq (h.no_rankingFailure _) hok
  have hdistinct : distinctItems (Gateway.rankRequest request profile response) = []
      ↔ response.candidates = [] := by
    rw [← not_iff_not]
    change distinctItems (Gateway.rankRequest request profile response) ≠ []
      ↔ response.candidates ≠ []
    rw [← exists_itemId_ne_zero hids, distinctItems_ne_nil]
    rfl
  simp only [Gateway.fetchRankedCandidates, hremote]
  change ((RankingService.heuristic p.log1p p.itemIndexStore).rank
    (Gateway.rankRequest request profile response)).1 = .OK at hok
  constructor
  · intro hnil
    rw [if_pos (hdistinct.mpr hnil)] at hstatus
    simp only [rankingService, hok, hstatus]
    exact ⟨_, rfl⟩
  · intro hne
    rw [if_neg (mt hdistinct.mp hne)] at hstatus
    simp only [rankingService, hok, hstatus]
    exact ⟨_, rfl⟩

/-- There is something to recommend when a retriever returns a candidate. -/
theorem recommendable_iff_retrieve (h : p.Answers findProfile findItems findUsers findEntry)
    (huser : 0 < request.userId) (hmax : 0 < request.maxResults) :
  p.Recommendable findProfile findItems findUsers request profile
    ↔ (p.itemCf.retrieve (p.retrieverRequest request profile)).2.candidates ≠ []
      ∨ (p.userCf.retrieve (p.retrieverRequest request profile)).2.candidates ≠ []
  := by
  have hcount : 0 < (p.retrieverRequest request profile).maxCandidateCount :=
    RetrievalOrchestrator.computeRetrieverMaxCandidateCount_pos hmax _
  have hproblem : RetrieverBase.requestProblem (p.retrieverRequest request profile) = none := by
    simp [RetrieverBase.requestProblem, retrieverRequest, not_le.mpr huser]
  have hitem := (RetrieverItemCf.doRetrieve_of_answers h.items hcount).2.2
  have huserCf := (RetrieverUserCf.doRetrieve_of_answers (r := p.userCf) h.users
    (profilesAnswered h) hcount).2.2
  rw [Recommendable, ← hitem, ← huserCf, RetrieverItemCf.retrieve, RetrieverUserCf.retrieve,
    (RetrieverBase.retrieve_eq _ p.itemCf.doRetrieve hproblem hcount).2.2,
    (RetrieverBase.retrieve_eq _ p.userCf.doRetrieve hproblem hcount).2.2]

end Answered

end Rounded

/-- Services whose stores know one user, who has done nothing yet. -/
def newUser : Pipeline where
  profileStore := ⟨fun id => .ok (if id = 42 then some { userId := 42 } else none)⟩
  userSimilarityStore := ⟨fun _ _ => .ok []⟩
  itemIndexStore := ⟨fun ids => .ok (ids.map fun _ => none)⟩
  itemCf := {
    itemSimilarityStore := ⟨fun ids _ => .ok (ids.map fun _ => [])⟩
    defaultMaxCandidateCount_pos := by decide
    maxTriggerSeedCount_pos := by decide
    redisCommandBatchSize_pos := by decide
    scoreMultiplier_pos := by decide }
  userCfOptions := {
    defaultMaxCandidateCount_pos := by decide
    triggerSeedUserCount_pos := by decide
    scoreMultiplier_pos := by decide }
  recallCandidateExpandRatio := 1
  ratio_pos := by decide
  log1p := fun _ => 0

theorem answers_newUser :
  newUser.Answers (fun id => if id = 42 then some { userId := 42 } else none) (fun _ _ => [])
    (fun _ _ => []) (fun _ => none)
  where
  profiles _ := rfl
  items _ _ := rfl
  users _ _ := rfl
  entries _ := rfl
  no_profileFailure _ := rfl
  no_batchFailure _ := rfl
  no_itemCfFailure _ := rfl
  no_userCfFailure _ := rfl
  no_retrievalFailure _ := rfl
  no_rankingFailure _ := rfl

/-- The profile of a user who liked an item a little. -/
def likesLittle : Profile where
  userId := 42
  behaviors := { likedItems := [⟨3, 2 ^ (-100 : ℤ)⟩] }

/-- Services whose stores know that user, and one similar item. -/
def oneSimilar (score : ℚ) : Pipeline :=
  { newUser with
    profileStore := ⟨fun id => .ok (if id = 42 then some likesLittle else none)⟩
    itemCf := { newUser.itemCf with
      itemSimilarityStore := ⟨fun ids _ => .ok (ids.map fun _ => [⟨7, score⟩])⟩ } }

theorem answers_oneSimilar (score : ℚ) :
  (oneSimilar score).Answers (fun id => if id = 42 then some likesLittle else none)
    (fun _ _ => [⟨7, score⟩]) (fun _ _ => []) (fun _ => none)
  where
  profiles _ := rfl
  items _ _ := rfl
  users _ _ := rfl
  entries _ := rfl
  no_profileFailure _ := rfl
  no_batchFailure _ := rfl
  no_itemCfFailure _ := rfl
  no_userCfFailure _ := rfl
  no_retrievalFailure _ := rfl
  no_rankingFailure _ := rfl

end Pipeline

end RecommendationEngine
