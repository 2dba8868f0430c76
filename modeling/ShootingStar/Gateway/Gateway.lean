import ShootingStar.Lib.Batch
import ShootingStar.Messages

/-!
# The gateway

The gateway fetches the profile of a user, retrieves candidates for it and has them ranked.  The
first call that fails ends the request.
-/

namespace RecommendationEngine

/-- The clients of the three services. -/
structure Gateway where
  profileStub : Stub GetProfileRequest GetProfileResponse
  retrievalStub : Stub RetrieveRequest RetrieveResponse
  rankingStub : Stub RankRequest RankResponse

namespace Gateway

/-- The constructor, with the message of the exception it throws; a null stub is `none`. -/
def create (profileStub : Option (Stub GetProfileRequest GetProfileResponse))
    (retrievalStub : Option (Stub RetrieveRequest RetrieveResponse))
    (rankingStub : Option (Stub RankRequest RankResponse)) : Except String Gateway :=
  match profileStub, retrievalStub, rankingStub with
  | none, _, _ => .error "GatewayServiceImpl profile_stub must not be null."
  | some _, none, _ => .error "GatewayServiceImpl retrieval_stub must not be null."
  | some _, some _, none => .error "GatewayServiceImpl ranking_stub must not be null."
  | some profileStub, some retrievalStub, some rankingStub =>
    .ok ⟨profileStub, retrievalStub, rankingStub⟩

/-- The status of a failed call, and the status of the recommendation. -/
abbrev Failed := Status × RecommendationStatus

/-- What a message of a service adds to an error message. -/
def withReason (message reason : String) : String :=
  if reason = "" then message else message ++ s!" reason: {reason}"

/-- The failure of a service that answers with a status other than success. -/
def serviceFailure (invalid : Bool) (message : String) : Failed :=
  if invalid then (⟨.invalidArgument, message⟩, .invalidRequest)
  else (⟨.internal, message⟩, .systemError)

/-- The profile of the user, or how the request fails without one. -/
def fetchProfile (g : Gateway) (request : RecommendRequest) : Except Failed Profile :=
  let (status, response) := g.profileStub { userId := request.userId }
  if !status.isOk then
    if status.code = .notFound ∨ response.status = .userNotFound then
      .error (⟨.notFound, s!"User ID of {request.userId} not found."⟩, .userNotFound)
    else
      .error (⟨.internal,
        s!"Failed to fetch profile for user {request.userId}: {status.message}"⟩, .systemError)
  else if response.status ≠ .success then
    let message := withReason
      (s!"Profile service returned non-success status {response.status.toInt}"
        ++ s!" for user {request.userId}.") response.msg
    .error (if response.status = .userNotFound then (⟨.notFound, message⟩, .userNotFound)
      else (⟨.internal, message⟩, .systemError))
  else .ok response.profile

/-- The response of the retrieval service, or how the request fails without one. -/
def fetchCandidates (g : Gateway) (request : RecommendRequest) (profile : Profile) :
    Except Failed RetrieveResponse :=
  let (status, response) := g.retrievalStub {
    userId := request.userId
    profile := some profile
    maxCandidateCount := request.maxResults }
  if !status.isOk then
    .error (serviceFailure (status.code = .invalidArgument)
      (s!"Failed to fetch retrieval candidates for user {request.userId}:"
        ++ s!" {status.message}"))
  else if response.status ≠ .success then
    .error (serviceFailure (response.status = .invalidRequest)
      (withReason (s!"Retrieval service returned non-success status {response.status.toInt}"
        ++ s!" for user {request.userId}.") response.msg))
  else .ok response

/-- The request that has the retrieved candidates ranked. -/
def rankRequest (request : RecommendRequest) (profile : Profile)
    (retrievalResponse : RetrieveResponse) : RankRequest where
  userId := request.userId
  profile := some profile
  maxResults := request.maxResults
  candidates := retrievalResponse.candidates

/-- The candidates in the order of the ranking service, or how the request fails without them. -/
def fetchRankedCandidates (g : Gateway) (request : RecommendRequest) (profile : Profile)
    (retrievalResponse : RetrieveResponse) : Except Failed (List CandidateItem) :=
  let (status, response) := g.rankingStub (rankRequest request profile retrievalResponse)
  if !status.isOk then
    .error (serviceFailure (status.code = .invalidArgument)
      s!"Failed to rank candidates for user {request.userId}: {status.message}")
  else if response.status ≠ .success then
    .error (serviceFailure (response.status = .invalidRequest)
      (withReason (s!"Ranking service returned non-success status {response.status.toInt}"
        ++ s!" for user {request.userId}.") response.msg))
  else .ok (response.rankedCandidates.map (·.candidate))

/-- The candidates of a request, or the failure of the first call that fails. -/
def fetch (g : Gateway) (request : RecommendRequest) : Except Failed (List CandidateItem) := do
  let profile ← g.fetchProfile request
  let retrievalResponse ← g.fetchCandidates request profile
  g.fetchRankedCandidates request profile retrievalResponse

/-- `Recommend`. -/
def recommend (g : Gateway) : Stub RecommendRequest RecommendResponse := fun request =>
  match g.fetch request with
  | .error (status, recommendationStatus) =>
    (status, { status := recommendationStatus, msg := status.message })
  | .ok candidates => (.OK, { status := .success, msg := "", candidates := candidates })

/-! ### Successful requests -/

variable {g : Gateway} {request : RecommendRequest}

/-- The profile of a user is that of a successful answer of the profile service. -/
theorem of_fetchProfile_eq_ok {profile : Profile} (h : g.fetchProfile request = .ok profile) :
  (g.profileStub { userId := request.userId }).1.isOk
    ∧ (g.profileStub { userId := request.userId }).2.status = .success
    ∧ (g.profileStub { userId := request.userId }).2.profile = profile
  := by
  rw [fetchProfile] at h
  generalize g.profileStub { userId := request.userId } = answer at h ⊢
  simp only at h
  split at h
  · split at h <;> cases h
  next hok =>
    split at h
    · cases h
    next hsuccess =>
      refine ⟨by simpa using hok, not_not.mp hsuccess, Except.ok.inj h⟩

/-- The candidates are those of a successful answer of the retrieval service. -/
theorem of_fetchCandidates_eq_ok {profile : Profile} {response : RetrieveResponse}
    (h : g.fetchCandidates request profile = .ok response) :
  (g.retrievalStub {
      userId := request.userId
      profile := some profile
      maxCandidateCount := request.maxResults }).2 = response
  := by
  rw [fetchCandidates] at h
  generalize g.retrievalStub _ = answer at h ⊢
  simp only at h
  split at h
  · cases h
  · split at h
    · cases h
    · exact Except.ok.inj h

/-- The ranked candidates are those of a successful answer of the ranking service. -/
theorem of_fetchRankedCandidates_eq_ok {profile : Profile} {response : RetrieveResponse}
    {candidates : List CandidateItem}
    (h : g.fetchRankedCandidates request profile response = .ok candidates) :
  (g.rankingStub (rankRequest request profile response)).2.rankedCandidates.map (·.candidate)
    = candidates
  := by
  rw [fetchRankedCandidates] at h
  generalize g.rankingStub _ = answer at h ⊢
  simp only at h
  split at h
  · cases h
  · split at h
    · cases h
    · exact Except.ok.inj h

/-- A request that succeeds has passed all three services. -/
theorem of_fetch_eq_ok {candidates : List CandidateItem} (h : g.fetch request = .ok candidates) :
  ∃ profile response, g.fetchProfile request = .ok profile
    ∧ g.fetchCandidates request profile = .ok response
    ∧ g.fetchRankedCandidates request profile response = .ok candidates
  := by
  obtain ⟨profile, hprofile, hrest⟩ := Batch.of_bind_eq_ok h
  obtain ⟨response, hresponse, hranked⟩ := Batch.of_bind_eq_ok hrest
  exact ⟨profile, response, hprofile, hresponse, hranked⟩

/-- A request that fails has no candidates. -/
theorem fetch_eq_ok_of_ne_nil (h : (g.recommend request).2.candidates ≠ []) :
  g.fetch request = .ok (g.recommend request).2.candidates
  := by
  simp only [recommend] at h ⊢
  split
  next hfetch =>
    rw [hfetch] at h
    exact absurd rfl h
  next hfetch => exact hfetch

end Gateway

end RecommendationEngine
