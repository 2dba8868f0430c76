import ShootingStar.Messages

/-!
# The profile service

The service looks up profiles in a store, one at a time or, for user-based retrieval, in
batches.  A batch is answered in order: with a store that looks up each user, the results are
those of the users one by one (`batchGetUserCfProfiles_eq`).
-/

namespace RecommendationEngine

/-- The lookup of a user, or the message of the exception it throws. -/
structure ProfileStore where
  findByUserId : ℤ → Except String (Option Profile)

/-- The store looks up each user with `find` and does not fail. -/
def ProfileStore.Answers (store : ProfileStore) (find : ℤ → Option Profile) : Prop :=
  ∀ userId, store.findByUserId userId = .ok (find userId)

/-- The service over a store of profiles. -/
structure ProfileService where
  profileStore : ProfileStore

namespace ProfileService

/-- The constructor, with the message of the exception it throws; a null store is `none`. -/
def create : Option ProfileStore → Except String ProfileService
  | none => .error "ProfileServiceImpl profile_store must not be null."
  | some store => .ok ⟨store⟩

/-- `GetProfile`. -/
def getProfile (s : ProfileService) : Stub GetProfileRequest GetProfileResponse := fun request =>
  match s.profileStore.findByUserId request.userId with
  | .error message => (⟨.internal, message⟩, { status := .systemError, msg := message })
  | .ok none =>
    let message := s!"User ID of {request.userId} not found."
    (⟨.notFound, message⟩, { status := .userNotFound, msg := message })
  | .ok (some profile) => (.OK, { status := .success, msg := "", profile := profile })

/-- The part of a profile that the retriever over similar users reads. -/
def fillUserCfProfile (source : Profile) : UserCfProfile where
  userId := source.userId
  recentLikedItems := source.behaviors.recentLikedItems
  likedItems := source.behaviors.likedItems
  interestedItems := source.behaviors.interestedItems

/-- The result of a lookup. -/
def userCfProfileResult (userId : ℤ) : Option Profile → UserCfProfileResult
  | none => { userId := userId, status := .userNotFound }
  | some profile =>
    { userId := userId, status := .success, profile := fillUserCfProfile profile }

/-- The loop over the users of a batch; it stops when the store fails. -/
def appendResults (s : ProfileService) (response : BatchGetUserCfProfilesResponse) :
    List ℤ → Status × BatchGetUserCfProfilesResponse
  | [] => (.OK, { response with status := .success, msg := "" })
  | userId :: userIds =>
    if userId ≤ 0 ∨ intMax < userId then
      let result := { userId := userId, status := .invalidRequest }
      appendResults s { response with results := response.results ++ [result] } userIds
    else
      match s.profileStore.findByUserId userId with
      | .error message =>
        (⟨.internal, message⟩, { response with
          status := .systemError
          msg := message
          results := response.results ++ [{ userId := userId }] })
      | .ok profile =>
        let result := userCfProfileResult userId profile
        appendResults s { response with results := response.results ++ [result] } userIds

/-- `BatchGetUserCfProfiles`. -/
def batchGetUserCfProfiles (s : ProfileService) :
    Stub BatchGetUserCfProfilesRequest BatchGetUserCfProfilesResponse := fun request =>
  s.appendResults {} request.userIds

/-! ### Stores that answer -/

/-- The result of a user when `find` looks up the profiles. -/
def resultOf (find : ℤ → Option Profile) (userId : ℤ) : UserCfProfileResult :=
  if userId ≤ 0 ∨ intMax < userId then { userId := userId, status := .invalidRequest }
  else userCfProfileResult userId (find userId)

variable {s : ProfileService} {find : ℤ → Option Profile}

theorem appendResults_eq (hstore : s.profileStore.Answers find)
    (response : BatchGetUserCfProfilesResponse) (userIds : List ℤ) :
  s.appendResults response userIds
    = (.OK, {
        status := .success
        msg := ""
        results := response.results ++ userIds.map (resultOf find) })
  := by
  induction userIds generalizing response with
  | nil => simp [appendResults]
  | cons userId userIds ih =>
      rw [appendResults]
      split
      next h => simp [ih, resultOf, h]
      next h => simp [hstore userId, ih, resultOf, h]

/-- The results of a batch are those of its users, in order. -/
theorem batchGetUserCfProfiles_eq (hstore : s.profileStore.Answers find)
    (request : BatchGetUserCfProfilesRequest) :
  s.batchGetUserCfProfiles request
    = (.OK, { status := .success, msg := "", results := request.userIds.map (resultOf find) })
  := by
  rw [batchGetUserCfProfiles, appendResults_eq hstore]
  rfl

/-- A stored profile is returned. -/
theorem getProfile_eq (hstore : s.profileStore.Answers find) {request : GetProfileRequest}
    {profile : Profile} (hprofile : find request.userId = some profile) :
  s.getProfile request = (.OK, { status := .success, msg := "", profile := profile })
  := by
  rw [getProfile, hstore, hprofile]

end ProfileService

end RecommendationEngine
