import Mathlib.Data.Rat.Defs

/-!
# Messages

The protobuf messages of the recommendation engine and the status of a remote call.  Scores and
weights are rationals, and arithmetic on them is exact.  `uint64` identifiers are naturals and
`int32` and `int64` values are integers.  An unset message field is `none` where the code asks
whether it is set, and the empty message elsewhere.  Trace and request identifiers, which only
the log reads, are left out.
-/

namespace RecommendationEngine

/-- The greatest `int`. -/
def intMax : ℤ := 2147483647

/-- The greatest `int64_t`. -/
def int64Max : ℤ := 9223372036854775807

/-! ### Remote calls -/

/-- The gRPC status codes. -/
inductive StatusCode where
  | ok | cancelled | unknown | invalidArgument | deadlineExceeded | notFound | alreadyExists
  | permissionDenied | resourceExhausted | failedPrecondition | aborted | outOfRange
  | unimplemented | internal | unavailable | dataLoss | unauthenticated
  deriving DecidableEq, Repr

/-- The status of a remote call. -/
structure Status where
  code : StatusCode
  message : String := ""
  deriving DecidableEq, Repr

namespace Status

/-- `Status::OK`. -/
def OK : Status where
  code := .ok

/-- A status is OK when its code is. -/
def isOk (status : Status) : Bool :=
  status.code = .ok

@[simp]
theorem isOk_OK :
  OK.isOk = true
  := rfl

end Status

/-- A service as its client sees it: the status of a call, and the response it fills. -/
abbrev Stub (Request Response : Type) := Request → Status × Response

/-! ### Profiles -/

/-- An item a user interacted with. -/
structure WeightedItem where
  itemId : ℤ := 0
  weight : ℚ := 0
  deriving DecidableEq, Repr

/-- A weighted genre. -/
structure GenreInterest where
  genre : String := ""
  weight : ℚ := 0
  deriving DecidableEq, Repr

/-- A weighted tag. -/
structure TagInterest where
  tag : String := ""
  weight : ℚ := 0
  deriving DecidableEq, Repr

/-- The genres and tags a user is interested in. -/
structure Interests where
  genres : List GenreInterest := []
  tags : List TagInterest := []
  deriving DecidableEq, Repr

/-- The items, genres and tags a user turned down. -/
structure NegativeFeedback where
  items : List WeightedItem := []
  genres : List GenreInterest := []
  tags : List TagInterest := []
  deriving DecidableEq, Repr

/-- The items a user interacted with, by kind of interaction. -/
structure Behaviors where
  likedItems : List WeightedItem := []
  recentLikedItems : List WeightedItem := []
  interestedItems : List WeightedItem := []
  ratedItems : List ℤ := []
  deriving DecidableEq, Repr

/-- The profile of a user. -/
structure Profile where
  userId : ℤ := 0
  interests : Interests := {}
  negativeFeedbacks : NegativeFeedback := {}
  behaviors : Behaviors := {}
  deriving DecidableEq, Repr

/-- The status in a response of the profile service. -/
inductive ProfileServiceStatus where
  | success | invalidRequest | userNotFound | systemError
  deriving DecidableEq, Repr

/-- The number of a status on the wire. -/
def ProfileServiceStatus.toInt : ProfileServiceStatus → ℤ
  | .success => 0
  | .invalidRequest => 1
  | .userNotFound => 2
  | .systemError => 3

/-- A request for the profile of a user. -/
structure GetProfileRequest where
  userId : ℤ := 0
  deriving DecidableEq, Repr

/-- The profile of a user, when the status is a success. -/
structure GetProfileResponse where
  status : ProfileServiceStatus := .success
  msg : String := ""
  profile : Profile := {}
  deriving DecidableEq, Repr

/-- A request for the behaviours of several users. -/
structure BatchGetUserCfProfilesRequest where
  userIds : List ℤ := []
  deriving DecidableEq, Repr

/-- The part of a profile that user-based retrieval reads. -/
structure UserCfProfile where
  userId : ℤ := 0
  recentLikedItems : List WeightedItem := []
  likedItems : List WeightedItem := []
  interestedItems : List WeightedItem := []
  deriving DecidableEq, Repr

/-- The behaviours of one of several users, with a status of its own. -/
structure UserCfProfileResult where
  status : ProfileServiceStatus := .success
  userId : ℤ := 0
  profile : UserCfProfile := {}
  deriving DecidableEq, Repr

/-- The behaviours of several users, in the order of the request. -/
structure BatchGetUserCfProfilesResponse where
  status : ProfileServiceStatus := .success
  msg : String := ""
  results : List UserCfProfileResult := []
  deriving DecidableEq, Repr

/-! ### Candidates -/

/-- The kind of an item. -/
inductive ItemType where
  | unspecified | video | imageText
  deriving DecidableEq, Repr

/-- The kind of an entity that a candidate is explained by. -/
inductive EntityType where
  | unspecified | item | author | query | tag | topic | user
  deriving DecidableEq, Repr

/-- The way in which a candidate was found. -/
inductive ReasonType where
  | unspecified | userCf | itemCf | embedding | hot | follow
  deriving DecidableEq, Repr

/-- The entity that a candidate is explained by. -/
structure TriggerEntity where
  entityType : EntityType := .unspecified
  entityId : ℕ := 0
  deriving DecidableEq, Repr

/-- Why an item was retrieved. -/
structure RetrievalReason where
  reasonType : ReasonType := .unspecified
  trigger : TriggerEntity := {}
  reasonScore : ℚ := 0
  description : String := ""
  deriving DecidableEq, Repr

/-- What one retriever says about an item. -/
structure RetrievalSignal where
  retriever : String := ""
  retrieveScore : ℚ := 0
  reasons : List RetrievalReason := []
  deriving DecidableEq, Repr

/-- A retrieved item.  `retriever`, `retrieveScore` and `reasons` are older than
`retrievalSignals` and are derived from them. -/
structure CandidateItem where
  itemId : ℕ := 0
  itemType : ItemType := .unspecified
  authorId : ℕ := 0
  retriever : String := ""
  retrieveScore : ℚ := 0
  reasons : List RetrievalReason := []
  retrievalSignals : List RetrievalSignal := []
  deriving DecidableEq, Repr

/-! ### Retrieval -/

/-- The status in a response of a retriever. -/
inductive RetrieverServiceStatus where
  | success | invalidRequest | userNotFound | systemError | emptyTriggerSeeds
  deriving DecidableEq, Repr

/-- The number of a status on the wire. -/
def RetrieverServiceStatus.toInt : RetrieverServiceStatus → ℤ
  | .success => 0
  | .invalidRequest => 1
  | .userNotFound => 2
  | .systemError => 3
  | .emptyTriggerSeeds => 4

/-- A request to a retriever for candidates. -/
structure RetrieverRequest where
  userId : ℤ := 0
  profile : Option Profile := none
  maxCandidateCount : ℤ := 0
  deriving DecidableEq, Repr

/-- The candidates of a retriever. -/
structure RetrieverResponse where
  status : RetrieverServiceStatus := .success
  msg : String := ""
  candidateCount : ℤ := 0
  candidates : List CandidateItem := []
  deriving DecidableEq, Repr

/-- The status in a response of the retrieval service. -/
inductive RetrievalServiceStatus where
  | success | invalidRequest | userNotFound | systemError
  deriving DecidableEq, Repr

/-- The number of a status on the wire. -/
def RetrievalServiceStatus.toInt : RetrievalServiceStatus → ℤ
  | .success => 0
  | .invalidRequest => 1
  | .userNotFound => 2
  | .systemError => 3

/-- A request to the retrieval service for candidates. -/
structure RetrieveRequest where
  userId : ℤ := 0
  profile : Option Profile := none
  maxCandidateCount : ℤ := 0
  deriving DecidableEq, Repr

/-- The merged candidates of the retrievers. -/
structure RetrieveResponse where
  status : RetrievalServiceStatus := .success
  msg : String := ""
  candidateCount : ℤ := 0
  candidates : List CandidateItem := []
  deriving DecidableEq, Repr

/-! ### Ranking -/

/-- The status in a response of the ranking service. -/
inductive RankingServiceStatus where
  | success | invalidRequest | userNotFound | systemError | emptyCandidates
  deriving DecidableEq, Repr

/-- The number of a status on the wire. -/
def RankingServiceStatus.toInt : RankingServiceStatus → ℤ
  | .success => 0
  | .invalidRequest => 1
  | .userNotFound => 2
  | .systemError => 3
  | .emptyCandidates => 4

/-- What a part of a score is for. -/
inductive RankingScoreFactorType where
  | unspecified | retrieval | interest | negativeFeedback | quality | diversity | freshness
  | exploration
  deriving DecidableEq, Repr

/-- The ranker that a request names, and the details it asks for. -/
structure RankingOptions where
  ranker : String := ""
  includeScoreFactors : Bool := false
  includeItemFeatures : Bool := false
  deriving DecidableEq, Repr

/-- A request to rank candidates. -/
structure RankRequest where
  userId : ℤ := 0
  profile : Option Profile := none
  candidates : List CandidateItem := []
  maxResults : ℤ := 0
  options : RankingOptions := {}
  deriving DecidableEq, Repr

/-- A part of the score of a candidate: its contribution is its value times its weight. -/
structure RankingScoreFactor where
  factorType : RankingScoreFactorType := .unspecified
  name : String := ""
  rawValue : ℚ := 0
  weight : ℚ := 0
  contribution : ℚ := 0
  description : String := ""
  deriving DecidableEq, Repr

/-- A tag of an item with its weight. -/
structure RankingWeightedTag where
  tag : String := ""
  weight : ℚ := 0
  deriving DecidableEq, Repr

/-- The average rating of an item and the number of its ratings. -/
structure RankingRatingFeatures where
  avg : ℚ := 0
  count : ℤ := 0
  deriving DecidableEq, Repr

/-- What the item index knows of an item. -/
structure RankingItemFeatures where
  itemId : ℕ := 0
  title : String := ""
  year : ℤ := 0
  genres : List String := []
  topTags : List RankingWeightedTag := []
  rating : RankingRatingFeatures := {}
  deriving DecidableEq, Repr

/-- A candidate with its score and its place. -/
structure RankedCandidateItem where
  candidate : CandidateItem := {}
  rankScore : ℚ := 0
  rankPosition : ℤ := 0
  ranker : String := ""
  scoreFactors : List RankingScoreFactor := []
  itemFeatures : Option RankingItemFeatures := none
  retrievalSignals : List RetrievalSignal := []
  deriving DecidableEq, Repr

/-- The candidates by rank. -/
structure RankResponse where
  status : RankingServiceStatus := .success
  msg : String := ""
  inputCandidateCount : ℤ := 0
  rankedCandidateCount : ℤ := 0
  rankedCandidates : List RankedCandidateItem := []
  deriving DecidableEq, Repr

/-! ### Recommendation -/

/-- The status in a response of the gateway. -/
inductive RecommendationStatus where
  | success | invalidRequest | userNotFound | systemError
  deriving DecidableEq, Repr

/-- A request for recommendations. -/
structure RecommendRequest where
  userId : ℤ := 0
  maxResults : ℤ := 0
  deriving DecidableEq, Repr

/-- The items recommended. -/
structure RecommendResponse where
  status : RecommendationStatus := .success
  msg : String := ""
  candidates : List CandidateItem := []
  deriving DecidableEq, Repr

end RecommendationEngine
