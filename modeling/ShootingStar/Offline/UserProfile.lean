import Mathlib.Data.String.Basic
import ShootingStar.Lib.Greatest
import ShootingStar.Lib.Ranked
import ShootingStar.Lib.Rounding

/-!
# User profiles

The builder makes the profile of a user from the ratings of the user.  It keeps the latest rating of
each item and goes over these once: by its value a rating makes the item a liked, an interested, a
negative or a neutral one.  The liked and the negative items also give their weights to their genres
and tags.  Every list of the profile is sorted and capped.
-/

namespace OfflineDataProcessing

/-- A rating of an item by a user. -/
structure RatingInteraction (K : Type*) where
  movieId : ℤ
  rating : K
  timestamp : ℤ
  deriving DecidableEq, Repr

/-- The score of a genre or a tag, the number of the ratings it comes from and the latest of their
times. -/
structure InterestAccumulator (K : Type*) [Zero K] where
  score : K := 0
  support : ℕ := 0
  updateTime : ℤ := 0
  deriving DecidableEq

/-- A tag of an item. -/
structure MovieTag (K : Type*) where
  tag : String
  weight : K
  deriving DecidableEq, Repr

/-- The functions of the standard library that a profile is computed with: `halfPow x` is a half to
the power of `x`, and `formatFields` is what `str.format` makes of a template with fields that select
attributes of the identifier or lay its digits out. -/
structure ProfileFunctions (K : Type*) where
  log : K → K
  log1p : K → K
  sqrt : K → K
  halfPow : K → K
  formatFields : String → ℤ → String

/-- A template with the identifier in the place of its fields, where a doubled brace is a brace;
`none` for other fields than the plain one and for a brace alone. -/
def fillTemplate (userId : ℤ) : List Char → Option (List Char)
  | [] => some []
  | '\x7b' :: '\x7b' :: cs => (fillTemplate userId cs).map ('\x7b' :: ·)
  | '\x7d' :: '\x7d' :: cs => (fillTemplate userId cs).map ('\x7d' :: ·)
  | '\x7b' :: 'u' :: 's' :: 'e' :: 'r' :: '_' :: 'i' :: 'd' :: '\x7d' :: cs =>
    (fillTemplate userId cs).map ((toString userId).toList ++ ·)
  | c :: cs =>
    if c = '\x7b' ∨ c = '\x7d' then none else (fillTemplate userId cs).map (c :: ·)

/-- `str.format` with the identifier as `user_id`. -/
def ProfileFunctions.format {K : Type*} (f : ProfileFunctions K) (template : String) (userId : ℤ) :
    String :=
  match fillTemplate userId template.toList with
  | some text => String.ofList text
  | none => f.formatFields template userId

/-- A template in which every brace is part of a field or doubled. -/
example (f : ProfileFunctions ℚ) : f.format "user_{user_id}\x7d\x7d" 7 = "user_7\x7d" := rfl

/-! ### The document -/

/-- An item with its weight. -/
structure WeightedItem (K : Type*) where
  itemId : ℤ
  weight : K
  eventTime : ℤ
  source : ℤ := 1
  confidence : K
  rawScore : K
  deriving DecidableEq, Repr

/-- A genre or a tag with its weight. -/
structure InterestRow (K : Type*) where
  name : String
  weight : K
  confidence : K
  updateTime : ℤ
  deriving DecidableEq, Repr

/-- Who a user is. -/
structure Demographics where
  username : String
  displayName : String
  birthYear : ℤ := 0
  gender : String := ""
  locationId : ℤ := 0
  deriving DecidableEq, Repr

/-- The users that a user follows, and those that follow them. -/
structure Social where
  following : List ℤ := []
  followers : List ℤ := []
  deriving DecidableEq, Repr

/-- The genres and the tags of a profile. -/
structure InterestRows (K : Type*) where
  genres : List (InterestRow K)
  tags : List (InterestRow K)
  deriving DecidableEq, Repr

/-- What a user does not like. -/
structure NegativeFeedbacks (K : Type*) extends InterestRows K where
  items : List (WeightedItem K)
  deriving DecidableEq, Repr

/-- The items of a user by how they were rated. -/
structure ProfileBehaviors (K : Type*) where
  likedItems : List (WeightedItem K)
  recentLikedItems : List (WeightedItem K)
  interestedItems : List (WeightedItem K)
  ratedItems : List ℤ
  deriving DecidableEq, Repr

/-- The statistics of the ratings of a user. -/
structure ProfileStats (K : Type*) where
  ratingCount : ℕ
  positiveRatingCount : ℕ
  weakPositiveRatingCount : ℕ
  negativeRatingCount : ℕ
  avgRating : K
  ratingStddev : K
  firstEventTime : ℤ
  lastEventTime : ℤ
  activeTimeframe : ℤ
  profileConfidence : K
  interestEntropy : K
  deriving DecidableEq, Repr

/-- The profile of a user. -/
structure UserProfile (K : Type*) where
  userId : ℤ
  demographics : Demographics
  social : Social := {}
  interests : InterestRows K
  negativeFeedbacks : NegativeFeedbacks K
  behaviors : ProfileBehaviors K
  embeddingSets : List (List K) := []
  stats : ProfileStats K
  deriving DecidableEq, Repr

/-! ### The options -/

variable {K : Type*} [Field K] [LinearOrder K]

/-- The options of the builder. -/
structure UserProfileBuilder.Options (K : Type*) [Field K] where
  outputFormat : String := "jsonl"
  positiveMinRating : K := 4
  weakPositiveMinRating : K := 3
  negativeMaxRating : K := 2
  maxRating : K := 5
  minRating : K := 1 / 2
  positiveMinWeight : K := 3 / 4
  weakMinWeight : K := 1 / 4
  weakMaxWeight : K := 13 / 20
  negativeMinWeight : K := 2 / 5
  recencyHalfLifeDays : K := 365
  recencyFloor : K := 1 / 5
  maxLikedItems : ℤ := 100
  maxRecentLikedItems : ℤ := 30
  maxInterestedItems : ℤ := 50
  maxRatedItems : ℤ := 300
  maxNegativeItems : ℤ := 50
  topGenres : ℤ := 10
  topTags : ℤ := 30
  topNegativeGenres : ℤ := 10
  topNegativeTags : ℤ := 20
  interestConfidenceSupport : ℤ := 5
  profileConfidenceRatingCount : ℤ := 50
  usernameTemplate : String := "user_{user_id}"
  displayNameTemplate : String := "User {user_id}"
  ratingLogEvery : ℤ := 2000000
  userLogEvery : ℤ := 50000

/-- The builder, whose options have been validated. -/
structure UserProfileBuilder (K : Type*) [Field K] [LinearOrder K] extends
    UserProfileBuilder.Options K where
  outputFormat_mem : outputFormat ∈ ["jsonl", "json"]
  weakPositiveMinRating_lt : weakPositiveMinRating < positiveMinRating
  negativeMaxRating_lt : negativeMaxRating < weakPositiveMinRating
  positiveMinRating_lt : positiveMinRating < maxRating
  minRating_lt : minRating < negativeMaxRating
  recencyFloor_mem : 0 ≤ recencyFloor ∧ recencyFloor ≤ 1
  ratingLogEvery_pos : 0 < ratingLogEvery
  userLogEvery_pos : 0 < userLogEvery

namespace UserProfileBuilder

/-- The constructor, with the message of the exception it throws. -/
def normalizeConfig (options : Options K) : Except String (UserProfileBuilder K) :=
  if hformat : options.outputFormat.toLower ∉ ["jsonl", "json"] then
    .error "output_format must be either 'jsonl' or 'json'"
  else if hweak : options.positiveMinRating ≤ options.weakPositiveMinRating then
    .error "positive_min_rating must be greater than weak_positive_min_rating"
  else if hnegative : options.weakPositiveMinRating ≤ options.negativeMaxRating then
    .error "negative_max_rating must be less than weak_positive_min_rating"
  else if hmax : options.maxRating ≤ options.positiveMinRating then
    .error "max_rating must be greater than positive_min_rating"
  else if hmin : options.negativeMaxRating ≤ options.minRating then
    .error "negative_max_rating must be greater than min_rating"
  else if hfloor : ¬ (0 ≤ options.recencyFloor ∧ options.recencyFloor ≤ 1) then
    .error "recency_floor must be between 0 and 1"
  else if hrating : options.ratingLogEvery ≤ 0 then .error "rating_log_every must be positive"
  else if huser : options.userLogEvery ≤ 0 then .error "user_log_every must be positive"
  else
    .ok {
      options with
      outputFormat := options.outputFormat.toLower
      outputFormat_mem := not_not.mp hformat
      weakPositiveMinRating_lt := lt_of_not_ge hweak
      negativeMaxRating_lt := lt_of_not_ge hnegative
      positiveMinRating_lt := lt_of_not_ge hmax
      minRating_lt := lt_of_not_ge hmin
      recencyFloor_mem := not_not.mp hfloor
      ratingLogEvery_pos := lt_of_not_ge hrating
      userLogEvery_pos := lt_of_not_ge huser }

omit [LinearOrder K] in
/-- The default options are accepted. -/
theorem isOk_normalizeConfig_default [LinearOrder K] [IsStrictOrderedRing K] :
  (normalizeConfig ({} : Options K)).isOk = true
  := by
  have hformat : "jsonl".toLower = "jsonl" := by decide +kernel
  norm_num [normalizeConfig, hformat, Except.isOk, Except.toBool]

/-! ### Weights -/

/-- The weight of the age of a rating, against the latest one. -/
def recencyWeight (b : UserProfileBuilder K) (f : ProfileFunctions K)
    (timestamp latestTimestamp : ℤ) : K :=
  if b.recencyHalfLifeDays ≤ 0 then 1
  else
    let ageDays : K := (max (latestTimestamp - timestamp) 0 : ℤ) / 86400
    let decay := f.halfPow (ageDays / b.recencyHalfLifeDays)
    b.recencyFloor + (1 - b.recencyFloor) * decay

/-- The weight of a rating from the positive minimum on. -/
def positiveRatingWeight (b : UserProfileBuilder K) (rating : K) : K :=
  let ratio := (rating - b.positiveMinRating) / (b.maxRating - b.positiveMinRating)
  b.positiveMinWeight + (1 - b.positiveMinWeight) * min (max ratio 0) 1

/-- The weight of a rating between the two positive minima. -/
def weakPositiveRatingWeight (b : UserProfileBuilder K) (rating : K) : K :=
  let ratio := (rating - b.weakPositiveMinRating)
    / (b.positiveMinRating - b.weakPositiveMinRating)
  b.weakMinWeight + (b.weakMaxWeight - b.weakMinWeight) * min (max ratio 0) 1

/-- The weight of a rating up to the negative maximum. -/
def negativeRatingWeight (b : UserProfileBuilder K) (rating : K) : K :=
  let ratio := (b.negativeMaxRating - rating) / (b.negativeMaxRating - b.minRating)
  b.negativeMinWeight + (1 - b.negativeMinWeight) * min (max ratio 0) 1

variable [FloorRing K]

/-- The item of a rating with a weight. -/
def weightedItem (interaction : RatingInteraction K) (weight : K) : WeightedItem K :=
  { itemId := interaction.movieId
    weight := Rounding.roundDecimals 6 weight
    eventTime := interaction.timestamp
    confidence := Rounding.roundDecimals 6 (min (max weight 0) 1)
    rawScore := Rounding.roundDecimals 6 interaction.rating }

/-! ### The orders of the lists -/

end UserProfileBuilder

/-- A list cut at a positive limit. -/
def capped {α : Type*} (limit : ℤ) (l : List α) : List α :=
  if 0 < limit then l.take limit.toNat else l

/-- Of two ratings of an item the later one is kept, and of two of one time the higher one. -/
def RatingInteraction.strength (x : RatingInteraction K) : ℤ ×ₗ K :=
  toLex (x.timestamp, x.rating)

/-- The key by which the items rated are sorted. -/
def RatingInteraction.seenKey (x : RatingInteraction K) : ℤ ×ₗ K ×ₗ ℤ :=
  toLex (-x.timestamp, toLex (-x.rating, x.movieId))

/-- The key by which weighted items are sorted. -/
def WeightedItem.weightKey (x : WeightedItem K) : K ×ₗ ℤ ×ₗ ℤ :=
  toLex (-x.weight, toLex (-x.eventTime, x.itemId))

/-- The key by which weighted items are sorted, the recent ones first. -/
def WeightedItem.recentKey (x : WeightedItem K) : ℤ ×ₗ K ×ₗ ℤ :=
  toLex (-x.eventTime, toLex (-x.weight, x.itemId))

/-- The key by which genres and tags are sorted. -/
def InterestRow.key (x : InterestRow K) : K ×ₗ K ×ₗ String :=
  toLex (-x.weight, toLex (-x.confidence, x.name))

namespace UserProfileBuilder

/-- One rating for each item, in the order the items are first seen. -/
def dedupeInteractions (interactions : List (RatingInteraction K)) : List (RatingInteraction K) :=
  Greatest.greatest RatingInteraction.movieId RatingInteraction.strength interactions

/-- The first items by weight, or by time. -/
def rankWeightedItems (items : List (WeightedItem K)) (limit : ℤ) (recentFirst : Bool) :
    List (WeightedItem K) :=
  if recentFirst then capped limit (Ranked.sortBy (fun x y => x.recentKey < y.recentKey) items)
  else capped limit (Ranked.sortBy (fun x y => x.weightKey < y.weightKey) items)

/-! ### Genres and tags -/

variable [FloorRing K]

/-- What a rating gives to a genre or a tag. -/
structure InterestShare (K : Type*) where
  name : String
  score : K
  timestamp : ℤ

/-- A share added to the score of a genre or a tag. -/
def addShare (share : InterestShare K) (accumulator : Option (InterestAccumulator K)) :
    InterestAccumulator K :=
  let old := accumulator.getD {}
  { score := old.score + share.score
    support := old.support + 1
    updateTime := max old.updateTime share.timestamp }

/-- The weight of a rating in equal shares for the genres of its item. -/
def genreShares (movieGenres : List (ℤ × List String)) (input : RatingInteraction K × K) :
    List (InterestShare K) :=
  let genres := (movieGenres.lookup input.1.movieId).getD []
  let genreShare := input.2 / (max genres.length 1 : ℕ)
  genres.map fun genre => ⟨genre, genreShare, input.1.timestamp⟩

/-- The weight of a rating times the weights of the tags of its item. -/
def tagShares (movieTopTags : List (ℤ × List (MovieTag K))) (input : RatingInteraction K × K) :
    List (InterestShare K) :=
  ((movieTopTags.lookup input.1.movieId).getD []).map fun tag =>
    ⟨tag.tag, input.2 * tag.weight, input.1.timestamp⟩

/-- The scores of the genres and of the tags. -/
def buildInterestMap (interactions : List (RatingInteraction K × K))
    (movieGenres : List (ℤ × List String)) (movieTopTags : List (ℤ × List (MovieTag K))) :
    List (String × InterestAccumulator K) × List (String × InterestAccumulator K) :=
  (Keyed.collect InterestShare.name addShare (interactions.flatMap (genreShares movieGenres)),
    Keyed.collect InterestShare.name addShare (interactions.flatMap (tagShares movieTopTags)))

/-- The row of a genre or a tag, when `maxScore` is the greatest score. -/
def interestRow (b : UserProfileBuilder K) (maxScore : K)
    (entry : String × InterestAccumulator K) : InterestRow K :=
  let supportTarget := max b.interestConfidenceSupport 1
  { name := entry.1
    weight := if 0 < maxScore then Rounding.roundDecimals 6 (entry.2.score / maxScore) else 0
    confidence := Rounding.roundDecimals 6 (min (entry.2.support / supportTarget) 1)
    updateTime := entry.2.updateTime }

/-- The rows of genres or tags. -/
def materialize (b : UserProfileBuilder K) (scores : List (String × InterestAccumulator K))
    (limit : ℤ) : List (InterestRow K) :=
  match (scores.map fun entry => entry.2.score).max? with
  | none => []
  | some maxScore =>
    capped limit (Ranked.sortBy (fun x y => x.key < y.key) (scores.map (b.interestRow maxScore)))

/-- The first genres by score. -/
def materializeGenres (b : UserProfileBuilder K) (scores : List (String × InterestAccumulator K))
    (limit : ℤ) : List (InterestRow K) :=
  b.materialize scores limit

/-- The first tags by score. -/
def materializeTags (b : UserProfileBuilder K) (scores : List (String × InterestAccumulator K))
    (limit : ℤ) : List (InterestRow K) :=
  b.materialize scores limit

/-- The entropy of the positive scores, at most one. -/
def interestEntropy (f : ProfileFunctions K) (genreScores : List (String × InterestAccumulator K)) :
    K :=
  let positiveScores := (genreScores.map fun entry => entry.2.score).filter (0 < ·)
  if positiveScores.length ≤ 1 then 0
  else
    let total := positiveScores.sum
    let entropy := -(positiveScores.map fun score => score / total * f.log (score / total)).sum
    entropy / f.log positiveScores.length

/-! ### The loop over the ratings -/

/-- What the loop over the ratings of a user has found so far. -/
structure RatingGroups (K : Type*) [Zero K] where
  likedItems : List (WeightedItem K) := []
  recentLikedItems : List (WeightedItem K) := []
  interestedItems : List (WeightedItem K) := []
  negativeItems : List (WeightedItem K) := []
  positiveInterestInputs : List (RatingInteraction K × K) := []
  negativeInterestInputs : List (RatingInteraction K × K) := []
  ratingsSum : K := 0
  positiveCount : ℕ := 0
  weakPositiveCount : ℕ := 0
  negativeCount : ℕ := 0

/-- A rating in the loop over the ratings. -/
def addInteraction (b : UserProfileBuilder K) (f : ProfileFunctions K) (latestTimestamp : ℤ)
    (groups : RatingGroups K) (x : RatingInteraction K) : RatingGroups K :=
  let groups := { groups with ratingsSum := groups.ratingsSum + x.rating }
  let recency := b.recencyWeight f x.timestamp latestTimestamp
  if b.positiveMinRating ≤ x.rating then
    let weight := b.positiveRatingWeight x.rating * recency
    { groups with
      positiveCount := groups.positiveCount + 1
      likedItems := groups.likedItems ++ [weightedItem x weight]
      recentLikedItems := groups.recentLikedItems ++ [weightedItem x weight]
      positiveInterestInputs := groups.positiveInterestInputs ++ [(x, weight)] }
  else if b.weakPositiveMinRating ≤ x.rating then
    let weight := b.weakPositiveRatingWeight x.rating * recency
    { groups with
      weakPositiveCount := groups.weakPositiveCount + 1
      interestedItems := groups.interestedItems ++ [weightedItem x weight] }
  else if x.rating ≤ b.negativeMaxRating then
    let weight := b.negativeRatingWeight x.rating * recency
    { groups with
      negativeCount := groups.negativeCount + 1
      negativeItems := groups.negativeItems ++ [weightedItem x weight]
      negativeInterestInputs := groups.negativeInterestInputs ++ [(x, weight)] }
  else groups

/-- The items rated, the latest first. -/
def ratedItems (b : UserProfileBuilder K) (interactions : List (RatingInteraction K)) : List ℤ :=
  capped b.maxRatedItems
    ((Ranked.sortBy (fun x y => x.seenKey < y.seenKey) interactions).map (·.movieId))

/-! ### The profile -/

/-- The statistics of the ratings kept. -/
def profileStats (b : UserProfileBuilder K) (f : ProfileFunctions K)
    (interactions : List (RatingInteraction K)) (latestTimestamp earliestTimestamp : ℤ)
    (groups : RatingGroups K) (genreScores : List (String × InterestAccumulator K)) :
    ProfileStats K :=
  let ratingCount := interactions.length
  let avgRating : K := if ratingCount = 0 then 0 else groups.ratingsSum / ratingCount
  let variance : K :=
    if ratingCount = 0 then 0
    else (interactions.map fun x => (x.rating - avgRating) ^ 2).sum / ratingCount
  let confidenceDenominator := f.log1p (max b.profileConfidenceRatingCount 1 : ℤ)
  let profileConfidence := min (f.log1p ratingCount / confidenceDenominator) 1
  { ratingCount := ratingCount
    positiveRatingCount := groups.positiveCount
    weakPositiveRatingCount := groups.weakPositiveCount
    negativeRatingCount := groups.negativeCount
    avgRating := Rounding.roundDecimals 6 avgRating
    ratingStddev := Rounding.roundDecimals 6 (f.sqrt variance)
    firstEventTime := earliestTimestamp
    lastEventTime := latestTimestamp
    activeTimeframe := latestTimestamp - earliestTimestamp
    profileConfidence := Rounding.roundDecimals 6 profileConfidence
    interestEntropy := Rounding.roundDecimals 6 (interestEntropy f genreScores) }

/-- The profile made of the ratings kept, when these are the latest and the earliest of their
times. -/
def profileOf (b : UserProfileBuilder K) (f : ProfileFunctions K) (userId : ℤ)
    (interactions : List (RatingInteraction K)) (movieGenres : List (ℤ × List String))
    (movieTopTags : List (ℤ × List (MovieTag K))) (latestTimestamp earliestTimestamp : ℤ) :
    UserProfile K :=
  let groups := interactions.foldl (b.addInteraction f latestTimestamp) {}
  let positive := buildInterestMap groups.positiveInterestInputs movieGenres movieTopTags
  let negative := buildInterestMap groups.negativeInterestInputs movieGenres movieTopTags
  { userId := userId
    demographics := {
      username := f.format b.usernameTemplate userId
      displayName := f.format b.displayNameTemplate userId }
    interests := {
      genres := b.materializeGenres positive.1 b.topGenres
      tags := b.materializeTags positive.2 b.topTags }
    negativeFeedbacks := {
      items := rankWeightedItems groups.negativeItems b.maxNegativeItems false
      genres := b.materializeGenres negative.1 b.topNegativeGenres
      tags := b.materializeTags negative.2 b.topNegativeTags }
    behaviors := {
      likedItems := rankWeightedItems groups.likedItems b.maxLikedItems false
      recentLikedItems := rankWeightedItems groups.recentLikedItems b.maxRecentLikedItems true
      interestedItems := rankWeightedItems groups.interestedItems b.maxInterestedItems false
      ratedItems := b.ratedItems interactions }
    stats := b.profileStats f interactions latestTimestamp earliestTimestamp groups positive.1 }

/-- The profile of a user, `none` when there are no ratings, of which the latest time is not
defined. -/
def buildProfile (b : UserProfileBuilder K) (f : ProfileFunctions K) (userId : ℤ)
    (ratings : List (RatingInteraction K)) (movieGenres : List (ℤ × List String))
    (movieTopTags : List (ℤ × List (MovieTag K))) : Option (UserProfile K) :=
  let interactions := dedupeInteractions ratings
  (interactions.map (·.timestamp)).max?.bind fun latestTimestamp =>
    (interactions.map (·.timestamp)).min?.map fun earliestTimestamp =>
      b.profileOf f userId interactions movieGenres movieTopTags latestTimestamp earliestTimestamp

end UserProfileBuilder

end OfflineDataProcessing
