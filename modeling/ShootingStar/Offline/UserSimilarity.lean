import Mathlib.Analysis.Real.Sqrt
import ShootingStar.Offline.UserSampling

/-!
# User similarity

The builder goes over the ratings to find the users with enough positive ratings and their norms,
and once more to choose the coverage anchors of each user.  A third pass maps the ratings of these
users to item shards, from which the pairs of users of each item go to pair shards; these are then
reduced to the neighbours of each user.

The rows of the output are those of the definition in memory (`computeUserSimilarities_perm_naive`),
which knows the thresholds and the ratings but not the shards.
-/

namespace OfflineDataProcessing

open ShardWriter

variable {K : Type*} [Field K] [LinearOrder K]

/-- The options of the builder. -/
structure UserSimilarityBuilder.Options (K : Type*) [Field K] extends
    UserSimilarityBuilder.Thresholds K, ShardOptions where
  outputFormat : String := "jsonl"
  userStatsLogEvery : ℤ := 2000000
  itemMappingLogEvery : ℤ := 200000
  shardLogDivisor : ℤ := 32

/-- The builder, whose options have been validated. -/
structure UserSimilarityBuilder (K : Type*) [Field K] extends
    UserSimilarityBuilder.Options K, PairReduction K where
  outputFormat_mem : outputFormat ∈ ["jsonl", "json"]
  minUserItems_pos : 0 < minUserItems
  minItemUsers_pos : 0 < minItemUsers
  coverageAnchorItemsPerUser_nonneg : 0 ≤ coverageAnchorItemsPerUser
  coveragePairSampleSize_nonneg : 0 ≤ coveragePairSampleSize
  userStatsLogEvery_pos : 0 < userStatsLogEvery
  itemMappingLogEvery_pos : 0 < itemMappingLogEvery
  shardLogDivisor_pos : 0 < shardLogDivisor

/-- The statistics of the first pass: the users kept, the squared norms and the numbers of positive
ratings of all users, and the numbers of positive ratings of all items. -/
structure UserStats (K : Type*) where
  validUsers : List ℤ
  userNormSq : List (ℤ × K)
  userItemCounts : List (ℤ × ℕ)
  itemUserCounts : List (ℤ × ℕ)
  deriving Repr

/-- An item in the heap of coverage anchors of a user. -/
structure AnchorEntry (K : Type*) where
  itemUserCount : ℕ
  weight : K
  timestamp : ℤ
  sampleRank : ℤ
  movieId : ℤ
  deriving DecidableEq, Repr

/-- The rank of an anchor: items with fewer users first, then those of greater weight, later time,
smaller sample rank and smaller identifier. -/
def AnchorEntry.rank (e : AnchorEntry K) : ℤ ×ₗ K ×ₗ ℤ ×ₗ ℤ ×ₗ ℤ :=
  toLex (-(e.itemUserCount : ℤ), toLex (e.weight, toLex (e.timestamp,
    toLex (-e.sampleRank, -e.movieId))))

namespace UserSimilarityBuilder

/-- The constructor, with the message of the exception it throws. -/
def normalizeConfig (options : Options K) : Except String (UserSimilarityBuilder K) :=
  if hformat : options.outputFormat.toLower ∉ ["jsonl", "json"] then
    .error "output_format must be either 'jsonl' or 'json'"
  else if htopK : options.topK ≤ 0 then .error "top_k must be positive"
  else if hitems : options.minUserItems ≤ 0 then .error "min_user_items must be positive"
  else if husers : options.minItemUsers ≤ 0 then .error "min_item_users must be positive"
  else if hanchors : options.coverageAnchorItemsPerUser < 0 then
    .error "coverage_anchor_items_per_user must be non-negative"
  else if hcoverage : options.coveragePairSampleSize < 0 then
    .error "coverage_pair_sample_size must be non-negative"
  else if hcount : options.minCooccurrence ≤ 0 then .error "min_cooccurrence must be positive"
  else if hshards : options.shardCount ≤ 0 then .error "shard_count must be positive"
  else if hbuffer : options.shardBufferRows ≤ 0 then .error "shard_buffer_rows must be positive"
  else if hstats : options.userStatsLogEvery ≤ 0 then
    .error "user_stats_log_every must be positive"
  else if hmapping : options.itemMappingLogEvery ≤ 0 then
    .error "item_mapping_log_every must be positive"
  else if hdivisor : options.shardLogDivisor ≤ 0 then .error "shard_log_divisor must be positive"
  else
    .ok {
      options with
      outputFormat := options.outputFormat.toLower
      outputFormat_mem := not_not.mp hformat
      topK_pos := lt_of_not_ge htopK
      minUserItems_pos := lt_of_not_ge hitems
      minItemUsers_pos := lt_of_not_ge husers
      coverageAnchorItemsPerUser_nonneg := le_of_not_gt hanchors
      coveragePairSampleSize_nonneg := le_of_not_gt hcoverage
      minCooccurrence_pos := lt_of_not_ge hcount
      shardCount_pos := lt_of_not_ge hshards
      shardBufferRows_pos := lt_of_not_ge hbuffer
      userStatsLogEvery_pos := lt_of_not_ge hstats
      itemMappingLogEvery_pos := lt_of_not_ge hmapping
      shardLogDivisor_pos := lt_of_not_ge hdivisor }

omit [LinearOrder K] in
/-- The default options are accepted. -/
theorem isOk_normalizeConfig_default :
  (normalizeConfig ({} : Options K)).isOk = true
  := by
  have hformat : "jsonl".toLower = "jsonl" := by decide +kernel
  simp [normalizeConfig, hformat, Except.isOk, Except.toBool]

namespace Thresholds

/-! ### Statistics and coverage anchors -/

/-- The first pass over the ratings. -/
def buildUserStats (t : Thresholds K) (rows : List (RatingRow K)) : UserStats K :=
  let ratings := t.iterPositiveRatings rows
  { validUsers := validKeys PositiveRating.userId t.minUserItems ratings
    userNormSq := ratingNormSq PositiveRating.userId ratings
    userItemCounts := ratingCounts PositiveRating.userId ratings
    itemUserCounts := ratingCounts PositiveRating.movieId ratings }

/-- The anchor entry of a rating. -/
def anchorEntry (itemUserCounts : List (ℤ × ℕ)) (rating : PositiveRating K) : AnchorEntry K :=
  { itemUserCount := (itemUserCounts.lookup rating.movieId).getD 0
    weight := rating.weight
    timestamp := rating.timestamp
    sampleRank := stableSampleRank rating.movieId rating.userId
    movieId := rating.movieId }

/-- A user added to the set of the anchor users of an item. -/
def addAnchorUser (assignment : ℤ × ℤ) (users : Option (List ℤ)) : List ℤ :=
  if assignment.2 ∈ users.getD [] then users.getD [] else users.getD [] ++ [assignment.2]

/-- The anchor users of each item: each user has the items of its heap as anchors. -/
def buildCoverageAnchorUsersByItem (t : Thresholds K) (validUsers : List ℤ)
    (itemUserCounts : List (ℤ × ℕ)) (rows : List (RatingRow K)) : List (ℤ × List ℤ) :=
  if t.coverageAnchorItemsPerUser ≤ 0 then []
  else if t.maxItemUsers ≤ 0 then []
  else
    let ratings := (t.iterPositiveRatings rows).filter (·.userId ∈ validUsers)
    let anchorsByUser := Keyed.collect PositiveRating.userId
      (fun rating heap => TopK.offer t.coverageAnchorItemsPerUser AnchorEntry.rank
        (heap.getD []) (anchorEntry itemUserCounts rating)) ratings
    let assignments := anchorsByUser.flatMap fun entry =>
      entry.2.map fun anchor => (anchor.movieId, entry.1)
    Keyed.collect Prod.fst addAnchorUser assignments

end Thresholds

/-! ### Items to pairs -/

/-- The interaction of a positive rating with its user. -/
def userInteraction (rating : PositiveRating K) : Interaction K :=
  { memberId := rating.userId
    weight := rating.weight
    timestamp := rating.timestamp }

/-- The shard of all positive ratings of an item. -/
def itemShardId (b : UserSimilarityBuilder K) (movieId : ℤ) : ℕ :=
  (movieId % b.shardCount).toNat

/-- A rating in the loop over the ratings. -/
def mapRating (b : UserSimilarityBuilder K) (w : Writer (PositiveRating K))
    (rating : PositiveRating K) : Writer (PositiveRating K) :=
  (w.append (fun rating => b.itemShardId rating.movieId) rating).count b.shardBufferRows 1

/-- The ratings of the users kept, in item shards. -/
def mapRatingsToItemShards (b : UserSimilarityBuilder K) (validUsers : List ℤ)
    (rows : List (RatingRow K)) : Writer (PositiveRating K) :=
  (((b.iterPositiveRatings rows).filter (·.userId ∈ validUsers)).foldl b.mapRating {}).flush

/-- The anchor users of an item. -/
def anchorUsers (anchorUsersByItem : List (ℤ × List ℤ)) (movieId : ℤ) : List ℤ :=
  (anchorUsersByItem.lookup movieId).getD []

/-- The number of rows counted for an item: every pair of the sample, and the pairs with an extra
that were appended. -/
def writtenCount (participants : Participants K) : ℕ :=
  if participants.sampled.length < 2 then 0
  else (Combinations.combinations participants.sampled).length
    + (Thresholds.coveragePairs participants).length

/-- An item in the loop over the items of a shard; one that counts no row is skipped. -/
def reduceItem (b : UserSimilarityBuilder K) (anchorUsersByItem : List (ℤ × List ℤ))
    (w : Writer (PairContribution K)) (item : ℤ × List (PositiveRating K)) :
    Writer (PairContribution K) :=
  let participants := b.selectItemPairParticipants item.1 (item.2.map userInteraction)
    (anchorUsers anchorUsersByItem item.1)
  let appended := (Thresholds.participantPairs participants).foldl
    (Writer.append fun c => b.pairShardId c.leftId c.rightId) w
  if writtenCount participants = 0 then appended
  else appended.count b.shardBufferRows (writtenCount participants)

/-- The items of a shard are reduced in the order they are first seen. -/
def reduceItemShard (b : UserSimilarityBuilder K) (anchorUsersByItem : List (ℤ × List ℤ))
    (w : Writer (PairContribution K)) (ratings : List (PositiveRating K)) :
    Writer (PairContribution K) :=
  let itemInteractions := Keyed.collect PositiveRating.movieId
    (fun rating interactions => interactions.getD [] ++ [rating]) ratings
  itemInteractions.foldl (b.reduceItem anchorUsersByItem) w

/-- The pair shards of the item shards. -/
def reduceItemShardsToPairShards (b : UserSimilarityBuilder K)
    (itemShards : Writer (PositiveRating K)) (anchorUsersByItem : List (ℤ × List ℤ)) :
    Writer (PairContribution K) :=
  (((itemShards.existing b.shardCount.toNat).map itemShards.files).foldl
    (b.reduceItemShard anchorUsersByItem) {}).flush

/-! ### The pipeline -/

section Pipeline

/-- The pair shards of a file of ratings. -/
def pairShards (b : UserSimilarityBuilder K) (rows : List (RatingRow K)) :
    Writer (PairContribution K) :=
  let stats := b.buildUserStats rows
  let anchorUsersByItem :=
    b.buildCoverageAnchorUsersByItem stats.validUsers stats.itemUserCounts rows
  let itemShards := b.mapRatingsToItemShards stats.validUsers rows
  b.reduceItemShardsToPairShards itemShards anchorUsersByItem

variable [FloorRing K]

/-- The neighbour shards of the pair shards. -/
def reducePairShardsToNeighborShards (b : UserSimilarityBuilder K) (sqrt : K → K)
    (userNormSq : List (ℤ × K)) (pairShards : Writer (PairContribution K)) :
    Writer (NeighborRow K) :=
  b.toPairReduction.reducePairShardsToNeighborShards sqrt userNormSq pairShards

/-- The rows of the neighbour shards. -/
def reduceNeighborShardsToOutput (b : UserSimilarityBuilder K)
    (neighborShards : Writer (NeighborRow K)) : List (SimilarityRow K) :=
  b.toPairReduction.reduceNeighborShardsToOutput neighborShards

/-- The rows written to the output. -/
def computeSimilarities (b : UserSimilarityBuilder K) (sqrt : K → K) (rows : List (RatingRow K)) :
    List (SimilarityRow K) :=
  let neighborShards := b.reducePairShardsToNeighborShards sqrt
    (b.buildUserStats rows).userNormSq (b.pairShards rows)
  b.reduceNeighborShardsToOutput neighborShards

end Pipeline

/-! ### The definition in memory -/

namespace Thresholds

/-- The positive ratings of the users with enough positive ratings. -/
def keptRatings (t : Thresholds K) (rows : List (RatingRow K)) : List (PositiveRating K) :=
  OfflineDataProcessing.keptRatings PositiveRating.userId t.minUserItems
    (t.iterPositiveRatings rows)

/-- The squared norm of a user, over all its positive ratings. -/
def userNormSq (t : Thresholds K) (rows : List (RatingRow K)) (userId : ℤ) : K :=
  normSq PositiveRating.userId (t.iterPositiveRatings rows) userId

/-- The anchor users of an item in a file of ratings. -/
def itemAnchorUsers (t : Thresholds K) (rows : List (RatingRow K)) (movieId : ℤ) : List ℤ :=
  let stats := t.buildUserStats rows
  anchorUsers (t.buildCoverageAnchorUsersByItem stats.validUsers stats.itemUserCounts rows) movieId

/-- The contributions of all items. -/
def contributions (t : Thresholds K) (rows : List (RatingRow K)) : List (PairContribution K) :=
  (Keyed.groups PositiveRating.movieId (t.keptRatings rows)).flatMap fun group =>
    t.itemContributions group.1 (group.2.map userInteraction) (t.itemAnchorUsers rows group.1)

/-- The similarity rows of a file of ratings. -/
def naiveSimilarities [FloorRing K] (t : Thresholds K) (sqrt : K → K) (rows : List (RatingRow K)) :
    List (SimilarityRow K) :=
  t.similarityRows sqrt (t.userNormSq rows) (t.contributions rows)

end Thresholds

/-! ### The ratings of the users kept -/

/-- The norm found for a user. -/
theorem lookup_userNormSq (b : UserSimilarityBuilder K) (rows : List (RatingRow K)) (userId : ℤ) :
  ((b.buildUserStats rows).userNormSq.lookup userId).getD 0 = b.userNormSq rows userId
  := lookup_ratingNormSq _ _ _

/-- The ratings mapped to item shards. -/
theorem filter_validUsers [IsStrictOrderedRing K] (b : UserSimilarityBuilder K)
    (rows : List (RatingRow K)) :
  (b.iterPositiveRatings rows).filter (·.userId ∈ (b.buildUserStats rows).validUsers)
    = b.keptRatings rows
  := filter_validKeys b.minUserItems (fun _ => RatingOptions.weight_pos)

omit [LinearOrder K] in
theorem writes_mapRating (b : UserSimilarityBuilder K) :
  Writes (fun rating => b.itemShardId rating.movieId) (fun rating => [rating]) b.mapRating
  := by
  intro w rating n
  rw [mapRating, Writer.content_count, Writer.content_append]

/-- The item shards hold the ratings of the users kept. -/
theorem files_mapRatingsToItemShards (b : UserSimilarityBuilder K) (validUsers : List ℤ)
    (rows : List (RatingRow K)) (n : ℕ) :
  (b.mapRatingsToItemShards validUsers rows).files n
    = ((b.iterPositiveRatings rows).filter (·.userId ∈ validUsers)).filter
      fun rating => b.itemShardId rating.movieId = n
  := by
  rw [mapRatingsToItemShards, b.writes_mapRating.files_flush_foldl, List.flatMap_singleton']

/-! ### The pairs of the items -/

theorem writes_reduceItem (b : UserSimilarityBuilder K)
    (anchorUsersByItem : List (ℤ × List ℤ)) :
  Writes (fun c => b.pairShardId c.leftId c.rightId)
    (fun item => b.itemPairs item.1 (item.2.map userInteraction)
      (anchorUsers anchorUsersByItem item.1))
    (b.reduceItem anchorUsersByItem)
  := by
  intro w item n
  rw [reduceItem]
  dsimp only
  split
  · rw [Writer.content_foldl_append]
    rfl
  · rw [Writer.content_count, Writer.content_foldl_append]
    rfl

/-- Reducing a shard writes the contributions of its items. -/
theorem writes_reduceItemShard (b : UserSimilarityBuilder K)
    (anchorUsersByItem : List (ℤ × List ℤ)) :
  Writes (fun c => b.pairShardId c.leftId c.rightId)
    (fun ratings => (Keyed.groups PositiveRating.movieId ratings).flatMap fun item =>
      b.itemPairs item.1 (item.2.map userInteraction) (anchorUsers anchorUsersByItem item.1))
    (b.reduceItemShard anchorUsersByItem)
  := by
  intro w ratings n
  have hgroups : Keyed.collect PositiveRating.movieId
      (fun rating (interactions : Option (List (PositiveRating K))) =>
        interactions.getD [] ++ [rating]) ratings
      = Keyed.groups PositiveRating.movieId ratings :=
    Keyed.collect_append_eq_groups _ _
  rw [reduceItemShard, hgroups]
  exact (b.writes_reduceItem anchorUsersByItem).foldl w _ n

/-- The pair shards hold the contributions of all items. -/
theorem files_pairShards [IsStrictOrderedRing K] (b : UserSimilarityBuilder K)
    (rows : List (RatingRow K)) :
  ∃ cs : List (PairContribution K), cs.Perm (b.contributions rows)
    ∧ ∀ n, (b.pairShards rows).files n = cs.filter fun c => b.pairShardId c.leftId c.rightId = n
  := by
  use (List.range b.shardCount.toNat).flatMap fun s =>
    (Keyed.groups PositiveRating.movieId
      ((b.keptRatings rows).filter fun rating => b.itemShardId rating.movieId = s)).flatMap
        fun item => b.itemPairs item.1 (item.2.map userInteraction)
          (b.itemAnchorUsers rows item.1)
  constructor
  · rw [← List.flatMap_assoc, Thresholds.contributions]
    simp only [Thresholds.itemPairs_eq]
    apply List.Perm.flatMap_right
    apply Keyed.groups_shards_perm PositiveRating.movieId b.itemShardId
    intro rating _
    apply b.toPairReduction.toNat_emod_lt
  · intro n
    rw [pairShards]
    apply (b.writes_reduceItemShard _).files_flush_existing rfl
    intro s
    rw [files_mapRatingsToItemShards, filter_validUsers]

/-! ### The output -/

variable [FloorRing K]

/-- The rows written are those of the definition in memory. -/
theorem computeSimilarities_perm [IsStrictOrderedRing K] (b : UserSimilarityBuilder K)
    {sqrt : K → K} (hsqrt : ∀ x, 0 < x → 0 < sqrt x) (rows : List (RatingRow K)) :
  (b.computeSimilarities sqrt rows).Perm (b.naiveSimilarities sqrt rows)
  := by
  have hnorm : (fun id => ((b.buildUserStats rows).userNormSq.lookup id).getD 0)
      = b.userNormSq rows := funext (b.lookup_userNormSq rows)
  obtain ⟨cs, hcs, hfiles⟩ := b.files_pairShards rows
  rw [Thresholds.naiveSimilarities, ← hnorm]
  apply List.Perm.trans _ (b.similarityRows_perm sqrt _ hcs)
  apply b.toPairReduction.reduceNeighborShardsToOutput_perm hsqrt
  · intro c hc
    obtain ⟨group, hgroup, hcgroup⟩ := List.mem_flatMap.mp (hcs.mem_iff.mp hc)
    have hpos : ∀ x ∈ dedupe (group.2.map userInteraction),
        0 < ((b.buildUserStats rows).userNormSq.lookup x.memberId).getD 0 := by
      intro x hx
      rw [b.lookup_userNormSq]
      apply normSq_pos (fun _ => RatingOptions.weight_pos)
      obtain ⟨rating, hrating, rfl⟩ := List.mem_map.mp (mem_of_mem_dedupe hx)
      rw [(Keyed.mem_groups.mp hgroup).2] at hrating
      exact List.mem_map_of_mem (List.mem_of_mem_filter (List.mem_of_mem_filter hrating))
    obtain ⟨x, hx, y, hy, -, rfl⟩ := Thresholds.exists_of_mem_itemContributions hcgroup
    exact ⟨hpos x hx, hpos y hy⟩
  · exact hfiles

/-- In exact arithmetic the rows written are those of the definition in memory, so builders with
the same thresholds write the same rows; each user has at most one row and is not its own
neighbour. -/
theorem computeUserSimilarities_perm_naive (b : UserSimilarityBuilder ℝ) (rows : List (RatingRow ℝ)) :
  (b.computeSimilarities Real.sqrt rows).Perm (b.naiveSimilarities Real.sqrt rows)
    ∧ (∀ b' : UserSimilarityBuilder ℝ, b'.toThresholds = b.toThresholds →
        (b'.computeSimilarities Real.sqrt rows).Perm (b.computeSimilarities Real.sqrt rows))
    ∧ ((b.computeSimilarities Real.sqrt rows).map SimilarityRow.id).Nodup
    ∧ ∀ row ∈ b.computeSimilarities Real.sqrt rows, ∀ n ∈ row.neighbors, n.neighborId ≠ row.id
  := by
  have hperm : ∀ b : UserSimilarityBuilder ℝ,
      (b.computeSimilarities Real.sqrt rows).Perm (b.naiveSimilarities Real.sqrt rows) :=
    fun b => b.computeSimilarities_perm (fun x hx => Real.sqrt_pos.mpr hx) rows
  refine ⟨hperm b, ?_, ?_, ?_⟩
  · intro b' hthresholds
    have hb' := hperm b'
    rw [hthresholds] at hb'
    exact hb'.trans (hperm b).symm
  · apply ((hperm b).map _).nodup_iff.mpr
    apply PairThresholds.nodup_map_id_similarityRows
  · intro row hrow n hn
    apply PairThresholds.neighborId_ne_of_mem_similarityRows _ _ _ _ ((hperm b).mem_iff.mp hrow) hn
    intro c hc
    obtain ⟨group, -, hcgroup⟩ := List.mem_flatMap.mp hc
    obtain ⟨x, -, y, -, hlt, rfl⟩ := Thresholds.exists_of_mem_itemContributions hcgroup
    exact hlt.ne

end UserSimilarityBuilder

end OfflineDataProcessing
