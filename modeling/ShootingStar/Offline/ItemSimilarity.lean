import Mathlib.Analysis.Real.Sqrt
import ShootingStar.Offline.Interactions
import ShootingStar.Offline.Ratings

/-!
# Item similarity

The builder goes over the ratings twice.  The first pass finds the items with enough positive
ratings and their norms; the second maps the interactions of each user with these items to pair
shards, either holding one user at a time, in a file grouped by user, or grouping the whole file.
The pair shards are then reduced to the neighbours of each item.

The rows of the output are those of the definition in memory (`computeSimilarities_perm_naive`),
which knows the thresholds and the ratings but neither the shards nor the grouping mode.
-/

namespace OfflineDataProcessing

open ShardWriter

variable {K : Type*} [Field K] [LinearOrder K]

namespace ItemSimilarityBuilder

/-- The options that decide the result. -/
structure Thresholds (K : Type*) [Field K] extends RatingOptions K, PairThresholds K where
  maxUserItems : ℤ := 300
  minItemUsers : ℤ := 5
  minCooccurrence := 3
  topK := 100

/-- The options of the builder. -/
structure Options (K : Type*) [Field K] extends Thresholds K, ShardOptions where
  outputFormat : String := "jsonl"
  ratingsSortedByUser : Bool := true
  itemStatsLogEvery : ℤ := 2000000
  pairMappingLogEvery : ℤ := 200000
  shardLogDivisor : ℤ := 32
  userLogEvery : ℤ := 30000

end ItemSimilarityBuilder

/-- The builder, whose options have been validated. -/
structure ItemSimilarityBuilder (K : Type*) [Field K] extends
    ItemSimilarityBuilder.Options K, PairReduction K where
  outputFormat_mem : outputFormat ∈ ["jsonl", "json"]
  minItemUsers_pos : 0 < minItemUsers
  itemStatsLogEvery_pos : 0 < itemStatsLogEvery
  pairMappingLogEvery_pos : 0 < pairMappingLogEvery
  shardLogDivisor_pos : 0 < shardLogDivisor
  userLogEvery_pos : 0 < userLogEvery

/-- The statistics of the first pass: the items kept, the squared norms and the numbers of positive
ratings of all items. -/
structure ItemStats (K : Type*) where
  validItems : List ℤ
  itemNormSq : List (ℤ × K)
  itemUserCounts : List (ℤ × ℕ)
  deriving Repr

namespace ItemSimilarityBuilder

/-- The constructor, with the message of the exception it throws. -/
def normalizeConfig (options : Options K) : Except String (ItemSimilarityBuilder K) :=
  if hformat : options.outputFormat.toLower ∉ ["jsonl", "json"] then
    .error "output_format must be either 'jsonl' or 'json'"
  else if htopK : options.topK ≤ 0 then .error "top_k must be positive"
  else if husers : options.minItemUsers ≤ 0 then .error "min_item_users must be positive"
  else if hcount : options.minCooccurrence ≤ 0 then .error "min_cooccurrence must be positive"
  else if hshards : options.shardCount ≤ 0 then .error "shard_count must be positive"
  else if hbuffer : options.shardBufferRows ≤ 0 then .error "shard_buffer_rows must be positive"
  else if hstats : options.itemStatsLogEvery ≤ 0 then
    .error "item_stats_log_every must be positive"
  else if hmapping : options.pairMappingLogEvery ≤ 0 then
    .error "pair_mapping_log_every must be positive"
  else if hdivisor : options.shardLogDivisor ≤ 0 then .error "shard_log_divisor must be positive"
  else if hlog : options.userLogEvery ≤ 0 then .error "user_log_every must be positive"
  else
    .ok {
      options with
      outputFormat := options.outputFormat.toLower
      outputFormat_mem := not_not.mp hformat
      topK_pos := lt_of_not_ge htopK
      minItemUsers_pos := lt_of_not_ge husers
      minCooccurrence_pos := lt_of_not_ge hcount
      shardCount_pos := lt_of_not_ge hshards
      shardBufferRows_pos := lt_of_not_ge hbuffer
      itemStatsLogEvery_pos := lt_of_not_ge hstats
      pairMappingLogEvery_pos := lt_of_not_ge hmapping
      shardLogDivisor_pos := lt_of_not_ge hdivisor
      userLogEvery_pos := lt_of_not_ge hlog }

omit [LinearOrder K] in
/-- The default options are accepted. -/
theorem isOk_normalizeConfig_default :
  (normalizeConfig ({} : Options K)).isOk = true
  := by
  have hformat : "jsonl".toLower = "jsonl" := by decide +kernel
  simp [normalizeConfig, hformat, Except.isOk, Except.toBool]

/-! ### Statistics -/

/-- The first pass over the ratings. -/
def buildItemStats (b : ItemSimilarityBuilder K) (rows : List (RatingRow K)) : ItemStats K :=
  let ratings := b.iterPositiveRatings rows
  { validItems := validKeys PositiveRating.movieId b.minItemUsers ratings
    itemNormSq := ratingNormSq PositiveRating.movieId ratings
    itemUserCounts := ratingCounts PositiveRating.movieId ratings }

/-! ### Pairs of a user -/

/-- The interaction of a positive rating with its item. -/
def itemInteraction (rating : PositiveRating K) : Interaction K :=
  { memberId := rating.movieId
    weight := rating.weight
    timestamp := rating.timestamp }

/-- Stronger interactions go first, and of equal ones the smaller item. -/
def strongerFirst (x y : Interaction K) : Bool :=
  if x.weight ≠ y.weight then y.weight < x.weight
  else if x.timestamp ≠ y.timestamp then y.timestamp < x.timestamp
  else x.memberId < y.memberId

/-- The interactions of a user, one for each item and up to the cap, by item. -/
def normalizeUserInteractions (b : ItemSimilarityBuilder K) (interactions : List (Interaction K)) :
    List (WeightedMember K) :=
  let ranked := Ranked.sortBy strongerFirst (dedupe interactions)
  let capped :=
    if 0 < b.maxUserItems ∧ b.maxUserItems < ranked.length then ranked.take b.maxUserItems.toNat
    else ranked
  sortedMembers (capped.map Interaction.member)

/-- The contributions of a user. -/
def userPairs (b : ItemSimilarityBuilder K) (interactions : List (PositiveRating K)) :
    List (PairContribution K) :=
  let normalized := b.normalizeUserInteractions (interactions.map itemInteraction)
  if normalized.length < 2 then []
  else (Combinations.combinations normalized).map fun pair => contribution pair.1 pair.2

/-- The contributions of a user are appended to the buffers of their shards. -/
def writeUserPairsToShards (b : ItemSimilarityBuilder K) (w : Writer (PairContribution K))
    (interactions : List (PositiveRating K)) : Writer (PairContribution K) :=
  (b.userPairs interactions).foldl
    (Writer.append fun c => b.pairShardId c.leftId c.rightId) w

/-- A user in the loop over the users. -/
def mapUser (b : ItemSimilarityBuilder K) (w : Writer (PairContribution K))
    (interactions : List (PositiveRating K)) : Writer (PairContribution K) :=
  (b.writeUserPairsToShards w interactions).count b.shardBufferRows
    (b.userPairs interactions).length

/-- The user left after the loop, whose rows are counted without flushing. -/
def mapLastUser (b : ItemSimilarityBuilder K) (w : Writer (PairContribution K))
    (interactions : List (PositiveRating K)) : Writer (PairContribution K) :=
  (b.writeUserPairsToShards w interactions).tally (b.userPairs interactions).length

/-- The second pass over the ratings. -/
def mapUserPairsToPairShards (b : ItemSimilarityBuilder K) (validItems : List ℤ)
    (rows : List (RatingRow K)) : Writer (PairContribution K) :=
  let ratings := (b.iterPositiveRatings rows).filter (·.movieId ∈ validItems)
  if b.ratingsSortedByUser then
    let loop := ratings.foldl (Keyed.runStep PositiveRating.userId b.mapUser) { state := {} }
    ((loop.pending.map Prod.snd).foldl b.mapLastUser loop.state).flush
  else
    let userInteractions := Keyed.collect PositiveRating.userId
      (fun rating interactions => interactions.getD [] ++ [rating]) ratings
    ((userInteractions.map Prod.snd).foldl b.mapUser {}).flush

/-! ### The pipeline -/

variable [FloorRing K]

/-- The neighbour shards of the pair shards. -/
def reducePairShardsToNeighborShards (b : ItemSimilarityBuilder K) (sqrt : K → K)
    (itemNormSq : List (ℤ × K)) (pairShards : Writer (PairContribution K)) :
    Writer (NeighborRow K) :=
  b.toPairReduction.reducePairShardsToNeighborShards sqrt itemNormSq pairShards

/-- The rows of the neighbour shards. -/
def reduceNeighborShardsToOutput (b : ItemSimilarityBuilder K)
    (neighborShards : Writer (NeighborRow K)) : List (SimilarityRow K) :=
  b.toPairReduction.reduceNeighborShardsToOutput neighborShards

/-- The rows written to the output. -/
def computeSimilarities (b : ItemSimilarityBuilder K) (sqrt : K → K) (rows : List (RatingRow K)) :
    List (SimilarityRow K) :=
  let stats := b.buildItemStats rows
  let pairShards := b.mapUserPairsToPairShards stats.validItems rows
  let neighborShards := b.reducePairShardsToNeighborShards sqrt stats.itemNormSq pairShards
  b.reduceNeighborShardsToOutput neighborShards

end ItemSimilarityBuilder

/-! ### The definition in memory -/

namespace ItemSimilarityBuilder.Thresholds

/-- The positive ratings of the items with enough positive ratings. -/
def keptRatings (t : Thresholds K) (rows : List (RatingRow K)) : List (PositiveRating K) :=
  OfflineDataProcessing.keptRatings PositiveRating.movieId t.minItemUsers
    (t.iterPositiveRatings rows)

/-- The squared norm of an item, over all its positive ratings. -/
def itemNormSq (t : Thresholds K) (rows : List (RatingRow K)) (movieId : ℤ) : K :=
  normSq PositiveRating.movieId (t.iterPositiveRatings rows) movieId

/-- The strongest interactions of a user, one for each item, up to the cap. -/
def keptInteractions (t : Thresholds K) (interactions : List (Interaction K)) :
    List (Interaction K) :=
  let ranked := Ranked.sortBy strongerFirst (strongest interactions)
  if 0 < t.maxUserItems then ranked.take t.maxUserItems.toNat else ranked

/-- The contributions of a user: one for each pair of items kept. -/
def userContributions (t : Thresholds K) (ratings : List (PositiveRating K)) :
    List (PairContribution K) :=
  let kept := t.keptInteractions (ratings.map itemInteraction)
  (Combinations.orderedPairs WeightedMember.memberId (kept.map Interaction.member)).map
    fun pair => contribution pair.1 pair.2

/-- The contributions of all users. -/
def contributions (t : Thresholds K) (rows : List (RatingRow K)) : List (PairContribution K) :=
  (Keyed.groups PositiveRating.userId (t.keptRatings rows)).flatMap fun group =>
    t.userContributions group.2

/-- The similarity rows of a file of ratings. -/
def naiveSimilarities [FloorRing K] (t : Thresholds K) (sqrt : K → K) (rows : List (RatingRow K)) :
    List (SimilarityRow K) :=
  t.similarityRows sqrt (t.itemNormSq rows) (t.contributions rows)

end ItemSimilarityBuilder.Thresholds

namespace ItemSimilarityBuilder

/-! ### The first pass -/

/-- The norm found for an item. -/
theorem lookup_itemNormSq (b : ItemSimilarityBuilder K) (rows : List (RatingRow K)) (movieId : ℤ) :
  ((b.buildItemStats rows).itemNormSq.lookup movieId).getD 0 = b.itemNormSq rows movieId
  := lookup_ratingNormSq _ _ _

/-- The ratings of the second pass. -/
theorem filter_validItems [IsStrictOrderedRing K] (b : ItemSimilarityBuilder K)
    (rows : List (RatingRow K)) :
  (b.iterPositiveRatings rows).filter (·.movieId ∈ (b.buildItemStats rows).validItems)
    = b.keptRatings rows
  := filter_validKeys b.minItemUsers (fun _ => RatingOptions.weight_pos)

/-! ### The pairs of a user -/

/-- The cap on a list no longer than it has no effect. -/
theorem normalizeUserInteractions_eq (b : ItemSimilarityBuilder K)
    (interactions : List (Interaction K)) :
  b.normalizeUserInteractions interactions
    = sortedMembers ((b.keptInteractions interactions).map Interaction.member)
  := by
  rw [normalizeUserInteractions, Thresholds.keptInteractions, dedupe_eq_strongest]
  congr 2
  by_cases hcap : 0 < b.maxUserItems
  · simp only [hcap, true_and, if_true]
    split
    · rfl
    · rename_i hlength
      rw [List.take_of_length_le]
      omega
  · simp only [hcap, false_and, if_false]

theorem mem_of_mem_keptInteractions {t : Thresholds K} {interactions : List (Interaction K)}
    {x : Interaction K} (h : x ∈ t.keptInteractions interactions) :
  x ∈ interactions
  := by
  rw [Thresholds.keptInteractions, ← dedupe_eq_strongest] at h
  apply mem_of_mem_dedupe
  apply (Ranked.sortBy_perm strongerFirst (dedupe interactions)).mem_iff.mp
  split at h
  · exact List.mem_of_mem_take h
  · exact h

theorem nodup_keptInteractions (t : Thresholds K) (interactions : List (Interaction K)) :
  (((t.keptInteractions interactions).map Interaction.member).map WeightedMember.memberId).Nodup
  := by
  have hsorted : ((Ranked.sortBy strongerFirst (dedupe interactions)).map
      Interaction.memberId).Nodup :=
    ((Ranked.sortBy_perm _ _).map _).nodup_iff.mpr (nodup_map_memberId_dedupe interactions)
  rw [Thresholds.keptInteractions, ← dedupe_eq_strongest, List.map_map]
  split
  · exact hsorted.sublist ((List.take_sublist _ _).map _)
  · exact hsorted

/-- The rows written for a user are its contributions. -/
theorem userPairs_perm (b : ItemSimilarityBuilder K) (interactions : List (PositiveRating K)) :
  (b.userPairs interactions).Perm (b.userContributions interactions)
  := by
  have hpairs := combinations_sortedMembers_perm
    (nodup_keptInteractions b.toThresholds (interactions.map itemInteraction))
  rw [userPairs, normalizeUserInteractions_eq]
  split
  · rename_i hlength
    have hnil : Combinations.combinations (sortedMembers
        ((b.keptInteractions (interactions.map itemInteraction)).map Interaction.member)) = [] :=
      Combinations.combinations_eq_nil hlength
    rw [hnil, List.nil_perm] at hpairs
    rw [Thresholds.userContributions, hpairs]
    exact List.Perm.refl _
  · exact hpairs.map _

/-- The members of a contribution are items of the user. -/
theorem mem_of_mem_userContributions {t : Thresholds K} {ratings : List (PositiveRating K)}
    {c : PairContribution K} (h : c ∈ t.userContributions ratings) :
  c.leftId ∈ ratings.map (·.movieId) ∧ c.rightId ∈ ratings.map (·.movieId)
  := by
  have hmem : ∀ m ∈ (t.keptInteractions (ratings.map itemInteraction)).map Interaction.member,
      m.memberId ∈ ratings.map (·.movieId) := by
    intro m hm
    obtain ⟨x, hx, rfl⟩ := List.mem_map.mp hm
    obtain ⟨rating, hrating, rfl⟩ := List.mem_map.mp (mem_of_mem_keptInteractions hx)
    exact List.mem_map_of_mem hrating
  obtain ⟨pair, hpair, rfl⟩ := List.mem_map.mp h
  obtain ⟨hleft, hright, -⟩ := Combinations.mem_orderedPairs.mp hpair
  exact ⟨hmem _ hleft, hmem _ hright⟩

/-! ### The second pass -/

theorem writes_mapUser (b : ItemSimilarityBuilder K) :
  Writes (fun c => b.pairShardId c.leftId c.rightId) b.userPairs b.mapUser
  := by
  intro w interactions n
  rw [mapUser, Writer.content_count, writeUserPairsToShards, Writer.content_foldl_append]

theorem writes_mapLastUser (b : ItemSimilarityBuilder K) :
  Writes (fun c => b.pairShardId c.leftId c.rightId) b.userPairs b.mapLastUser
  := by
  intro w interactions n
  rw [mapLastUser, Writer.content_tally, writeUserPairsToShards, Writer.content_foldl_append]

/-- Either grouping mode writes the pairs of every user. -/
theorem files_mapUserPairsToPairShards (b : ItemSimilarityBuilder K) (validItems : List ℤ)
    {rows : List (RatingRow K)}
    (h : b.ratingsSortedByUser = true → Keyed.Contiguous RatingRow.userId rows) (n : ℕ) :
  (b.mapUserPairsToPairShards validItems rows).files n
    = ((Keyed.groups PositiveRating.userId
        ((b.iterPositiveRatings rows).filter (·.movieId ∈ validItems))).flatMap
          fun group => b.userPairs group.2).filter fun c => b.pairShardId c.leftId c.rightId = n
  := by
  rw [mapUserPairsToPairShards]
  dsimp only
  split
  · rename_i hsorted
    have hcontiguous : Keyed.Contiguous PositiveRating.userId
        ((b.iterPositiveRatings rows).filter (·.movieId ∈ validItems)) :=
      (b.contiguous_iterPositiveRatings (h hsorted)).sublist List.filter_sublist
    obtain ⟨emitted, hruns, hstate⟩ := Keyed.foldl_runStep PositiveRating.userId b.mapUser {}
      ((b.iterPositiveRatings rows).filter (·.movieId ∈ validItems))
    rw [Writer.files_flush, b.writes_mapLastUser.foldl, hstate, b.writes_mapUser.foldl,
      Writer.content_empty, List.nil_append, ← List.filter_append, List.flatMap_map,
      List.flatMap_map, ← List.flatMap_append, ← hruns, Keyed.runs_eq_groups hcontiguous]
  · have hgroups : Keyed.collect PositiveRating.userId
        (fun rating (interactions : Option (List (PositiveRating K))) =>
          interactions.getD [] ++ [rating])
        ((b.iterPositiveRatings rows).filter (·.movieId ∈ validItems))
        = Keyed.groups PositiveRating.userId
          ((b.iterPositiveRatings rows).filter (·.movieId ∈ validItems)) :=
      Keyed.collect_append_eq_groups _ _
    rw [b.writes_mapUser.files_flush_foldl, hgroups, List.flatMap_map]

/-! ### The pipeline -/

variable [FloorRing K]

/-- The rows written are those of the definition in memory. -/
theorem computeSimilarities_perm [IsStrictOrderedRing K] (b : ItemSimilarityBuilder K)
    {sqrt : K → K} (hsqrt : ∀ x, 0 < x → 0 < sqrt x) {rows : List (RatingRow K)}
    (h : b.ratingsSortedByUser = true → Keyed.Contiguous RatingRow.userId rows) :
  (b.computeSimilarities sqrt rows).Perm (b.naiveSimilarities sqrt rows)
  := by
  have hnorm : (fun id => ((b.buildItemStats rows).itemNormSq.lookup id).getD 0)
      = b.itemNormSq rows := funext (b.lookup_itemNormSq rows)
  have hcontributions : ((Keyed.groups PositiveRating.userId (b.keptRatings rows)).flatMap
      fun group => b.userPairs group.2).Perm (b.contributions rows) := by
    apply List.Perm.flatMap_left
    intro group _
    apply b.userPairs_perm
  rw [Thresholds.naiveSimilarities, ← hnorm]
  apply List.Perm.trans _ (b.similarityRows_perm sqrt _ hcontributions)
  apply b.toPairReduction.reduceNeighborShardsToOutput_perm hsqrt
  · intro c hc
    obtain ⟨group, hgroup, hcgroup⟩ := List.mem_flatMap.mp (hcontributions.mem_iff.mp hc)
    have hpos : ∀ id, id ∈ group.2.map (·.movieId) →
        0 < ((b.buildItemStats rows).itemNormSq.lookup id).getD 0 := by
      intro id hid
      rw [b.lookup_itemNormSq]
      apply normSq_pos (fun _ => RatingOptions.weight_pos)
      obtain ⟨rating, hrating, rfl⟩ := List.mem_map.mp hid
      rw [(Keyed.mem_groups.mp hgroup).2] at hrating
      exact List.mem_map_of_mem (List.mem_of_mem_filter (List.mem_of_mem_filter hrating))
    obtain ⟨hleft, hright⟩ := mem_of_mem_userContributions hcgroup
    exact ⟨hpos _ hleft, hpos _ hright⟩
  · intro n
    rw [b.files_mapUserPairsToPairShards _ h, filter_validItems]

/-- In exact arithmetic the rows written are those of the definition in memory, so builders with
the same thresholds write the same rows. -/
theorem computeSimilarities_perm_naive (b : ItemSimilarityBuilder ℝ) {rows : List (RatingRow ℝ)}
    (h : b.ratingsSortedByUser = true → Keyed.Contiguous RatingRow.userId rows) :
  (b.computeSimilarities Real.sqrt rows).Perm (b.naiveSimilarities Real.sqrt rows)
    ∧ ∀ b' : ItemSimilarityBuilder ℝ, b'.toThresholds = b.toThresholds →
      (b'.ratingsSortedByUser = true → Keyed.Contiguous RatingRow.userId rows) →
        (b'.computeSimilarities Real.sqrt rows).Perm (b.computeSimilarities Real.sqrt rows)
  := by
  have hb := b.computeSimilarities_perm (fun x hx => Real.sqrt_pos.mpr hx) h
  refine ⟨hb, ?_⟩
  intro b' hthresholds h'
  have hb' := b'.computeSimilarities_perm (fun x hx => Real.sqrt_pos.mpr hx) h'
  rw [hthresholds] at hb'
  exact hb'.trans hb.symm

/-! ### Two users of two items -/

/-- A builder that writes the pairs of two users. -/
def twoUsers : ItemSimilarityBuilder K where
  minItemUsers := 2
  minCooccurrence := 2
  useRatingWeight := true
  shardCount := 2
  shardBufferRows := 1
  outputFormat_mem := by decide
  topK_pos := by decide
  minItemUsers_pos := by decide
  minCooccurrence_pos := by decide
  shardCount_pos := by decide
  shardBufferRows_pos := by decide
  itemStatsLogEvery_pos := by decide
  pairMappingLogEvery_pos := by decide
  shardLogDivisor_pos := by decide
  userLogEvery_pos := by decide

/-- Two users rate the same two items, the first user one of them twice, in a file grouped by user. -/
def twoUserRows : List (RatingRow K) :=
  [⟨1, 10, 5, 1⟩, ⟨1, 20, 4, 2⟩, ⟨1, 10, 4, 3⟩, ⟨2, 10, 4, 3⟩, ⟨2, 20, 5, 4⟩]

omit [FloorRing K] [LinearOrder K] in
theorem contiguous_twoUserRows :
  Keyed.Contiguous RatingRow.userId (twoUserRows : List (RatingRow K))
  := Keyed.contiguous_of_pairwise_le (by simp [twoUserRows])

omit [FloorRing K] in
theorem iterPositiveRatings_twoUsers [IsStrictOrderedRing K] :
  twoUsers.iterPositiveRatings (twoUserRows : List (RatingRow K))
    = [⟨1, 10, 2, 1⟩, ⟨1, 20, 1, 2⟩, ⟨1, 10, 1, 3⟩, ⟨2, 10, 1, 3⟩, ⟨2, 20, 2, 4⟩]
  := by
  have hfour : (twoUsers : ItemSimilarityBuilder K).ratingToWeight 4 = some 1 := by
    norm_num [RatingOptions.ratingToWeight, twoUsers]
  have hfive : (twoUsers : ItemSimilarityBuilder K).ratingToWeight 5 = some 2 := by
    norm_num [RatingOptions.ratingToWeight, twoUsers]
  simp [twoUserRows, RatingOptions.iterPositiveRatings, RatingOptions.positiveRating, hfour, hfive]

omit [FloorRing K] in
/-- Each user contributes to the pair of the two items, the first one by its stronger rating. -/
theorem contributions_twoUsers [IsStrictOrderedRing K] :
  twoUsers.contributions (twoUserRows : List (RatingRow K)) = [⟨10, 20, 2⟩, ⟨10, 20, 2⟩]
  := by
  have husers : [(1 : ℤ), 1, 1, 2, 2].eraseDups = [1, 2] := rfl
  have hrepeated : [(10 : ℤ), 20, 10].eraseDups = [10, 20] := rfl
  have hitems : [(10 : ℤ), 20].eraseDups = [10, 20] := rfl
  have hkept : twoUsers.keptRatings (twoUserRows : List (RatingRow K))
      = [⟨1, 10, 2, 1⟩, ⟨1, 20, 1, 2⟩, ⟨1, 10, 1, 3⟩, ⟨2, 10, 1, 3⟩, ⟨2, 20, 2, 4⟩] := by
    rw [Thresholds.keptRatings, iterPositiveRatings_twoUsers]
    simp [keptRatings, twoUsers]
  have hgroups : Keyed.groups PositiveRating.userId
      (twoUsers.keptRatings (twoUserRows : List (RatingRow K)))
        = [(1, [⟨1, 10, 2, 1⟩, ⟨1, 20, 1, 2⟩, ⟨1, 10, 1, 3⟩]),
            (2, [⟨2, 10, 1, 3⟩, ⟨2, 20, 2, 4⟩])] := by
    simp [hkept, Keyed.groups, husers]
  have hstrongest : [⟨10, 2, 1⟩, ⟨10, 1, 3⟩].argmax Interaction.strength
      = some (⟨10, 2, 1⟩ : Interaction K) := by
    have hlt : ¬ (2 : K) < 1 := by norm_num
    rw [List.argmax_cons]
    simp [Interaction.strength, Prod.Lex.toLex_lt_toLex, hlt]
  rw [Thresholds.contributions, hgroups]
  simp [Keyed.groups, Thresholds.userContributions, Thresholds.keptInteractions, strongest, twoUsers,
    Combinations.orderedPairs, itemInteraction, Ranked.sortBy, Interaction.member, contribution,
    strongerFirst, hrepeated, hitems, hstrongest]

/-- Either item has a row in memory. -/
theorem map_id_naiveSimilarities_twoUsers :
  (twoUsers.naiveSimilarities Real.sqrt twoUserRows).map SimilarityRow.id = [10, 20]
  := by
  have hpairs : [(⟨10, 20⟩ : MemberPair), ⟨10, 20⟩].eraseDups = [⟨10, 20⟩] := rfl
  have hids : [(10 : ℤ), 20].eraseDups = [10, 20] := rfl
  have hscore : ∀ x : ℝ, ¬ (2 + 2) / Real.sqrt x < 0 := fun x =>
    not_lt.mpr (div_nonneg (by norm_num) (Real.sqrt_nonneg x))
  rw [Thresholds.naiveSimilarities, contributions_twoUsers, PairThresholds.similarityRows,
    List.map_map]
  have hfst : SimilarityRow.id ∘ (twoUsers : ItemSimilarityBuilder ℝ).bestNeighbors = Prod.fst := rfl
  rw [hfst, Keyed.map_fst_groups]
  simp [PairThresholds.joinedRows, PairThresholds.joinedPairRows, Keyed.groups,
    PairContribution.pair, hpairs, twoUsers, hscore, hids]

/-- Both builders write a row of either item. -/
theorem computeSimilarities_perm_naive_two_users :
  (twoUsers.computeSimilarities Real.sqrt twoUserRows).Perm
      (twoUsers.naiveSimilarities Real.sqrt twoUserRows)
    ∧ ((twoUsers.computeSimilarities Real.sqrt twoUserRows).map SimilarityRow.id).Perm [10, 20]
  := by
  have hperm := (twoUsers.computeSimilarities_perm_naive fun _ => contiguous_twoUserRows).1
  use hperm
  rw [← map_id_naiveSimilarities_twoUsers]
  exact hperm.map _

end ItemSimilarityBuilder

end OfflineDataProcessing
