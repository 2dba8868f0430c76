import ShootingStar.Offline.ItemSimilarity
import ShootingStar.Offline.PairBounds

/-!
# Scores of items

The weights of a pair come from the interactions that each user keeps, one for each item and up to
the cap, and its norms from all positive ratings of its items.  Every pair of a pair shard has a
positive score of at most one, and no more contributions than users with positive ratings of both
items; it is written to the neighbour shards as two rows with the same score and count
(`scoredPair_bounds`).

The items of the first pass are those with enough positive ratings, which are the items with enough
users only where no repeated ratings make up the number (`validItems_iff`).
-/

namespace OfflineDataProcessing

open ShardWriter

variable {K : Type*} [Field K] [LinearOrder K]

namespace ItemSimilarityBuilder.Thresholds

/-- The users with positive ratings of both items of a pair. -/
def usersOfBoth (t : Thresholds K) (rows : List (RatingRow K)) (pair : MemberPair) : Finset ℤ :=
  groupsOfBoth PositiveRating.userId PositiveRating.movieId (t.iterPositiveRatings rows) pair

/-- The users with a positive rating of an item. -/
def raters (t : Thresholds K) (rows : List (RatingRow K)) (movieId : ℤ) : Finset ℤ :=
  (((t.iterPositiveRatings rows).filter (·.movieId = movieId)).map (·.userId)).toFinset

theorem card_raters_le (t : Thresholds K) (rows : List (RatingRow K)) (movieId : ℤ) :
  (t.raters rows movieId).card
    ≤ ((t.iterPositiveRatings rows).filter (·.movieId = movieId)).length
  := by
  rw [raters]
  apply (List.toFinset_card_le _).trans
  rw [List.length_map]

/-! ### The contributions of a user -/

theorem mem_dedupe_of_mem_keptInteractions {t : Thresholds K} {interactions : List (Interaction K)}
    {x : Interaction K} (h : x ∈ t.keptInteractions interactions) :
  x ∈ dedupe interactions
  := by
  rw [keptInteractions, ← dedupe_eq_strongest] at h
  apply (Ranked.sortBy_perm strongerFirst (dedupe interactions)).mem_iff.mp
  split at h
  · exact List.mem_of_mem_take h
  · exact h

/-- A contribution of a user is the one of two of its interactions. -/
theorem exists_of_mem_userContributions {t : Thresholds K} {ratings : List (PositiveRating K)}
    {c : PairContribution K} (h : c ∈ t.userContributions ratings) :
  ∃ x ∈ dedupe (ratings.map itemInteraction), ∃ y ∈ dedupe (ratings.map itemInteraction),
    c = contribution x.member y.member
  := by
  obtain ⟨pair, hpair, rfl⟩ := List.mem_map.mp h
  obtain ⟨hleft, hright, -⟩ := Combinations.mem_orderedPairs.mp hpair
  obtain ⟨x, hx, hxm⟩ := List.mem_map.mp hleft
  obtain ⟨y, hy, hym⟩ := List.mem_map.mp hright
  refine ⟨x, mem_dedupe_of_mem_keptInteractions hx, y, mem_dedupe_of_mem_keptInteractions hy, ?_⟩
  rw [hxm, hym]

/-- A user contributes once to each pair of items it keeps. -/
theorem nodup_map_pair_userContributions (t : Thresholds K) (ratings : List (PositiveRating K)) :
  ((t.userContributions ratings).map PairContribution.pair).Nodup
  := by
  have hpairs := Combinations.nodup_map_orderedPairs
    (nodup_keptInteractions t (ratings.map itemInteraction))
  have hnodup := hpairs.map (f := fun pair : ℤ × ℤ => (⟨pair.1, pair.2⟩ : MemberPair)) (by
    intro a b hab
    exact Prod.ext (congrArg MemberPair.left hab) (congrArg MemberPair.right hab))
  rw [List.map_map] at hnodup
  rw [userContributions, List.map_map]
  exact hnodup

theorem contributesOnce_userContributions (t : Thresholds K) (ratings : List (PositiveRating K))
    (pair : MemberPair) :
  ContributesOnce (ratings.map itemInteraction) pair
    ((t.userContributions ratings).filter (·.pair = pair))
  := by
  apply contributesOnce_of_nodup (t.nodup_map_pair_userContributions ratings)
  intro c hc
  exact exists_of_mem_userContributions hc

/-! ### The contributions of all users -/

theorem filter_contributions (t : Thresholds K) (rows : List (RatingRow K)) (pair : MemberPair) :
  (t.contributions rows).filter (·.pair = pair)
    = ((t.keptRatings rows).map PositiveRating.userId).eraseDups.flatMap fun userId =>
        (t.userContributions ((t.keptRatings rows).filter (·.userId = userId))).filter
          (·.pair = pair)
  := by
  rw [contributions, Keyed.groups, List.flatMap_map, List.filter_flatMap]

variable [IsStrictOrderedRing K]

/-- The ratings of the items kept, by user. -/
theorem grouping_keptRatings (t : Thresholds K) (rows : List (RatingRow K)) :
  Grouping PositiveRating.userId PositiveRating.movieId itemInteraction
    (t.iterPositiveRatings rows) (t.keptRatings rows)
  := by
  constructor
  · intro _
    rfl
  · intro _
    rfl
  · exact List.filter_sublist
  · intro _
    exact RatingOptions.weight_pos

/-- A pair has at most as many contributions as users with positive ratings of both its items. -/
theorem length_filter_contributions_le (t : Thresholds K) (rows : List (RatingRow K))
    (pair : MemberPair) :
  ((t.contributions rows).filter (·.pair = pair)).length ≤ (t.usersOfBoth rows pair).card
  := by
  rw [filter_contributions]
  apply (t.grouping_keptRatings rows).length_flatMap_le (Keyed.nodup_eraseDups _)
  intro userId _
  apply t.contributesOnce_userContributions

/-- The sum of the weights of a pair, squared, is at most the product of the squared norms of its
items. -/
theorem sq_sum_filter_contributions_le (t : Thresholds K) (rows : List (RatingRow K))
    (pair : MemberPair) :
  (((t.contributions rows).filter (·.pair = pair)).map (·.weight)).sum ^ 2
    ≤ t.itemNormSq rows pair.left * t.itemNormSq rows pair.right
  := by
  rw [filter_contributions]
  apply (t.grouping_keptRatings rows).sq_sum_flatMap_le
  intro userId _
  apply t.contributesOnce_userContributions

/-- Contributions are positive, and their items have positive norms. -/
theorem pos_of_mem_contributions {t : Thresholds K} {rows : List (RatingRow K)}
    {c : PairContribution K} (h : c ∈ t.contributions rows) :
  0 < c.weight ∧ 0 < t.itemNormSq rows c.leftId ∧ 0 < t.itemNormSq rows c.rightId
  := by
  obtain ⟨group, hgroup, hcgroup⟩ := List.mem_flatMap.mp h
  have hrating : ∀ rating ∈ group.2, rating ∈ t.iterPositiveRatings rows := by
    intro rating hrating
    rw [(Keyed.mem_groups.mp hgroup).2] at hrating
    exact List.mem_of_mem_filter (List.mem_of_mem_filter hrating)
  have hpos : ∀ x ∈ dedupe (group.2.map itemInteraction),
      0 < x.weight ∧ 0 < t.itemNormSq rows x.memberId := by
    intro x hx
    obtain ⟨rating, hmem, rfl⟩ := List.mem_map.mp (mem_of_mem_dedupe hx)
    refine ⟨RatingOptions.weight_pos (hrating rating hmem), ?_⟩
    apply normSq_pos (fun _ => RatingOptions.weight_pos)
    exact List.mem_map_of_mem (hrating rating hmem)
  obtain ⟨x, hx, y, hy, rfl⟩ := exists_of_mem_userContributions hcgroup
  exact ⟨mul_pos (hpos x hx).1 (hpos y hy).1, (hpos x hx).2, (hpos y hy).2⟩

end ItemSimilarityBuilder.Thresholds

namespace ItemSimilarityBuilder

open Thresholds

/-! ### The shards of a file of ratings -/

/-- The pair shards of a file of ratings. -/
def pairShards (b : ItemSimilarityBuilder K) (rows : List (RatingRow K)) :
    Writer (PairContribution K) :=
  b.mapUserPairsToPairShards (b.buildItemStats rows).validItems rows

/-- The score of a pair in a pair shard, before it is rounded, with the denominator. -/
def scoredPair (b : ItemSimilarityBuilder K) (sqrt : K → K) (rows : List (RatingRow K)) (n : ℕ)
    (pair : MemberPair) : K × K :=
  PairReduction.pairScore sqrt (b.buildItemStats rows).itemNormSq ((b.pairShards rows).files n) pair

/-- The neighbour rows that a pair of a pair shard with its count is written as. -/
def writtenRows (b : ItemSimilarityBuilder K) [FloorRing K] (sqrt : K → K)
    (rows : List (RatingRow K)) (n : ℕ) (entry : MemberPair × ℕ) : List (NeighborRow K) :=
  b.keptPairRows sqrt (b.buildItemStats rows).itemNormSq ((b.pairShards rows).files n) entry

/-- The neighbour shards of a file of ratings. -/
def neighborShards (b : ItemSimilarityBuilder K) [FloorRing K] (sqrt : K → K)
    (rows : List (RatingRow K)) : Writer (NeighborRow K) :=
  b.reducePairShardsToNeighborShards sqrt (b.buildItemStats rows).itemNormSq (b.pairShards rows)

/-- The pair shards split the contributions of all users, in some order. -/
theorem files_pairShards [IsStrictOrderedRing K] (b : ItemSimilarityBuilder K)
    {rows : List (RatingRow K)}
    (h : b.ratingsSortedByUser = true → Keyed.Contiguous RatingRow.userId rows) :
  ∃ cs : List (PairContribution K), cs.Perm (b.contributions rows)
    ∧ ∀ n, (b.pairShards rows).files n = cs.filter fun c => b.pairShardId c.leftId c.rightId = n
  := by
  use (Keyed.groups PositiveRating.userId (b.keptRatings rows)).flatMap fun group =>
    b.userPairs group.2
  constructor
  · apply List.Perm.flatMap_left
    intro group _
    apply b.userPairs_perm
  · intro n
    rw [pairShards, b.files_mapUserPairsToPairShards _ h, filter_validItems]

/-- The pairs counted in a pair shard are those of its contributions. -/
theorem exists_of_mem_pairCounts [IsStrictOrderedRing K] (b : ItemSimilarityBuilder K)
    {rows : List (RatingRow K)}
    (h : b.ratingsSortedByUser = true → Keyed.Contiguous RatingRow.userId rows) {n : ℕ}
    {entry : MemberPair × ℕ}
    (hentry : entry ∈ PairReduction.pairCounts ((b.pairShards rows).files n)) :
  entry.2 = (((b.pairShards rows).files n).filter (·.pair = entry.1)).length
    ∧ (((b.pairShards rows).files n).filter (·.pair = entry.1)).Subperm
      ((b.contributions rows).filter (·.pair = entry.1))
    ∧ ∃ c ∈ ((b.pairShards rows).files n).filter (·.pair = entry.1),
        b.pairShardId c.leftId c.rightId = n
  := by
  obtain ⟨cs, hcs, hfiles⟩ := b.files_pairShards h
  rw [PairReduction.pairCounts_eq] at hentry
  obtain ⟨group, hgroup, rfl⟩ := List.mem_map.mp hentry
  obtain ⟨hpair, hcontributions⟩ := Keyed.mem_groups.mp hgroup
  obtain ⟨c, hc, hcpair⟩ := List.mem_map.mp hpair
  refine ⟨congrArg List.length hcontributions, ?_, c, ?_, ?_⟩
  · rw [hfiles]
    exact (List.filter_sublist.filter _).subperm.trans (hcs.filter _).subperm
  · exact List.mem_filter.mpr ⟨hc, decide_eq_true hcpair⟩
  · rw [hfiles] at hc
    exact of_decide_eq_true (List.mem_filter.mp hc).2

/-- The rows of the neighbour shards are those that the pairs of the pair shards are written as. -/
theorem mem_files_neighborShards [IsStrictOrderedRing K] [FloorRing K]
    (b : ItemSimilarityBuilder K) (sqrt : K → K) {rows : List (RatingRow K)}
    (h : b.ratingsSortedByUser = true → Keyed.Contiguous RatingRow.userId rows) (m : ℕ)
    (row : NeighborRow K) :
  row ∈ (b.neighborShards sqrt rows).files m
    ↔ b.neighborShardId row.id = m
      ∧ ∃ n, ∃ entry ∈ PairReduction.pairCounts ((b.pairShards rows).files n),
          row ∈ b.writtenRows sqrt rows n entry
  := by
  obtain ⟨cs, -, hfiles⟩ := b.files_pairShards h
  have hwritten := (b.writes_reducePairShard sqrt
    (b.buildItemStats rows).itemNormSq).files_flush_existing rfl hfiles b.shardCount.toNat m
  rw [neighborShards, reducePairShardsToNeighborShards,
    PairReduction.reducePairShardsToNeighborShards, hwritten, List.mem_filter, decide_eq_true_eq,
    and_comm]
  simp only [← hfiles, List.mem_flatMap, List.mem_range]
  apply and_congr_right
  intro _
  constructor
  · rintro ⟨n, -, entry, hentry, hrow⟩
    exact ⟨n, entry, hentry, hrow⟩
  · rintro ⟨n, entry, hentry, hrow⟩
    obtain ⟨-, -, c, -, hshard⟩ := b.exists_of_mem_pairCounts h hentry
    refine ⟨n, ?_, entry, hentry, hrow⟩
    rw [← hshard]
    apply b.toNat_emod_lt

/-- A score whose weights are bounded by the norms. -/
theorem pairScore_bounds {normSq : List (ℤ × ℝ)} {contributions : List (PairContribution ℝ)}
    {pair : MemberPair}
    (hpos : ∀ c ∈ contributions.filter (·.pair = pair), 0 < c.weight)
    (hne : contributions.filter (·.pair = pair) ≠ [])
    (hleft : 0 < (normSq.lookup pair.left).getD 0) (hright : 0 < (normSq.lookup pair.right).getD 0)
    (hle : ((contributions.filter (·.pair = pair)).map (·.weight)).sum ^ 2
      ≤ (normSq.lookup pair.left).getD 0 * (normSq.lookup pair.right).getD 0) :
  0 < (PairReduction.pairScore Real.sqrt normSq contributions pair).2
    ∧ 0 < (PairReduction.pairScore Real.sqrt normSq contributions pair).1
    ∧ (PairReduction.pairScore Real.sqrt normSq contributions pair).1 ^ 2 ≤ 1
  := by
  have hproduct := mul_pos hleft hright
  have hdenominator := Real.sqrt_pos.mpr hproduct
  have hsum : 0 < ((contributions.filter (·.pair = pair)).map (·.weight)).sum := by
    apply List.sum_pos
    · intro w hw
      obtain ⟨c, hc, rfl⟩ := List.mem_map.mp hw
      exact hpos c hc
    · simpa using hne
  simp only [PairReduction.pairScore, PairReduction.lookup_pairWeightSums]
  refine ⟨hdenominator, div_pos hsum hdenominator, ?_⟩
  rw [div_pow, Real.sq_sqrt hproduct.le]
  exact div_le_one_of_le₀ hle hproduct.le

/-- A pair with a positive denominator is written unless it is under a threshold. -/
theorem writtenRows_of_denominator_pos [FloorRing K] {b : ItemSimilarityBuilder K} {sqrt : K → K}
    {rows : List (RatingRow K)} {n : ℕ} {entry : MemberPair × ℕ}
    (h : 0 < (b.scoredPair sqrt rows n entry.1).2) :
  b.writtenRows sqrt rows n entry
    = if entry.2 < b.minCooccurrence ∨ (b.scoredPair sqrt rows n entry.1).1 < b.minSimilarity then []
      else
        PairReduction.directedRows entry.1.left entry.1.right (b.scoredPair sqrt rows n entry.1).1
          entry.2
  := by
  rw [scoredPair] at h
  rw [writtenRows, PairReduction.keptPairRows, scoredPair]
  by_cases hcount : (entry.2 : ℤ) < b.minCooccurrence
  · rw [if_pos hcount, if_pos (.inl hcount)]
  · rw [if_neg hcount, if_neg (not_le.mpr h)]
    simp only [hcount, false_or]

/-- Every pair of a pair shard has a positive denominator and a positive score of at most one, and
no more contributions than users with positive ratings of both items; it is written as two rows with
one score and one count, unless it is under a threshold.  The neighbour shards hold these rows and no
others. -/
theorem scoredPair_bounds (b : ItemSimilarityBuilder ℝ) {rows : List (RatingRow ℝ)}
    (h : b.ratingsSortedByUser = true → Keyed.Contiguous RatingRow.userId rows) :
  (∀ n, ∀ entry ∈ PairReduction.pairCounts ((b.pairShards rows).files n),
      0 < (b.scoredPair Real.sqrt rows n entry.1).2
        ∧ 0 < (b.scoredPair Real.sqrt rows n entry.1).1
        ∧ (b.scoredPair Real.sqrt rows n entry.1).1 ^ 2 ≤ 1
        ∧ entry.2 ≤ (b.usersOfBoth rows entry.1).card
        ∧ ∃ score, score = PairReduction.roundedScore (b.scoredPair Real.sqrt rows n entry.1).1
          ∧ b.writtenRows Real.sqrt rows n entry
            = if entry.2 < b.minCooccurrence
                ∨ (b.scoredPair Real.sqrt rows n entry.1).1 < b.minSimilarity then []
              else
                [⟨entry.1.left, ⟨entry.1.right, score, entry.2⟩⟩,
                  ⟨entry.1.right, ⟨entry.1.left, score, entry.2⟩⟩])
    ∧ ∀ m row, row ∈ (b.neighborShards Real.sqrt rows).files m
      ↔ b.neighborShardId row.id = m
        ∧ ∃ n, ∃ entry ∈ PairReduction.pairCounts ((b.pairShards rows).files n),
            row ∈ b.writtenRows Real.sqrt rows n entry
  := by
  refine ⟨?_, b.mem_files_neighborShards Real.sqrt h⟩
  intro n entry hentry
  obtain ⟨hcount, hsub, c, hc, -⟩ := b.exists_of_mem_pairCounts h hentry
  have hposAll : ∀ d ∈ (b.contributions rows).filter (·.pair = entry.1), 0 < d.weight :=
    fun d hd => (pos_of_mem_contributions (List.mem_of_mem_filter hd)).1
  have hpair : c.pair = entry.1 := of_decide_eq_true (List.mem_filter.mp hc).2
  have hnorm : 0 < b.itemNormSq rows entry.1.left ∧ 0 < b.itemNormSq rows entry.1.right := by
    rw [← hpair]
    exact (pos_of_mem_contributions (List.mem_of_mem_filter (hsub.subset hc))).2
  have hsum : (((((b.pairShards rows).files n).filter (·.pair = entry.1)).map (·.weight)).sum) ^ 2
      ≤ b.itemNormSq rows entry.1.left * b.itemNormSq rows entry.1.right := by
    apply le_trans _ (b.sq_sum_filter_contributions_le rows entry.1)
    apply pow_le_pow_left₀
    · apply List.sum_nonneg
      intro w hw
      obtain ⟨d, hd, rfl⟩ := List.mem_map.mp hw
      exact (hposAll d (hsub.subset hd)).le
    · exact sum_weight_le_of_subperm hsub fun d hd => (hposAll d hd).le
  rw [← b.lookup_itemNormSq, ← b.lookup_itemNormSq] at hnorm hsum
  obtain ⟨hdenominator, hscore, hsq⟩ := pairScore_bounds
    (fun d hd => hposAll d (hsub.subset hd)) (List.ne_nil_of_mem hc) hnorm.1 hnorm.2 hsum
  refine ⟨hdenominator, hscore, hsq, ?_, ?_⟩
  · rw [hcount]
    exact hsub.length_le.trans (b.length_filter_contributions_le rows entry.1)
  · refine ⟨_, rfl, ?_⟩
    rw [writtenRows_of_denominator_pos hdenominator]
    rfl

/-- The shard of the pair of two items that two users rate holds that pair. -/
theorem mem_pairCounts_twoUsers :
  (⟨⟨10, 20⟩, 2⟩ : MemberPair × ℕ) ∈ PairReduction.pairCounts
    ((twoUsers.pairShards (twoUserRows : List (RatingRow ℝ))).files
      ((twoUsers : ItemSimilarityBuilder ℝ).pairShardId 10 20))
  := by
  have hgrouped : Keyed.Contiguous RatingRow.userId (twoUserRows : List (RatingRow ℝ)) :=
    contiguous_twoUserRows
  obtain ⟨cs, hcs, hfiles⟩ := twoUsers.files_pairShards fun _ => hgrouped
  have htwo : [⟨10, 20, 2⟩, ⟨10, 20, 2⟩] = List.replicate 2 (⟨10, 20, 2⟩ : PairContribution ℝ) := rfl
  rw [contributions_twoUsers, htwo, List.perm_replicate] at hcs
  subst hcs
  rw [hfiles]
  simp [PairReduction.pairCounts_eq, Keyed.groups, PairContribution.pair]

/-- The pair is written as two rows. -/
theorem scoredPair_bounds_two_users :
  let n := (twoUsers : ItemSimilarityBuilder ℝ).pairShardId 10 20
  (twoUsers.scoredPair Real.sqrt twoUserRows n ⟨10, 20⟩).1 ^ 2 ≤ 1
    ∧ ∃ score, twoUsers.writtenRows Real.sqrt twoUserRows n (⟨10, 20⟩, 2)
      = [⟨10, ⟨20, score, 2⟩⟩, ⟨20, ⟨10, score, 2⟩⟩]
  := by
  intro n
  obtain ⟨-, hpos, hle, -, score, -, hwritten⟩ :=
    (twoUsers.scoredPair_bounds fun _ => contiguous_twoUserRows).1 n _ mem_pairCounts_twoUsers
  use hle, score
  rw [hwritten, if_neg]
  rintro (hcount | hscore)
  · exact absurd hcount (by decide)
  · exact hpos.not_gt hscore

/-! ### The items kept -/

variable [IsStrictOrderedRing K]

/-- The first pass keeps the items with enough positive ratings. -/
theorem mem_validItems (b : ItemSimilarityBuilder K) (rows : List (RatingRow K)) (movieId : ℤ) :
  movieId ∈ (b.buildItemStats rows).validItems
    ↔ b.minItemUsers ≤ ((b.iterPositiveRatings rows).filter (·.movieId = movieId)).length
  := by
  have hmin := b.minItemUsers_pos
  rw [buildItemStats, mem_validKeys]
  constructor
  · rintro ⟨-, hcount, -⟩
    exact hcount
  · intro hcount
    have hmem : movieId ∈ (b.iterPositiveRatings rows).map PositiveRating.movieId := by
      obtain ⟨rating, hrating⟩ := List.exists_mem_of_length_pos
        (by omega : 0 < ((b.iterPositiveRatings rows).filter (·.movieId = movieId)).length)
      obtain ⟨hmem, hmovie⟩ := List.mem_filter.mp hrating
      exact List.mem_map.mpr ⟨rating, hmem, of_decide_eq_true hmovie⟩
    exact ⟨hmem, hcount, normSq_pos (fun _ => RatingOptions.weight_pos) hmem⟩

/-- The items kept are those with enough users exactly when no item has enough positive ratings from
too few users. -/
theorem validItems_iff (b : ItemSimilarityBuilder K) (rows : List (RatingRow K)) :
  (∀ movieId, movieId ∈ (b.buildItemStats rows).validItems
      ↔ b.minItemUsers ≤ (b.raters rows movieId).card)
    ↔ ∀ movieId,
      b.minItemUsers ≤ ((b.iterPositiveRatings rows).filter (·.movieId = movieId)).length →
      b.minItemUsers ≤ (b.raters rows movieId).card
  := by
  apply forall_congr'
  intro movieId
  have hle := b.card_raters_le rows movieId
  rw [b.mem_validItems]
  constructor
  · exact Iff.mp
  · intro h
    exact ⟨h, fun hcard => hcard.trans (by exact_mod_cast hle)⟩

/-- Two users rate an item once each, and two users are required. -/
theorem validItems_iff_two_users :
  let b : ItemSimilarityBuilder ℚ := {
    minItemUsers := 2
    outputFormat_mem := by decide
    topK_pos := by decide
    minItemUsers_pos := by decide
    minCooccurrence_pos := by decide
    shardCount_pos := by decide
    shardBufferRows_pos := by decide
    itemStatsLogEvery_pos := by decide
    pairMappingLogEvery_pos := by decide
    shardLogDivisor_pos := by decide
    userLogEvery_pos := by decide }
  let rows : List (RatingRow ℚ) := [⟨1, 10, 5, 1⟩, ⟨2, 10, 5, 2⟩]
  (b.buildItemStats rows).validItems = [10]
    ∧ ∀ movieId, movieId ∈ (b.buildItemStats rows).validItems
      ↔ b.minItemUsers ≤ (b.raters rows movieId).card
  := by
  intro b rows
  constructor
  · decide +kernel
  · apply (validItems_iff b rows).mpr
    intro movieId hcount
    have hratings : b.iterPositiveRatings rows = [⟨1, 10, 1, 1⟩, ⟨2, 10, 1, 2⟩] := by decide +kernel
    by_cases h : 10 = movieId
    · subst h
      decide +kernel
    · rw [hratings, List.filter_cons_of_neg (by simpa using h),
        List.filter_cons_of_neg (by simpa using h), List.filter_nil] at hcount
      exact absurd hcount (by decide)

/-- One user rates an item twice, and two users are required. -/
theorem validItems_repeated_rating :
  let b : ItemSimilarityBuilder ℚ := {
    minItemUsers := 2
    outputFormat_mem := by decide
    topK_pos := by decide
    minItemUsers_pos := by decide
    minCooccurrence_pos := by decide
    shardCount_pos := by decide
    shardBufferRows_pos := by decide
    itemStatsLogEvery_pos := by decide
    pairMappingLogEvery_pos := by decide
    shardLogDivisor_pos := by decide
    userLogEvery_pos := by decide }
  let rows : List (RatingRow ℚ) := [⟨1, 10, 5, 1⟩, ⟨1, 10, 5, 2⟩]
  (b.buildItemStats rows).validItems = [10]
    ∧ (b.raters rows 10).card = 1
    ∧ ¬ ∀ movieId, movieId ∈ (b.buildItemStats rows).validItems
        ↔ b.minItemUsers ≤ (b.raters rows movieId).card
  := by
  intro b rows
  have hvalid : (b.buildItemStats rows).validItems = [10] := by decide +kernel
  have hcard : (b.raters rows 10).card = 1 := by decide +kernel
  refine ⟨hvalid, hcard, fun h => ?_⟩
  have hmem := (h 10).mp (by rw [hvalid]; exact List.mem_singleton_self 10)
  rw [hcard] at hmem
  exact absurd hmem (by decide)

end ItemSimilarityBuilder

end OfflineDataProcessing
