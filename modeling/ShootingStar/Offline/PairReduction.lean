import Mathlib.Data.Prod.Lex
import ShootingStar.Lib.Keyed
import ShootingStar.Lib.Ranked
import ShootingStar.Lib.Rounding
import ShootingStar.Lib.ShardWriter
import ShootingStar.Lib.TopK

/-!
# From pair contributions to neighbours

Both similarity builders end with the same two stages.  Shards of pair contributions are summed
pair by pair and scored, and each pair kept gives a row to either of its members in the neighbour
shards; then each neighbour shard keeps the best neighbours of each of its members in a bounded
heap.  The result is a join of all contributions, whatever the shards are
(`reduceNeighborShardsToOutput_perm`).
-/

namespace OfflineDataProcessing

open ShardWriter

variable {K : Type*} [Field K] [LinearOrder K] [FloorRing K]

/-- An unordered pair, the smaller identifier on the left. -/
structure MemberPair where
  left : ℤ
  right : ℤ
  deriving DecidableEq, Repr

/-- The weight that one user or item contributes to an unordered pair. -/
structure PairContribution (K : Type*) where
  leftId : ℤ
  rightId : ℤ
  weight : K
  deriving DecidableEq, Repr

/-- The pair contributed to. -/
def PairContribution.pair (c : PairContribution K) : MemberPair :=
  { left := c.leftId, right := c.rightId }

/-- A neighbour with its score. -/
structure Neighbor (K : Type*) where
  neighborId : ℤ
  score : K
  cooccurrence : ℕ
  deriving DecidableEq, Repr

/-- A row of a neighbour shard. -/
structure NeighborRow (K : Type*) where
  id : ℤ
  neighbor : Neighbor K
  deriving DecidableEq, Repr

/-- A row of the output. -/
structure SimilarityRow (K : Type*) where
  id : ℤ
  neighbors : List (Neighbor K)
  deriving DecidableEq, Repr

/-- What a pair must reach, and how many neighbours are kept. -/
structure PairThresholds (K : Type*) [Field K] where
  minCooccurrence : ℤ
  minSimilarity : K := 0
  topK : ℤ

/-- The options of the intermediate files. -/
structure ShardOptions where
  shardCount : ℤ := 512
  shardBufferRows : ℤ := 100000

/-- The options of the two stages, validated. -/
structure PairReduction (K : Type*) [Field K] extends PairThresholds K, ShardOptions where
  topK_pos : 0 < topK
  minCooccurrence_pos : 0 < minCooccurrence
  shardCount_pos : 0 < shardCount
  shardBufferRows_pos : 0 < shardBufferRows

namespace PairReduction

/-! ### Pair shards to neighbour shards -/

/-- The shard of an unordered pair. -/
def pairShardId (r : PairReduction K) (leftId rightId : ℤ) : ℕ :=
  ((leftId * 1000003 + rightId) % r.shardCount).toNat

/-- The shard of all neighbours of a member. -/
def neighborShardId (r : PairReduction K) (id : ℤ) : ℕ :=
  (id % r.shardCount).toNat

/-- The score as a neighbour row carries it: rounded to eight decimals, and written with eight
significant digits. -/
def roundedScore (score : K) : K :=
  Rounding.roundSignificant 8 (Rounding.roundDecimals 8 score)

/-- The two rows of a pair. -/
def directedRows (leftId rightId : ℤ) (score : K) (cooccurrence : ℕ) : List (NeighborRow K) :=
  [{ id := leftId
     neighbor := { neighborId := rightId, score := roundedScore score, cooccurrence } },
   { id := rightId
     neighbor := { neighborId := leftId, score := roundedScore score, cooccurrence } }]

/-- The sum of the weights of each pair. -/
def pairWeightSums (contributions : List (PairContribution K)) : List (MemberPair × K) :=
  Keyed.collect PairContribution.pair (fun c sum => sum.getD 0 + c.weight) contributions

/-- The number of contributions to each pair. -/
def pairCounts (contributions : List (PairContribution K)) : List (MemberPair × ℕ) :=
  Keyed.collect PairContribution.pair (fun _ count => count.getD 0 + 1) contributions

/-- The unrounded score of a pair, with the denominator. -/
def pairScore (sqrt : K → K) (normSq : List (ℤ × K)) (contributions : List (PairContribution K))
    (pair : MemberPair) : K × K :=
  let denominator :=
    sqrt ((normSq.lookup pair.left).getD 0 * (normSq.lookup pair.right).getD 0)
  (((pairWeightSums contributions).lookup pair).getD 0 / denominator, denominator)

/-- The rows of a pair with its count, none when it is under a threshold. -/
def keptPairRows (r : PairReduction K) (sqrt : K → K) (normSq : List (ℤ × K))
    (contributions : List (PairContribution K)) (entry : MemberPair × ℕ) : List (NeighborRow K) :=
  if entry.2 < r.minCooccurrence then []
  else
    let scored := pairScore sqrt normSq contributions entry.1
    if scored.2 ≤ 0 then []
    else if scored.1 < r.minSimilarity then []
    else directedRows entry.1.left entry.1.right scored.1 entry.2

/-- One turn of the loop over the pairs of a shard: the rows are buffered and counted, and a pair
without rows is skipped. -/
def reducePair (r : PairReduction K) (sqrt : K → K) (normSq : List (ℤ × K))
    (contributions : List (PairContribution K)) (w : Writer (NeighborRow K))
    (entry : MemberPair × ℕ) : Writer (NeighborRow K) :=
  match r.keptPairRows sqrt normSq contributions entry with
  | [] => w
  | rows =>
    (rows.foldl (Writer.append fun row => r.neighborShardId row.id) w).count r.shardBufferRows 2

/-- The pairs of a shard are reduced in the order they are first seen. -/
def reducePairShard (r : PairReduction K) (sqrt : K → K) (normSq : List (ℤ × K))
    (w : Writer (NeighborRow K)) (contributions : List (PairContribution K)) :
    Writer (NeighborRow K) :=
  (pairCounts contributions).foldl (r.reducePair sqrt normSq contributions) w

/-- The pair shards that exist are reduced in turn, and the buffers are flushed at the end. -/
def reducePairShardsToNeighborShards (r : PairReduction K) (sqrt : K → K)
    (normSq : List (ℤ × K)) (pairShards : Writer (PairContribution K)) :
    Writer (NeighborRow K) :=
  (((pairShards.existing r.shardCount.toNat).map pairShards.files).foldl
    (r.reducePairShard sqrt normSq) {}).flush

/-! ### Neighbour shards to the output -/

/-- The rank of a neighbour in the heap: the score, then the cooccurrence, then the smaller
identifier. -/
def neighborRank (n : Neighbor K) : K ×ₗ ℕ ×ₗ ℤ :=
  toLex (n.score, toLex (n.cooccurrence, -n.neighborId))

/-- Whether a neighbour goes before another in a row of the output. -/
def neighborBefore (a b : Neighbor K) : Bool :=
  if a.score ≠ b.score then b.score < a.score
  else if a.cooccurrence ≠ b.cooccurrence then b.cooccurrence < a.cooccurrence
  else a.neighborId < b.neighborId

/-- The neighbour as the output has it. -/
def outputNeighbor (n : Neighbor K) : Neighbor K :=
  { n with score := Rounding.roundDecimals 8 n.score }

/-- The output row of a member with its heap. -/
def outputRow (entry : ℤ × List (Neighbor K)) : SimilarityRow K :=
  { id := entry.1
    neighbors := (Ranked.sortBy neighborBefore entry.2).map outputNeighbor }

/-- The output rows of a neighbour shard, by identifier. -/
def topkRowsForNeighborShard (r : PairReduction K) (rows : List (NeighborRow K)) :
    List (SimilarityRow K) :=
  let topkById := Keyed.collect NeighborRow.id
    (fun row heap => TopK.offer r.topK neighborRank (heap.getD []) row.neighbor) rows
  Ranked.sortBy (fun a b => a.id < b.id) (topkById.map outputRow)

/-- The rows of the output, neighbour shard by neighbour shard. -/
def reduceNeighborShardsToOutput (r : PairReduction K)
    (neighborShards : Writer (NeighborRow K)) : List (SimilarityRow K) :=
  (neighborShards.existing r.shardCount.toNat).flatMap fun shardId =>
    r.topkRowsForNeighborShard (neighborShards.files shardId)

end PairReduction

namespace PairThresholds

open OfflineDataProcessing.PairReduction

/-! ### The definition in memory -/

/-- The rows of a pair with all its contributions, none when it is under a threshold: either member is
a neighbour of the other, with the score to eight decimals and eight significant digits. -/
def joinedPairRows (t : PairThresholds K) (sqrt : K → K) (normSq : ℤ → K)
    (group : MemberPair × List (PairContribution K)) : List (NeighborRow K) :=
  let score := (group.2.map (·.weight)).sum / sqrt (normSq group.1.left * normSq group.1.right)
  let written := Rounding.roundSignificant 8 (Rounding.roundDecimals 8 score)
  if group.2.length < t.minCooccurrence ∨ score < t.minSimilarity then []
  else
    [⟨group.1.left, ⟨group.1.right, written, group.2.length⟩⟩,
     ⟨group.1.right, ⟨group.1.left, written, group.2.length⟩⟩]

/-- The rows of all pairs, from all contributions. -/
def joinedRows (t : PairThresholds K) (sqrt : K → K) (normSq : ℤ → K)
    (contributions : List (PairContribution K)) : List (NeighborRow K) :=
  (Keyed.groups PairContribution.pair contributions).flatMap (t.joinedPairRows sqrt normSq)

/-- A neighbour is better than another by its score, with equal scores by its cooccurrence, and with
these equal by the smaller identifier. -/
def isBetter (a b : Neighbor K) : Bool :=
  decide (b.score < a.score
    ∨ a.score = b.score ∧ (b.cooccurrence < a.cooccurrence
      ∨ a.cooccurrence = b.cooccurrence ∧ a.neighborId < b.neighborId))

/-- The best neighbours of a member, from all its rows, with their scores to eight decimals. -/
def bestNeighbors (t : PairThresholds K) (group : ℤ × List (NeighborRow K)) : SimilarityRow K :=
  { id := group.1
    neighbors :=
      ((Ranked.sortBy isBetter (group.2.map (·.neighbor))).take t.topK.toNat).map fun n =>
        { n with score := Rounding.roundDecimals 8 n.score } }

/-- The similarity rows, from all contributions. -/
def similarityRows (t : PairThresholds K) (sqrt : K → K) (normSq : ℤ → K)
    (contributions : List (PairContribution K)) : List (SimilarityRow K) :=
  (Keyed.groups NeighborRow.id (t.joinedRows sqrt normSq contributions)).map t.bestNeighbors

/-! ### The order of the rows -/

omit [Field K] [FloorRing K] in
theorem compares_neighborBefore :
  Ranked.Compares neighborBefore (fun n : Neighbor K => OrderDual.toDual (neighborRank n))
  := by
  intro a b
  rw [OrderDual.toDual_lt_toDual, neighborRank, neighborRank, Prod.Lex.toLex_lt_toLex,
    Prod.Lex.toLex_lt_toLex, neighborBefore]
  simp only [neg_lt_neg_iff]
  by_cases hscore : a.score = b.score
  · by_cases hcount : a.cooccurrence = b.cooccurrence
    · simp [hscore, hcount]
    · have hcount' : ¬ b.cooccurrence = a.cooccurrence := fun h => hcount h.symm
      simp [hscore, hcount, hcount']
  · have hscore' : ¬ b.score = a.score := fun h => hscore h.symm
    simp [hscore, hscore']

omit [Field K] [LinearOrder K] [FloorRing K] in
/-- Neighbours of one rank are equal. -/
theorem neighborRank_injective :
  Function.Injective (neighborRank : Neighbor K → K ×ₗ ℕ ×ₗ ℤ)
  := by
  rintro ⟨id, score, count⟩ ⟨id', score', count'⟩ h
  simp only [neighborRank, toLex_inj, Prod.mk.injEq, neg_inj] at h
  obtain ⟨rfl, rfl, rfl⟩ := h
  rfl

omit [Field K] [FloorRing K] in
theorem isBetter_eq :
  (isBetter : Neighbor K → Neighbor K → Bool) = neighborBefore
  := by
  funext a b
  rw [isBetter, neighborBefore]
  by_cases hscore : a.score = b.score
  · by_cases hcount : a.cooccurrence = b.cooccurrence
    · simp [hscore, hcount]
    · simp [hscore, hcount]
  · simp [hscore]

theorem bestNeighbors_eq (t : PairThresholds K) (group : ℤ × List (NeighborRow K)) :
  t.bestNeighbors group
    = { id := group.1
        neighbors :=
          ((Ranked.sortBy neighborBefore (group.2.map (·.neighbor))).take t.topK.toNat).map
            outputNeighbor }
  := by
  rw [bestNeighbors, isBetter_eq]
  rfl

theorem bestNeighbors_congr (t : PairThresholds K) (id : ℤ) {rows rows' : List (NeighborRow K)}
    (h : rows.Perm rows') :
  t.bestNeighbors (id, rows) = t.bestNeighbors (id, rows')
  := by
  rw [bestNeighbors_eq, bestNeighbors_eq,
    Ranked.sortBy_eq_of_perm_of_injOn compares_neighborBefore
      (fun a _ b _ hab => neighborRank_injective hab) (h.map (·.neighbor))]

/-- The join does not depend on the order of the contributions. -/
theorem joinedRows_perm (t : PairThresholds K) (sqrt : K → K) (normSq : ℤ → K)
    {contributions contributions' : List (PairContribution K)}
    (h : contributions.Perm contributions') :
  (t.joinedRows sqrt normSq contributions).Perm (t.joinedRows sqrt normSq contributions')
  := by
  rw [joinedRows, joinedRows, List.flatMap_def, List.flatMap_def]
  apply List.Perm.flatten
  apply Keyed.groups_map_perm h
  intro pair l l' hl
  simp only [joinedPairRows, (hl.map _).sum_eq, hl.length_eq]

/-- The similarity rows do not depend on the order of the contributions. -/
theorem similarityRows_perm (t : PairThresholds K) (sqrt : K → K) (normSq : ℤ → K)
    {contributions contributions' : List (PairContribution K)}
    (h : contributions.Perm contributions') :
  (t.similarityRows sqrt normSq contributions).Perm (t.similarityRows sqrt normSq contributions')
  := by
  apply Keyed.groups_map_perm (t.joinedRows_perm sqrt normSq h)
  intro id l l' hl
  exact t.bestNeighbors_congr id hl

/-! ### The rows of the output -/

/-- Every member has one row. -/
theorem nodup_map_id_similarityRows (t : PairThresholds K) (sqrt : K → K) (normSq : ℤ → K)
    (contributions : List (PairContribution K)) :
  ((t.similarityRows sqrt normSq contributions).map SimilarityRow.id).Nodup
  := by
  rw [similarityRows, List.map_map]
  have hids : SimilarityRow.id ∘ t.bestNeighbors = Prod.fst := rfl
  rw [hids, Keyed.map_fst_groups]
  apply Keyed.nodup_eraseDups

/-- A member is never its own neighbour, as no contribution is to a pair of equal members. -/
theorem neighborId_ne_of_mem_similarityRows (t : PairThresholds K) (sqrt : K → K) (normSq : ℤ → K)
    {contributions : List (PairContribution K)}
    (hne : ∀ c ∈ contributions, c.leftId ≠ c.rightId) {row : SimilarityRow K}
    (hrow : row ∈ t.similarityRows sqrt normSq contributions) {n : Neighbor K}
    (hn : n ∈ row.neighbors) :
  n.neighborId ≠ row.id
  := by
  obtain ⟨group, hgroup, rfl⟩ := List.mem_map.mp hrow
  obtain ⟨best, hbest, rfl⟩ := List.mem_map.mp hn
  obtain ⟨directed, hdirected, rfl⟩ :=
    List.mem_map.mp (Ranked.mem_sortBy.mp (List.mem_of_mem_take hbest))
  rw [(Keyed.mem_groups.mp hgroup).2, List.mem_filter, decide_eq_true_eq] at hdirected
  obtain ⟨hjoined, hid⟩ := hdirected
  obtain ⟨pairGroup, hpairGroup, hkept⟩ := List.mem_flatMap.mp hjoined
  obtain ⟨c, hc, hpair⟩ := List.mem_map.mp (Keyed.mem_groups.mp hpairGroup).1
  have hne : pairGroup.1.left ≠ pairGroup.1.right := by
    rw [← hpair]
    exact hne c hc
  rw [joinedPairRows] at hkept
  split at hkept
  · cases hkept
  · rw [bestNeighbors]
    dsimp only
    rw [← hid]
    simp only [List.mem_cons, List.not_mem_nil, or_false] at hkept
    rcases hkept with rfl | rfl
    · exact hne.symm
    · exact hne

end PairThresholds

namespace PairReduction

open PairThresholds

/-! ### Shards -/

omit [LinearOrder K] [FloorRing K] in
theorem toNat_emod_lt (r : PairReduction K) (m : ℤ) :
  (m % r.shardCount).toNat < r.shardCount.toNat
  := by
  have hpos := r.shardCount_pos
  have hlt := Int.emod_lt_of_pos m hpos
  have hnonneg := Int.emod_nonneg m hpos.ne'
  omega

/-! ### One pair -/

/-- Reducing a pair writes its rows. -/
theorem writes_reducePair (r : PairReduction K) (sqrt : K → K) (normSq : List (ℤ × K))
    (contributions : List (PairContribution K)) :
  Writes (fun row => r.neighborShardId row.id) (r.keptPairRows sqrt normSq contributions)
    (r.reducePair sqrt normSq contributions)
  := by
  intro w entry n
  rw [reducePair]
  split
  · rename_i hrows
    rw [hrows]
    exact (List.append_nil _).symm
  · rw [Writer.content_count, Writer.content_foldl_append]

/-- Reducing a shard writes the rows of its pairs. -/
theorem writes_reducePairShard (r : PairReduction K) (sqrt : K → K) (normSq : List (ℤ × K)) :
  Writes (fun row => r.neighborShardId row.id)
    (fun contributions =>
      (pairCounts contributions).flatMap (r.keptPairRows sqrt normSq contributions))
    (r.reducePairShard sqrt normSq)
  := by
  intro w contributions n
  apply (r.writes_reducePair sqrt normSq contributions).foldl

omit [Field K] [LinearOrder K] [FloorRing K] in
/-- The pairs of a shard with the numbers of their contributions. -/
theorem pairCounts_eq (contributions : List (PairContribution K)) :
  pairCounts contributions
    = (Keyed.groups PairContribution.pair contributions).map fun g => (g.1, g.2.length)
  := Keyed.collect_count_eq_groups PairContribution.pair contributions

omit [LinearOrder K] [FloorRing K] in
/-- The sum of the weights of a pair. -/
theorem lookup_pairWeightSums (contributions : List (PairContribution K)) (pair : MemberPair) :
  ((pairWeightSums contributions).lookup pair).getD 0
    = ((contributions.filter (·.pair = pair)).map (·.weight)).sum
  := by
  rw [pairWeightSums, Keyed.lookup_collect_getD _ 0 (fun (sum : K) (c : PairContribution K) => sum + c.weight),
    List.sum_eq_foldl, List.foldl_map]

/-- The square root of a product of positive norms is positive, so no pair is skipped for its
denominator. -/
theorem keptPairRows_eq (r : PairReduction K) {sqrt : K → K} (hsqrt : ∀ x, 0 < x → 0 < sqrt x)
    [IsStrictOrderedRing K] {normSq : List (ℤ × K)} {contributions : List (PairContribution K)}
    (hnorm : ∀ c ∈ contributions, 0 < (normSq.lookup c.leftId).getD 0
      ∧ 0 < (normSq.lookup c.rightId).getD 0)
    {group : MemberPair × List (PairContribution K)}
    (hgroup : group ∈ Keyed.groups PairContribution.pair contributions) :
  r.keptPairRows sqrt normSq contributions (group.1, group.2.length)
    = r.joinedPairRows sqrt (fun id => (normSq.lookup id).getD 0) group
  := by
  obtain ⟨hpair, hcontributions⟩ := Keyed.mem_groups.mp hgroup
  obtain ⟨c, hc, hcpair⟩ := List.mem_map.mp hpair
  have hpos : ¬ sqrt ((normSq.lookup group.1.left).getD 0 * (normSq.lookup group.1.right).getD 0) ≤ 0 := by
    rw [← hcpair, not_le]
    apply hsqrt
    exact mul_pos (hnorm c hc).1 (hnorm c hc).2
  simp only [keptPairRows, joinedPairRows, pairScore, lookup_pairWeightSums, ← hcontributions,
    if_neg hpos]
  by_cases hcount : (group.2.length : ℤ) < r.minCooccurrence
  · rw [if_pos hcount, if_pos (Or.inl hcount)]
  · rw [if_neg hcount]
    simp only [hcount, false_or]
    rfl

/-- The rows written for a shard are those of the join of its contributions. -/
theorem flatMap_keptPairRows (r : PairReduction K) {sqrt : K → K}
    (hsqrt : ∀ x, 0 < x → 0 < sqrt x) [IsStrictOrderedRing K] {normSq : List (ℤ × K)}
    {contributions : List (PairContribution K)}
    (hnorm : ∀ c ∈ contributions, 0 < (normSq.lookup c.leftId).getD 0
      ∧ 0 < (normSq.lookup c.rightId).getD 0) :
  (pairCounts contributions).flatMap (r.keptPairRows sqrt normSq contributions)
    = r.joinedRows sqrt (fun id => (normSq.lookup id).getD 0) contributions
  := by
  rw [pairCounts_eq, List.flatMap_map, joinedRows]
  apply List.flatMap_congr
  intro group hgroup
  exact r.keptPairRows_eq hsqrt hnorm hgroup

/-! ### The neighbours of a member -/

/-- The heap of a member gives its best neighbours. -/
theorem outputRow_top (r : PairReduction K) (group : ℤ × List (NeighborRow K)) :
  outputRow (group.1, TopK.top r.topK neighborRank (group.2.map (·.neighbor)))
    = r.bestNeighbors group
  := by
  rw [outputRow, bestNeighbors_eq, TopK.sortBy_top r.topK_pos compares_neighborBefore]
  intro a _ b _ h
  exact neighborRank_injective h

/-- The output rows of a shard are the best neighbours of each of its members. -/
theorem topkRowsForNeighborShard_perm (r : PairReduction K) (rows : List (NeighborRow K)) :
  (r.topkRowsForNeighborShard rows).Perm
    ((Keyed.groups NeighborRow.id rows).map r.bestNeighbors)
  := by
  apply (Ranked.sortBy_perm _ _).trans
  rw [Keyed.collect_getD_eq_groups NeighborRow.id []
    (fun heap row => TopK.offer r.topK neighborRank heap row.neighbor), List.map_map]
  apply List.Perm.of_eq
  apply List.map_congr_left
  intro group _
  rw [← outputRow_top, TopK.top, List.foldl_map]
  rfl

/-! ### All shards -/

/-- Joining shard by shard gives the rows of the join. -/
theorem flatMap_joinedRows_perm (r : PairReduction K) (sqrt : K → K) (normSq : ℤ → K)
    (contributions : List (PairContribution K)) :
  ((List.range r.shardCount.toNat).flatMap fun n =>
      r.joinedRows sqrt normSq
        (contributions.filter fun c => r.pairShardId c.leftId c.rightId = n)).Perm
    (r.joinedRows sqrt normSq contributions)
  := by
  simp only [joinedRows]
  rw [← List.flatMap_assoc]
  apply List.Perm.flatMap_right
  apply Keyed.groups_shards_perm PairContribution.pair
    (fun pair => r.pairShardId pair.left pair.right)
  intro c _
  apply r.toNat_emod_lt

/-- The rows of the neighbour shards are those of the join of all contributions, each in the shard
of its member. -/
theorem files_reducePairShardsToNeighborShards (r : PairReduction K) {sqrt : K → K}
    (hsqrt : ∀ x, 0 < x → 0 < sqrt x) [IsStrictOrderedRing K] {normSq : List (ℤ × K)}
    {contributions : List (PairContribution K)}
    (hnorm : ∀ c ∈ contributions, 0 < (normSq.lookup c.leftId).getD 0
      ∧ 0 < (normSq.lookup c.rightId).getD 0)
    {pairShards : Writer (PairContribution K)}
    (hshards : ∀ n, pairShards.files n
      = contributions.filter fun c => r.pairShardId c.leftId c.rightId = n) :
  ∃ rows : List (NeighborRow K),
    rows.Perm (r.joinedRows sqrt (fun id => (normSq.lookup id).getD 0) contributions)
    ∧ ∀ n, (r.reducePairShardsToNeighborShards sqrt normSq pairShards).files n
      = rows.filter fun row => r.neighborShardId row.id = n
  := by
  use (List.range r.shardCount.toNat).flatMap fun n =>
    r.joinedRows sqrt (fun id => (normSq.lookup id).getD 0)
      (contributions.filter fun c => r.pairShardId c.leftId c.rightId = n)
  refine ⟨r.flatMap_joinedRows_perm sqrt _ contributions, ?_⟩
  intro n
  rw [reducePairShardsToNeighborShards,
    (r.writes_reducePairShard sqrt normSq).files_flush_existing rfl hshards]
  congr 1
  apply List.flatMap_congr
  intro s _
  apply r.flatMap_keptPairRows hsqrt
  intro c hc
  exact hnorm c (List.mem_of_mem_filter hc)

/-- The output of the two stages is the similarity rows of all contributions. -/
theorem reduceNeighborShardsToOutput_perm (r : PairReduction K) {sqrt : K → K}
    (hsqrt : ∀ x, 0 < x → 0 < sqrt x) [IsStrictOrderedRing K] {normSq : List (ℤ × K)}
    {contributions : List (PairContribution K)}
    (hnorm : ∀ c ∈ contributions, 0 < (normSq.lookup c.leftId).getD 0
      ∧ 0 < (normSq.lookup c.rightId).getD 0)
    {pairShards : Writer (PairContribution K)}
    (hshards : ∀ n, pairShards.files n
      = contributions.filter fun c => r.pairShardId c.leftId c.rightId = n) :
  (r.reduceNeighborShardsToOutput
      (r.reducePairShardsToNeighborShards sqrt normSq pairShards)).Perm
    (r.similarityRows sqrt (fun id => (normSq.lookup id).getD 0) contributions)
  := by
  obtain ⟨rows, hrows, hfiles⟩ := r.files_reducePairShardsToNeighborShards hsqrt hnorm hshards
  rw [reduceNeighborShardsToOutput, flatMap_existing _ _ r.topkRowsForNeighborShard rfl]
  have htop : ∀ n, (r.topkRowsForNeighborShard
        ((r.reducePairShardsToNeighborShards sqrt normSq pairShards).files n)).Perm
      ((Keyed.groups NeighborRow.id (rows.filter fun row => r.neighborShardId row.id = n)).map
        r.bestNeighbors) := by
    intro n
    rw [hfiles]
    apply r.topkRowsForNeighborShard_perm
  apply (List.Perm.flatMap_left _ (fun n _ => htop n)).trans
  rw [← List.map_flatMap]
  apply ((Keyed.groups_shards_perm NeighborRow.id r.neighborShardId rows
    (fun row _ => r.toNat_emod_lt row.id)).map _).trans
  apply Keyed.groups_map_perm hrows
  intro id l l' hl
  exact r.toPairThresholds.bestNeighbors_congr id hl

/-- The rounded score of a score up to one is the score rounded to eight decimals. -/
theorem roundedScore_eq [IsStrictOrderedRing K] {score : K} (h0 : 0 ≤ score) (h1 : score ≤ 1) :
  roundedScore score = Rounding.roundDecimals 8 score
  := Rounding.roundSignificant_roundDecimals (by norm_num) h0 h1

end PairReduction

end OfflineDataProcessing
