import ShootingStar.Offline.UserScores

/-!
# Fair samples

A sample of the users of an item takes the weights in turn, so it takes from each weight the first
users of its order, and from any two weights equally many up to one, unless one of them has no more.
Samples are nested and do not depend on the order of the users (`stratifiedSample_fair`).

An anchor user of an item that has enough users is in a pair of the item, whatever the cap on its
users: in the sample it pairs with another user of it, and outside it with the whole sample
(`anchorUsers_paired`).
-/

namespace OfflineDataProcessing

variable {K : Type*} [LinearOrder K]

/-! ### The weights in turn -/

/-- The users of a weight, in the order they are taken. -/
def weightBucket (ranked : List (RankedUser K)) (weight : K) : List (RankedUser K) :=
  Ranked.sortBy sampleBefore (ranked.filter (·.weight = weight))

/-- The weights of the users, the greatest first. -/
def bucketWeights (ranked : List (RankedUser K)) : List K :=
  Ranked.sortBy (fun v w => w < v) (ranked.map fun x => x.weight).eraseDups

/-- The rank by which the users of a weight are sorted. -/
def sampleKey (x : RankedUser K) : ℤ ×ₗ ℤᵒᵈ ×ₗ ℤ :=
  toLex (x.sampleRank, toLex (OrderDual.toDual x.timestamp, x.memberId))

omit [LinearOrder K] in
theorem compares_sampleBefore :
  Ranked.Compares (sampleBefore : RankedUser K → RankedUser K → Bool) sampleKey
  := by
  intro x y
  rw [sampleKey, sampleKey, Prod.Lex.toLex_lt_toLex, Prod.Lex.toLex_lt_toLex,
    OrderDual.toDual_lt_toDual, sampleBefore]
  by_cases hrank : x.sampleRank = y.sampleRank
  · by_cases htime : x.timestamp = y.timestamp
    · simp [hrank, htime]
    · have htime' : ¬ y.timestamp = x.timestamp := fun h => htime h.symm
      simp [hrank, htime]
  · simp [hrank]

theorem sortedBuckets_eq (ranked : List (RankedUser K)) :
  sortedBuckets ranked = (bucketWeights ranked).map (weightBucket ranked)
  := by
  have hgroups : Keyed.collect (fun x : RankedUser K => x.weight)
      (fun x (bucket : Option (List (RankedUser K))) => bucket.getD [] ++ [x]) ranked
      = Keyed.groups (fun x : RankedUser K => x.weight) ranked :=
    Keyed.collect_append_eq_groups _ ranked
  rw [sortedBuckets, hgroups, Keyed.map_fst_groups]
  apply List.map_congr_left
  intro weight hweight
  have hmem := List.mem_eraseDups.mp (Ranked.mem_sortBy.mp hweight)
  rw [Keyed.lookup_groups hmem, Option.getD_some, weightBucket]

theorem nodup_bucketWeights (ranked : List (RankedUser K)) :
  (bucketWeights ranked).Nodup
  := by
  rw [bucketWeights, (Ranked.sortBy_perm _ _).nodup_iff]
  apply Keyed.nodup_eraseDups

theorem weight_of_mem_weightBucket {ranked : List (RankedUser K)} {weight : K} {x : RankedUser K}
    (h : x ∈ weightBucket ranked weight) :
  x.weight = weight
  := of_decide_eq_true (List.mem_filter.mp (Ranked.mem_sortBy.mp h)).2

/-- A weight that no user has. -/
theorem filter_weight_eq_nil {ranked : List (RankedUser K)} {weight : K}
    (h : weight ∉ bucketWeights ranked) :
  ranked.filter (·.weight = weight) = []
  := by
  apply List.filter_eq_nil_iff.mpr
  intro x hx
  rw [decide_eq_true_iff]
  rintro rfl
  apply h
  rw [bucketWeights, Ranked.mem_sortBy, List.mem_eraseDups]
  exact List.mem_map_of_mem hx

/-- The users of each weight in a beginning of the sampling order. -/
theorem exists_filter_take_samplingOrder (ranked : List (RankedUser K)) (n : ℕ) :
  ∃ r, ∀ weight,
    ((samplingOrder ranked).take n).filter (·.weight = weight) = (weightBucket ranked weight).take r
      ∨ ((samplingOrder ranked).take n).filter (·.weight = weight)
        = (weightBucket ranked weight).take (r + 1)
  := by
  obtain ⟨r, hr⟩ := @RoundRobin.exists_filter_take_interleave _ _ _
    (fun x : RankedUser K => x.weight) _ _ (nodup_bucketWeights ranked)
    (fun _ _ _ hx => weight_of_mem_weightBucket hx) n
  use r
  intro weight
  by_cases hweight : weight ∈ bucketWeights ranked
  · have h := hr weight hweight
    rwa [← sortedBuckets_eq] at h
  · left
    have hnil := filter_weight_eq_nil hweight
    have hbucket : weightBucket ranked weight = [] := by rw [weightBucket, hnil, Ranked.sortBy_nil]
    have hperm := (samplingOrder_perm ranked).filter (·.weight = weight)
    rw [hnil, List.perm_nil] at hperm
    rw [hbucket, List.take_nil]
    apply List.sublist_nil.mp
    rw [← hperm]
    exact (List.take_sublist _ _).filter _

/-- The sampling order of distinct users does not depend on their order. -/
theorem samplingOrder_eq_of_perm {ranked ranked' : List (RankedUser K)}
    (h : (ranked.map (·.memberId)).Nodup) (hperm : ranked'.Perm ranked) :
  samplingOrder ranked' = samplingOrder ranked
  := by
  have hweights : bucketWeights ranked' = bucketWeights ranked := by
    have hcompares : Ranked.Compares (fun v w : K => decide (w < v)) OrderDual.toDual := by
      intro v w
      rw [decide_eq_true_iff, OrderDual.toDual_lt_toDual]
    apply Ranked.sortBy_eq_of_perm_of_injOn hcompares
    · intro v _ w _ hvw
      exact hvw
    · exact Keyed.eraseDups_perm (hperm.map _)
  have hbucket : weightBucket ranked' = weightBucket ranked := by
    funext weight
    apply Ranked.sortBy_eq_of_perm_of_injOn compares_sampleBefore
    · intro x hx y hy hxy
      have hid : x.memberId = y.memberId := by
        have hinner := congrArg (fun key => (ofLex (ofLex key).2).2) hxy
        exact hinner
      exact List.inj_on_of_nodup_map h (List.mem_of_mem_filter hx) (List.mem_of_mem_filter hy) hid
    · exact hperm.filter _
  rw [samplingOrder, samplingOrder, sortedBuckets_eq, sortedBuckets_eq, hweights, hbucket]

/-! ### Samples -/

/-- The loop of a sample ends, and the sample is what it has selected. -/
theorem cursorLoop_sortedBuckets {ranked : List (RankedUser K)} {sampleSize : ℤ}
    (hpos : 0 < sampleSize) (hlt : sampleSize < ranked.length) {fuel : ℕ}
    (hfuel : RoundRobin.rounds (sortedBuckets ranked) < fuel) :
  RoundRobin.cursorLoop (fun selected x => selected ++ [x])
      (fun selected => decide (sampleSize.toNat ≤ selected.length)) (sortedBuckets ranked)
      fuel ((sortedBuckets ranked).map fun _ => 0) []
    = some (stratifiedSampleItemInteractions ranked sampleSize)
  := by
  rw [RoundRobin.cursorLoop_eq _ _ _ _ _ hfuel, stratifiedSample_eq hpos hlt,
    RoundRobin.visitUntil_take _ _ _ (Nat.zero_le _)]
  rfl

theorem length_stratifiedSample {sampleSize : ℤ} (hpos : 0 < sampleSize)
    (ranked : List (RankedUser K)) :
  (stratifiedSampleItemInteractions ranked sampleSize).length
    = min sampleSize.toNat ranked.length
  := by
  by_cases hlt : sampleSize < ranked.length
  · rw [stratifiedSample_eq hpos hlt, List.length_take, (samplingOrder_perm ranked).length_eq]
  · rw [stratifiedSampleItemInteractions, if_pos (Or.inr (not_lt.mp hlt))]
    omega

/-- The samples of distinct users do not depend on their order. -/
theorem stratifiedSample_perm {ranked ranked' : List (RankedUser K)}
    (h : (ranked.map (·.memberId)).Nodup) (hperm : ranked'.Perm ranked) {sampleSize : ℤ}
    (hpos : 0 < sampleSize) :
  (stratifiedSampleItemInteractions ranked' sampleSize).Perm
    (stratifiedSampleItemInteractions ranked sampleSize)
  := by
  have hlength := hperm.length_eq
  by_cases hlt : sampleSize < ranked.length
  · have hlt' : sampleSize < ranked'.length := by omega
    rw [stratifiedSample_eq hpos hlt, stratifiedSample_eq hpos hlt',
      samplingOrder_eq_of_perm h hperm]
  · rw [stratifiedSampleItemInteractions, stratifiedSampleItemInteractions,
      if_pos (Or.inr (not_lt.mp hlt)), if_pos (by omega)]
    exact hperm

/-- A larger sample holds a smaller one. -/
theorem stratifiedSample_subset {sampleSize sampleSize' : ℤ} (hpos : 0 < sampleSize)
    (hle : sampleSize ≤ sampleSize') (ranked : List (RankedUser K)) :
  stratifiedSampleItemInteractions ranked sampleSize
    ⊆ stratifiedSampleItemInteractions ranked sampleSize'
  := by
  intro x hx
  apply (UserSimilarityBuilder.Thresholds.mem_stratifiedSample (hpos.trans_le hle)).mpr
  have htake := (UserSimilarityBuilder.Thresholds.mem_stratifiedSample hpos).mp hx
  exact List.take_subset_take_left _ (Int.toNat_le_toNat hle) htake

/-- What a sample takes from the weights. -/
theorem exists_filter_stratifiedSample {ranked : List (RankedUser K)} {sampleSize : ℤ}
    (hpos : 0 < sampleSize) (hlt : sampleSize < ranked.length) :
  ∃ r, ∀ weight,
    (stratifiedSampleItemInteractions ranked sampleSize).filter (·.weight = weight)
        = (weightBucket ranked weight).take r
      ∨ (stratifiedSampleItemInteractions ranked sampleSize).filter (·.weight = weight)
        = (weightBucket ranked weight).take (r + 1)
  := by
  rw [stratifiedSample_eq hpos hlt]
  apply exists_filter_take_samplingOrder

/-- From two weights a sample takes equally many users up to one, unless one of them has no more. -/
theorem length_filter_stratifiedSample {ranked : List (RankedUser K)} {sampleSize : ℤ}
    (hpos : 0 < sampleSize) (hlt : sampleSize < ranked.length) (v w : K) :
  ((stratifiedSampleItemInteractions ranked sampleSize).filter (·.weight = w)).length
      ≤ ((stratifiedSampleItemInteractions ranked sampleSize).filter (·.weight = v)).length + 1
    ∨ ((stratifiedSampleItemInteractions ranked sampleSize).filter (·.weight = v)).length
      = (ranked.filter (·.weight = v)).length
  := by
  obtain ⟨r, hr⟩ := exists_filter_stratifiedSample hpos hlt
  have hlength : ∀ weight,
      ((stratifiedSampleItemInteractions ranked sampleSize).filter (·.weight = weight)).length
          = min r (ranked.filter (·.weight = weight)).length
        ∨ ((stratifiedSampleItemInteractions ranked sampleSize).filter (·.weight = weight)).length
          = min (r + 1) (ranked.filter (·.weight = weight)).length := by
    intro weight
    rw [← Ranked.length_sortBy sampleBefore (ranked.filter (·.weight = weight)),
      ← List.length_take, ← List.length_take]
    exact (hr weight).imp (congrArg List.length) (congrArg List.length)
  have hv := hlength v
  have hw := hlength w
  omega

/-- A sample takes the first users of each weight. -/
theorem filter_stratifiedSample_begins {ranked : List (RankedUser K)} {sampleSize : ℤ}
    (hpos : 0 < sampleSize) (hlt : sampleSize < ranked.length) (v : K) :
  (stratifiedSampleItemInteractions ranked sampleSize).filter (·.weight = v)
    <+: weightBucket ranked v
  := by
  obtain ⟨r, hr⟩ := exists_filter_stratifiedSample hpos hlt
  rcases hr v with h | h
  · rw [h]
    apply List.take_prefix
  · rw [h]
    apply List.take_prefix

/-- The sampling of distinct users ends, and selects as many of them as it should, each once.  A
sample of some of the users takes the first users of each weight, and from two weights equally many
up to one unless one of them has no more.  Samples do not depend on the order of the users, and
larger samples hold smaller ones. -/
theorem stratifiedSample_fair {ranked : List (RankedUser K)}
    (hdistinct : (ranked.map (·.memberId)).Nodup) {sampleSize : ℤ} (hpos : 0 < sampleSize) :
  let sample := stratifiedSampleItemInteractions ranked sampleSize
  let taken := fun weight : K => sample.filter (·.weight = weight)
  (sampleSize < ranked.length → ∀ fuel > RoundRobin.rounds (sortedBuckets ranked),
      RoundRobin.cursorLoop (fun selected x => selected ++ [x])
          (fun selected => decide (sampleSize.toNat ≤ selected.length)) (sortedBuckets ranked)
          fuel ((sortedBuckets ranked).map fun _ => 0) []
        = some sample)
    ∧ (sample.length = min sampleSize.toNat ranked.length ∧ sample.Nodup ∧ sample ⊆ ranked)
    ∧ (sampleSize < ranked.length → ∀ v w,
        (taken w).length ≤ (taken v).length + 1
          ∨ (taken v).length = (ranked.filter (·.weight = v)).length)
    ∧ (sampleSize < ranked.length → ∀ v,
        taken v = (weightBucket ranked v).take (taken v).length)
    ∧ (∀ ranked' : List (RankedUser K), ranked'.Perm ranked →
        (stratifiedSampleItemInteractions ranked' sampleSize).Perm sample)
    ∧ ∀ sampleSize' ≥ sampleSize, sample ⊆ stratifiedSampleItemInteractions ranked sampleSize'
  := by
  intro sample taken
  have hsub := stratifiedSample_subperm ranked sampleSize
  refine ⟨?_, ⟨length_stratifiedSample hpos ranked, ?_, hsub.subset⟩, ?_, ?_, ?_, ?_⟩
  · intro hlt fuel hfuel
    exact cursorLoop_sortedBuckets hpos hlt hfuel
  · exact List.Nodup.of_map _ (Keyed.nodup_map_of_subperm hsub hdistinct)
  · intro hlt v w
    exact length_filter_stratifiedSample hpos hlt v w
  · intro hlt v
    exact List.prefix_iff_eq_take.mp (filter_stratifiedSample_begins hpos hlt v)
  · intro ranked' hperm
    exact stratifiedSample_perm hdistinct hperm hpos
  · intro sampleSize' hle
    exact stratifiedSample_subset hpos hle ranked

/-- Three users of one weight and one of another, of whom three are sampled: the sample of two is
in it. -/
theorem stratifiedSample_three_of_four :
  let ranked : List (RankedUser ℚ) := [
    { memberId := 1, weight := 1, timestamp := 5, sampleRank := 40 },
    { memberId := 2, weight := 1, timestamp := 6, sampleRank := 30 },
    { memberId := 3, weight := 1, timestamp := 7, sampleRank := 30 },
    { memberId := 4, weight := 1 / 2, timestamp := 8, sampleRank := 90 }]
  (stratifiedSampleItemInteractions ranked 3).map (·.memberId) = [3, 4, 2]
    ∧ stratifiedSampleItemInteractions ranked 2 ⊆ stratifiedSampleItemInteractions ranked 3
  := by
  constructor
  · decide +kernel
  · exact (stratifiedSample_fair (by decide) (by decide)).2.2.2.2.2 3 (by decide)

/-! ### Anchor users are paired -/

namespace UserSimilarityBuilder.Thresholds

open ShardWriter

omit [LinearOrder K] in
/-- Two users of the sample form a pair, and so do an extra and a user of its sample. -/
theorem unordered_mem_map_pair [Field K] {p : Participants K} (hsampled : 2 ≤ p.sampled.length)
    {m m' : WeightedMember K} (hne : m.memberId ≠ m'.memberId)
    (h : (m ∈ p.sampled ∧ m' ∈ p.sampled) ∨ (m ∈ p.coverageExtra ∧ m' ∈ p.coverageSample)) :
  unordered (m, m') ∈ (participantContributions p).map PairContribution.pair
  := by
  rw [map_pair_participantContributions hsampled, List.mem_append]
  rcases h with ⟨hm, hm'⟩ | ⟨hm, hm'⟩
  · left
    rw [List.mem_map]
    rcases lt_or_gt_of_ne hne with hlt | hgt
    · use (m, m'), Combinations.mem_orderedPairs.mpr ⟨hm, hm', hlt⟩
      rw [unordered, if_pos hlt]
    · use (m', m), Combinations.mem_orderedPairs.mpr ⟨hm', hm, hgt⟩
      rw [unordered, if_neg hgt.asymm]
  · right
    apply List.mem_map_of_mem
    apply List.mem_filter.mpr
    exact ⟨List.pair_mem_product.mpr ⟨hm, hm'⟩, decide_eq_true hne⟩

variable [Field K]

/-- The sample the extras pair with holds the sample proper. -/
theorem sampledRanked_subset (t : Thresholds K) (ranked : List (RankedUser K))
    (coverageAnchorUsers : List ℤ) :
  t.sampledRanked ranked ⊆ t.coverageSampleRanked ranked coverageAnchorUsers
  := by
  rw [coverageSampleRanked]
  split
  · rename_i h
    obtain ⟨-, hcap, hlength⟩ := h
    by_cases hlt : t.maxItemUsers < ranked.length
    · rw [sampledRanked, if_pos ⟨hcap, hlt⟩] at hlength ⊢
      rw [length_stratifiedSample hcap] at hlength
      apply stratifiedSample_subset hcap
      omega
    · rw [sampledRanked, if_neg (fun h => hlt h.2)] at hlength ⊢
      rw [stratifiedSampleItemInteractions, if_pos (Or.inr hlength.le)]
      apply List.Subset.refl
  · apply List.Subset.refl

/-- Every item has two users in its sample when it has two users and the cap allows it, so each of
its users has another one in the sample. -/
theorem exists_other_sampled (t : Thresholds K) (hcap : 2 ≤ t.maxItemUsers) {movieId : ℤ}
    {interactions : List (Interaction K)}
    (htwo : 2 ≤ (rankedUsers movieId interactions).length) (id : ℤ) :
  ∃ y ∈ t.sampledRanked (rankedUsers movieId interactions), y.memberId ≠ id
  := by
  have hlength : 2 ≤ (t.sampledRanked (rankedUsers movieId interactions)).length := by
    by_contra hlt
    have := t.length_lt_of_sampledRanked hcap (not_le.mp hlt)
    omega
  have hnodup := Keyed.nodup_map_of_subperm (t.sampledRanked_subperm _)
    (nodup_map_memberId_rankedUsers movieId interactions)
  obtain ⟨i, hi, j, hj, hij⟩ := (two_le_length_iff hnodup).mp (by rwa [List.length_map])
  by_cases h : i = id
  · obtain ⟨y, hy, rfl⟩ := List.mem_map.mp hj
    exact ⟨y, hy, fun heq => hij (h.trans heq.symm)⟩
  · obtain ⟨y, hy, rfl⟩ := List.mem_map.mp hi
    exact ⟨y, hy, h⟩

/-- The participants of an item with enough users. -/
theorem selectItemPairParticipants_eq (t : Thresholds K) {movieId : ℤ}
    {interactions : List (Interaction K)}
    (h : t.minItemUsers ≤ (rankedUsers movieId interactions).length)
    (coverageAnchorUsers : List ℤ) :
  t.selectItemPairParticipants movieId interactions coverageAnchorUsers
    = { sampled := members (t.sampledRanked (rankedUsers movieId interactions))
        coverageExtra :=
          members (t.coverageExtraRanked (rankedUsers movieId interactions) coverageAnchorUsers)
        coverageSample :=
          members (t.coverageSampleRanked (rankedUsers movieId interactions) coverageAnchorUsers) }
  := by
  rw [selectItemPairParticipants, if_neg (not_lt.mpr h)]

/-- The sample of an item is in the sample its extras pair with. -/
theorem sampled_subset_coverageSample (t : Thresholds K) (movieId : ℤ)
    (interactions : List (Interaction K)) (coverageAnchorUsers : List ℤ) :
  (t.selectItemPairParticipants movieId interactions coverageAnchorUsers).sampled
    ⊆ (t.selectItemPairParticipants movieId interactions coverageAnchorUsers).coverageSample
  := by
  by_cases h : t.minItemUsers ≤ (rankedUsers movieId interactions).length
  · rw [t.selectItemPairParticipants_eq h]
    intro m hm
    obtain ⟨x, hx, rfl⟩ := mem_members.mp hm
    exact mem_members.mpr ⟨x, t.sampledRanked_subset _ _ hx, rfl⟩
  · rw [selectItemPairParticipants, if_pos (not_le.mp h)]
    apply List.Subset.refl

/-- An anchor user of an item with enough users is in one of its pairs. -/
theorem exists_mem_itemPairs (t : Thresholds K) (hcap : 2 ≤ t.maxItemUsers) {movieId : ℤ}
    {interactions : List (Interaction K)}
    (htwo : 2 ≤ (rankedUsers movieId interactions).length)
    (hmin : t.minItemUsers ≤ (rankedUsers movieId interactions).length)
    {coverageAnchorUsers : List ℤ} {id : ℤ} (hanchor : id ∈ coverageAnchorUsers)
    (hid : id ∈ interactions.map Interaction.memberId) :
  ∃ c ∈ t.itemPairs movieId interactions coverageAnchorUsers,
    (c.leftId = id ∧ c.rightId ≠ id) ∨ (c.rightId = id ∧ c.leftId ≠ id)
  := by
  have hnodup := nodup_map_memberId_rankedUsers movieId interactions
  obtain ⟨x, hx, rfl⟩ : ∃ x ∈ rankedUsers movieId interactions, x.memberId = id := by
    rwa [← List.mem_eraseDups, ← map_memberId_rankedUsers movieId, List.mem_map] at hid
  obtain ⟨y, hy, hne⟩ := t.exists_other_sampled hcap htwo x.memberId
  have hsampled : 2 ≤ (t.selectItemPairParticipants movieId interactions
      coverageAnchorUsers).sampled.length := by
    rw [t.selectItemPairParticipants_eq hmin, length_members]
    by_contra hlt
    have := t.length_lt_of_sampledRanked hcap (not_le.mp hlt)
    omega
  have hpair : unordered (x.member, y.member)
      ∈ (t.itemPairs movieId interactions coverageAnchorUsers).map PairContribution.pair := by
    rw [itemPairs_eq]
    apply unordered_mem_map_pair hsampled hne.symm
    rw [t.selectItemPairParticipants_eq hmin]
    by_cases hxs : x ∈ t.sampledRanked (rankedUsers movieId interactions)
    · left
      exact ⟨mem_members.mpr ⟨x, hxs, rfl⟩, mem_members.mpr ⟨y, hy, rfl⟩⟩
    · right
      constructor
      · apply mem_members.mpr ⟨x, _, rfl⟩
        rw [coverageExtraRanked, List.mem_filter, decide_eq_true_eq]
        refine ⟨hx, hanchor, ?_⟩
        rwa [memberId_mem_map_iff hnodup (t.sampledRanked_subperm _).subset hx]
      · exact mem_members.mpr ⟨y, t.sampledRanked_subset _ _ hy, rfl⟩
  obtain ⟨c, hc, hcpair⟩ := List.mem_map.mp hpair
  use c, hc
  rw [PairContribution.pair, unordered] at hcpair
  split at hcpair
  · left
    obtain ⟨hleft, hright⟩ := MemberPair.mk.inj hcpair
    exact ⟨hleft, hright ▸ hne⟩
  · right
    obtain ⟨hleft, hright⟩ := MemberPair.mk.inj hcpair
    exact ⟨hright, hleft ▸ hne⟩

end UserSimilarityBuilder.Thresholds

namespace UserSimilarityBuilder

open ShardWriter

variable [Field K]

omit [Field K] in
theorem length_rankedUsers (movieId : ℤ) (interactions : List (Interaction K)) :
  (rankedUsers movieId interactions).length
    = (interactions.map Interaction.memberId).toFinset.card
  := by
  rw [Keyed.card_toFinset, ← map_memberId_rankedUsers movieId, List.length_map]

/-- The rows written for an item are those of its pairs.  When the item has enough users under a
cap of at least two, each anchor user of the item is in one of the pairs with another user.  The
sample is in the sample that the extras pair with, and the smaller user is left in every pair. -/
theorem anchorUsers_paired (b : UserSimilarityBuilder K) (anchorUsersByItem : List (ℤ × List ℤ))
    (item : ℤ × List (PositiveRating K)) :
  let coverageAnchorUsers := anchorUsers anchorUsersByItem item.1
  let interactions := item.2.map userInteraction
  let pairs := b.itemPairs item.1 interactions coverageAnchorUsers
  let participants := b.selectItemPairParticipants item.1 interactions coverageAnchorUsers
  (∀ (w : Writer (PairContribution K)) (n : ℕ),
      (b.reduceItem anchorUsersByItem w item).content n
        = w.content n ++ pairs.filter fun c => b.pairShardId c.leftId c.rightId = n)
    ∧ (2 ≤ b.maxItemUsers →
        max 2 b.minItemUsers ≤ (item.2.map PositiveRating.userId).toFinset.card →
        ∀ id ∈ coverageAnchorUsers, id ∈ item.2.map PositiveRating.userId →
          ∃ c ∈ pairs, (c.leftId = id ∧ c.rightId ≠ id) ∨ (c.rightId = id ∧ c.leftId ≠ id))
    ∧ participants.sampled ⊆ participants.coverageSample
    ∧ ∀ c ∈ pairs, c.leftId < c.rightId
  := by
  intro coverageAnchorUsers interactions pairs participants
  refine ⟨?_, ?_, ?_, ?_⟩
  · intro w n
    exact b.writes_reduceItem anchorUsersByItem w item n
  · intro hcap husers id hanchor hid
    have hids : interactions.map Interaction.memberId = item.2.map PositiveRating.userId := by
      rw [List.map_map]
      rfl
    have hlength := length_rankedUsers item.1 interactions
    rw [hids] at hlength
    apply b.exists_mem_itemPairs hcap _ _ hanchor (by rwa [hids])
    · omega
    · omega
  · apply b.sampled_subset_coverageSample
  · intro c hc
    rw [show pairs = _ from Thresholds.itemPairs_eq _ _ _ _] at hc
    obtain ⟨x, -, y, -, hlt, rfl⟩ := Thresholds.exists_of_mem_itemContributions hc
    exact hlt

/-- Under a cap of two, an anchor user outside the sample is in a pair. -/
theorem anchorUsers_paired_four_users :
  let b : UserSimilarityBuilder ℚ := {
    minUserItems := 1
    maxItemUsers := 2
    coverageAnchorItemsPerUser := 1
    outputFormat_mem := by decide
    topK_pos := by decide
    minCooccurrence_pos := by decide
    shardCount_pos := by decide
    shardBufferRows_pos := by decide
    minUserItems_pos := by decide
    minItemUsers_pos := by decide
    coverageAnchorItemsPerUser_nonneg := by decide
    coveragePairSampleSize_nonneg := by decide
    userStatsLogEvery_pos := by decide
    itemMappingLogEvery_pos := by decide
    shardLogDivisor_pos := by decide }
  let ratings : List (PositiveRating ℚ) := [⟨1, 10, 1, 1⟩, ⟨2, 10, 1, 2⟩, ⟨3, 10, 1, 3⟩, ⟨4, 10, 1, 9⟩]
  4 ∉ (b.selectItemPairParticipants 10 (ratings.map userInteraction) [4]).sampled.map
      (·.memberId)
    ∧ ∃ c ∈ b.itemPairs 10 (ratings.map userInteraction) [4],
        (c.leftId = 4 ∧ c.rightId ≠ 4) ∨ (c.rightId = 4 ∧ c.leftId ≠ 4)
  := by
  intro b ratings
  constructor
  · decide +kernel
  · exact (b.anchorUsers_paired [(10, [4])] (10, ratings)).2.1 (by decide) (by decide) 4 (by decide)
      (by decide)

end UserSimilarityBuilder

end OfflineDataProcessing
