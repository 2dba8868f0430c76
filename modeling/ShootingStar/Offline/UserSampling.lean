import Mathlib.Data.Int.Bitwise
import ShootingStar.Lib.RoundRobin
import ShootingStar.Offline.Interactions
import ShootingStar.Offline.Ratings

/-!
# Sampling the users of an item

An item with too many users pairs only a sample of them.  The sample is spread evenly over the
rating weights: the users are put in an order that takes the weights in turn, and a sample is a
beginning of this order (`stratifiedSample_eq`).  Users that have the item as a coverage anchor
and are not in the sample pair with a sample of their own.  The contributions of an item are those
of the pairs so formed (`itemPairs_eq`).
-/

namespace OfflineDataProcessing

variable {K : Type*} [LinearOrder K]

/-! ### The sampling order -/

/-- An interaction of an item with a user, and the rank of the user for the item. -/
structure RankedUser (K : Type*) extends Interaction K where
  sampleRank : ℤ
  deriving DecidableEq, Repr

/-- A mixed number for an item and a user. -/
def stableSampleRank (movieId userId : ℤ) : ℤ :=
  let value := Int.xor (movieId * 1000003) (userId * 9176)
  let value := Int.xor value (value >>> 16)
  let value := value * 0x7FEB352D
  let value := Int.xor value (value >>> 15)
  let value := value * 0x846CA68B
  let value := Int.xor value (value >>> 16)
  value % 0x100000000

/-- The users of one weight are taken by rank, of one rank the latest first. -/
def sampleBefore (x y : RankedUser K) : Bool :=
  if x.sampleRank ≠ y.sampleRank then x.sampleRank < y.sampleRank
  else if x.timestamp ≠ y.timestamp then y.timestamp < x.timestamp
  else x.memberId < y.memberId

/-- The users of each weight, in the order they are taken, the greatest weight first. -/
def sortedBuckets (ranked : List (RankedUser K)) : List (List (RankedUser K)) :=
  let buckets := Keyed.collect (fun x : RankedUser K => x.weight)
    (fun x bucket => bucket.getD [] ++ [x]) ranked
  let bucketKeys := Ranked.sortBy (fun v w : K => w < v) (buckets.map Prod.fst)
  bucketKeys.map fun weight => Ranked.sortBy sampleBefore ((buckets.lookup weight).getD [])

/-- A sample that takes the weights in turn.  The loop makes at most one round more than the
fullest bucket has users. -/
def stratifiedSampleItemInteractions (ranked : List (RankedUser K)) (sampleSize : ℤ) :
    List (RankedUser K) :=
  if sampleSize ≤ 0 ∨ ranked.length ≤ sampleSize then ranked
  else
    let buckets := sortedBuckets ranked
    (RoundRobin.cursorLoop (fun selected x => selected ++ [x])
      (fun selected => sampleSize.toNat ≤ selected.length) buckets
      (RoundRobin.rounds buckets + 1) (buckets.map fun _ => 0) []).getD []

/-- The users in the order in which they are sampled. -/
def samplingOrder (ranked : List (RankedUser K)) : List (RankedUser K) :=
  RoundRobin.interleave (sortedBuckets ranked)

/-- A sample is a beginning of the sampling order. -/
theorem stratifiedSample_eq {ranked : List (RankedUser K)} {sampleSize : ℤ}
    (hpos : 0 < sampleSize) (hlt : sampleSize < ranked.length) :
  stratifiedSampleItemInteractions ranked sampleSize
    = (samplingOrder ranked).take sampleSize.toNat
  := by
  have hif : ¬ (sampleSize ≤ 0 ∨ ranked.length ≤ sampleSize) := by omega
  rw [stratifiedSampleItemInteractions, if_neg hif]
  dsimp only
  rw [RoundRobin.cursorLoop_eq _ _ _ _ _ (Nat.lt_succ_self _), Option.getD_some,
    RoundRobin.visitUntil_take _ _ _ (Nat.zero_le _)]
  rfl

/-- The buckets hold the users. -/
theorem flatten_sortedBuckets_perm (ranked : List (RankedUser K)) :
  (sortedBuckets ranked).flatten.Perm ranked
  := by
  have hgroups : Keyed.collect (fun x : RankedUser K => x.weight)
      (fun x (bucket : Option (List (RankedUser K))) => bucket.getD [] ++ [x]) ranked
      = Keyed.groups (fun x : RankedUser K => x.weight) ranked :=
    Keyed.collect_append_eq_groups _ ranked
  rw [sortedBuckets, hgroups]
  rw [← List.flatMap_def]
  apply ((Ranked.sortBy_perm _ _).flatMap_right _).trans
  rw [Keyed.map_fst_groups]
  have hbucket : ∀ weight ∈ (ranked.map fun x => x.weight).eraseDups,
      (Ranked.sortBy sampleBefore
        (((Keyed.groups (fun x : RankedUser K => x.weight) ranked).lookup weight).getD [])).Perm
      (ranked.filter (·.weight = weight)) := by
    intro weight hweight
    rw [Keyed.lookup_groups (List.mem_eraseDups.mp hweight), Option.getD_some]
    exact Ranked.sortBy_perm _ _
  apply (List.Perm.flatMap_left _ hbucket).trans
  have hgroup := Keyed.flatMap_groups_perm (fun x : RankedUser K => x.weight) ranked
  rwa [Keyed.groups, List.flatMap_map] at hgroup

/-- The sampling order is an order of all the users. -/
theorem samplingOrder_perm (ranked : List (RankedUser K)) :
  (samplingOrder ranked).Perm ranked
  := (RoundRobin.interleave_perm_flatten _).trans (flatten_sortedBuckets_perm ranked)

/-! ### The participants of an item -/

namespace UserSimilarityBuilder

/-- The options that decide the result. -/
structure Thresholds (K : Type*) [Field K] extends RatingOptions K, PairThresholds K where
  minUserItems : ℤ := 5
  minItemUsers : ℤ := 2
  maxItemUsers : ℤ := 30
  coverageAnchorItemsPerUser : ℤ := 0
  coveragePairSampleSize : ℤ := 0
  minCooccurrence := 2
  topK := 10

end UserSimilarityBuilder

/-- The users whose pairs an item contributes to: the sample, which is fully paired, the coverage
extras, and the sample they pair with. -/
structure Participants (K : Type*) where
  sampled : List (WeightedMember K) := []
  coverageExtra : List (WeightedMember K) := []
  coverageSample : List (WeightedMember K) := []
  deriving DecidableEq, Repr

/-- The users of an item, one interaction each, with their ranks. -/
def rankedUsers (movieId : ℤ) (interactions : List (Interaction K)) : List (RankedUser K) :=
  (dedupe interactions).map fun x =>
    { toInteraction := x
      sampleRank := stableSampleRank movieId x.memberId }

namespace UserSimilarityBuilder.Thresholds

variable [Field K]

/-- The sample of the users of an item. -/
def sampledRanked (t : Thresholds K) (ranked : List (RankedUser K)) : List (RankedUser K) :=
  if 0 < t.maxItemUsers ∧ t.maxItemUsers < ranked.length then
    stratifiedSampleItemInteractions ranked t.maxItemUsers
  else ranked

/-- The users outside the sample that have the item as an anchor. -/
def coverageExtraRanked (t : Thresholds K) (ranked : List (RankedUser K))
    (coverageAnchorUsers : List ℤ) : List (RankedUser K) :=
  let sampledIds := (t.sampledRanked ranked).map (·.memberId)
  ranked.filter fun x => x.memberId ∈ coverageAnchorUsers ∧ x.memberId ∉ sampledIds

/-- The sample the extras pair with. -/
def coverageSampleRanked (t : Thresholds K) (ranked : List (RankedUser K))
    (coverageAnchorUsers : List ℤ) : List (RankedUser K) :=
  let sampledRanked := t.sampledRanked ranked
  if t.coverageExtraRanked ranked coverageAnchorUsers ≠ [] ∧ 0 < t.maxItemUsers
      ∧ sampledRanked.length < t.coveragePairSampleSize then
    stratifiedSampleItemInteractions ranked t.coveragePairSampleSize
  else sampledRanked

/-- The users as they take part in pairs, by identifier. -/
def members (ranked : List (RankedUser K)) : List (WeightedMember K) :=
  sortedMembers (ranked.map fun x => x.member)

/-- The users that take part in the pairs of an item, none when there are too few. -/
def selectItemPairParticipants (t : Thresholds K) (movieId : ℤ)
    (interactions : List (Interaction K)) (coverageAnchorUsers : List ℤ) : Participants K :=
  let ranked := rankedUsers movieId interactions
  if ranked.length < t.minItemUsers then {}
  else
    { sampled := members (t.sampledRanked ranked)
      coverageExtra := members (t.coverageExtraRanked ranked coverageAnchorUsers)
      coverageSample := members (t.coverageSampleRanked ranked coverageAnchorUsers) }

/-! ### The contributions of an item -/

/-- The contribution to the pair of two users, none when they are equal. -/
def pairContribution (left right : WeightedMember K) : Option (PairContribution K) :=
  if left.memberId = right.memberId then none
  else if right.memberId < left.memberId then some (contribution right left)
  else some (contribution left right)

/-- The contributions of the sample, in order. -/
def sampledPairs (participants : Participants K) : List (PairContribution K) :=
  (Combinations.combinations participants.sampled).filterMap fun pair =>
    pairContribution pair.1 pair.2

/-- The contributions of the extras, in order. -/
def coveragePairs (participants : Participants K) : List (PairContribution K) :=
  participants.coverageExtra.flatMap fun left =>
    participants.coverageSample.filterMap fun right => pairContribution left right

/-- The contributions of an item with these participants, in order. -/
def participantPairs (participants : Participants K) : List (PairContribution K) :=
  if participants.sampled.length < 2 then []
  else sampledPairs participants ++ coveragePairs participants

/-- The contributions of an item, in the order they are written. -/
def itemPairs (t : Thresholds K) (movieId : ℤ) (interactions : List (Interaction K))
    (coverageAnchorUsers : List ℤ) : List (PairContribution K) :=
  participantPairs (t.selectItemPairParticipants movieId interactions coverageAnchorUsers)

/-- The pairs that the participants form: the pairs of the sample, and each extra with each other
user of its sample. -/
def participantContributions (participants : Participants K) : List (PairContribution K) :=
  if participants.sampled.length < 2 then []
  else
    (Combinations.orderedPairs WeightedMember.memberId participants.sampled).map
        (fun pair => contribution pair.1 pair.2)
      ++ ((participants.coverageExtra ×ˢ participants.coverageSample).filter
          (fun pair => pair.1.memberId ≠ pair.2.memberId)).map fun pair =>
            if pair.1.memberId < pair.2.memberId then contribution pair.1 pair.2
            else contribution pair.2 pair.1

/-- The contributions of an item, in memory. -/
def itemContributions (t : Thresholds K) (movieId : ℤ) (interactions : List (Interaction K))
    (coverageAnchorUsers : List ℤ) : List (PairContribution K) :=
  participantContributions
    (t.selectItemPairParticipants movieId interactions coverageAnchorUsers)

end UserSimilarityBuilder.Thresholds

/-! ### Samples hold users of the item -/

theorem map_memberId_rankedUsers (movieId : ℤ) (interactions : List (Interaction K)) :
  (rankedUsers movieId interactions).map (·.memberId)
    = (interactions.map Interaction.memberId).eraseDups
  := by
  rw [rankedUsers, List.map_map, ← map_memberId_dedupe]
  rfl

theorem nodup_map_memberId_rankedUsers (movieId : ℤ) (interactions : List (Interaction K)) :
  ((rankedUsers movieId interactions).map (·.memberId)).Nodup
  := by
  rw [map_memberId_rankedUsers]
  apply Keyed.nodup_eraseDups

theorem stratifiedSample_subperm (ranked : List (RankedUser K)) (sampleSize : ℤ) :
  (stratifiedSampleItemInteractions ranked sampleSize).Subperm ranked
  := by
  by_cases h : sampleSize ≤ 0 ∨ ranked.length ≤ sampleSize
  · rw [stratifiedSampleItemInteractions, if_pos h]
  · rw [stratifiedSample_eq (by omega) (by omega)]
    exact (List.take_sublist _ _).subperm.trans (samplingOrder_perm ranked).subperm

namespace UserSimilarityBuilder.Thresholds

variable [Field K]

theorem sampledRanked_subperm (t : Thresholds K) (ranked : List (RankedUser K)) :
  (t.sampledRanked ranked).Subperm ranked
  := by
  rw [sampledRanked]
  split
  · exact stratifiedSample_subperm ranked _
  · exact List.Subperm.refl _

theorem coverageSampleRanked_subperm (t : Thresholds K) (ranked : List (RankedUser K))
    (coverageAnchorUsers : List ℤ) :
  (t.coverageSampleRanked ranked coverageAnchorUsers).Subperm ranked
  := by
  rw [coverageSampleRanked]
  split
  · exact stratifiedSample_subperm ranked _
  · exact t.sampledRanked_subperm ranked

/-! ### The contributions in memory -/

/-- Participants by identifier, the extras outside the sample. -/
structure WellFormed (p : Participants K) : Prop where
  sampled : p.sampled.Pairwise (fun a b => a.memberId < b.memberId)
  coverageExtra : p.coverageExtra.Pairwise (fun a b => a.memberId < b.memberId)
  coverageSample : p.coverageSample.Pairwise (fun a b => a.memberId < b.memberId)
  outside : ∀ x ∈ p.coverageExtra, ∀ y ∈ p.sampled, x.memberId ≠ y.memberId

omit [Field K] in
theorem mem_members {ranked : List (RankedUser K)} {m : WeightedMember K} :
  m ∈ members ranked ↔ ∃ x ∈ ranked, x.member = m
  := by
  rw [members, sortedMembers, Ranked.mem_sortBy, List.mem_map]

omit [Field K] in
theorem pairwise_members {ranked sample : List (RankedUser K)}
    (h : (ranked.map (·.memberId)).Nodup) (hsample : sample.Subperm ranked) :
  (members sample).Pairwise (fun a b => a.memberId < b.memberId)
  := by
  apply pairwise_sortedMembers
  rw [List.map_map]
  exact Keyed.nodup_map_of_subperm hsample h

theorem wellFormed_selectItemPairParticipants (t : Thresholds K) (movieId : ℤ)
    (interactions : List (Interaction K)) (coverageAnchorUsers : List ℤ) :
  WellFormed (t.selectItemPairParticipants movieId interactions coverageAnchorUsers)
  := by
  have hnodup := nodup_map_memberId_rankedUsers movieId interactions
  rw [selectItemPairParticipants]
  split
  · exact ⟨List.Pairwise.nil, List.Pairwise.nil, List.Pairwise.nil, by simp⟩
  · refine ⟨pairwise_members hnodup (t.sampledRanked_subperm _),
      pairwise_members hnodup List.filter_sublist.subperm,
      pairwise_members hnodup (t.coverageSampleRanked_subperm _ _), ?_⟩
    intro m hm m' hm' heq
    obtain ⟨x, hx, rfl⟩ := mem_members.mp hm
    obtain ⟨x', hx', rfl⟩ := mem_members.mp hm'
    rw [coverageExtraRanked, List.mem_filter, decide_eq_true_eq] at hx
    apply hx.2.2
    exact List.mem_map.mpr ⟨x', hx', heq.symm⟩

omit [LinearOrder K] in
theorem sampledPairs_eq {p : Participants K} (h : WellFormed p) :
  sampledPairs p = (Combinations.orderedPairs WeightedMember.memberId p.sampled).map
    fun pair => contribution pair.1 pair.2
  := by
  rw [sampledPairs, Combinations.combinations_eq_orderedPairs h.sampled, ← List.filterMap_eq_map]
  apply List.filterMap_congr
  intro pair hpair
  obtain ⟨-, -, hlt⟩ := Combinations.mem_orderedPairs.mp hpair
  rw [pairContribution, if_neg hlt.ne, if_neg hlt.asymm]
  rfl

omit [LinearOrder K] in
theorem coveragePairs_eq (p : Participants K) :
  coveragePairs p = ((p.coverageExtra ×ˢ p.coverageSample).filter
      (fun pair => pair.1.memberId ≠ pair.2.memberId)).map fun pair =>
        if pair.1.memberId < pair.2.memberId then contribution pair.1 pair.2
        else contribution pair.2 pair.1
  := by
  have hrow : ∀ (left : WeightedMember K) (rights : List (WeightedMember K)),
      rights.filterMap (pairContribution left)
        = ((rights.map (Prod.mk left)).filter
            (fun pair => pair.1.memberId ≠ pair.2.memberId)).map fun pair =>
              if pair.1.memberId < pair.2.memberId then contribution pair.1 pair.2
              else contribution pair.2 pair.1 := by
    intro left rights
    induction rights with
    | nil => rfl
    | cons right rights ih =>
        rcases lt_trichotomy left.memberId right.memberId with hlt | heq | hgt
        · simp [pairContribution, hlt, hlt.ne, hlt.asymm, ih]
        · simp [pairContribution, heq, ih]
        · simp [pairContribution, hgt, hgt.ne', hgt.asymm, ih]
  rw [coveragePairs, funext fun left => hrow left p.coverageSample]
  rw [← List.map_flatMap, ← List.filter_flatMap]
  rfl

/-- The contributions written for an item are those of the pairs its participants form. -/
theorem itemPairs_eq (t : Thresholds K) (movieId : ℤ) (interactions : List (Interaction K))
    (coverageAnchorUsers : List ℤ) :
  t.itemPairs movieId interactions coverageAnchorUsers
    = t.itemContributions movieId interactions coverageAnchorUsers
  := by
  rw [itemPairs, itemContributions, participantPairs, participantContributions,
    sampledPairs_eq (t.wellFormed_selectItemPairParticipants movieId interactions _),
    coveragePairs_eq]

omit [Field K] in
/-- A sample of the users of an item holds users of the item, each with one of its interactions. -/
theorem exists_of_mem_members {movieId : ℤ} {interactions : List (Interaction K)}
    {sample : List (RankedUser K)} (hsample : sample.Subperm (rankedUsers movieId interactions))
    {m : WeightedMember K} (h : m ∈ members sample) :
  ∃ x ∈ dedupe interactions, x.member = m
  := by
  obtain ⟨ranked, hranked, rfl⟩ := mem_members.mp h
  obtain ⟨x, hx, rfl⟩ := List.mem_map.mp (hsample.subset hranked)
  exact ⟨x, hx, rfl⟩

/-- Every participant is a user of the item, with one of its interactions. -/
theorem exists_of_mem_participants {t : Thresholds K} {movieId : ℤ}
    {interactions : List (Interaction K)} {coverageAnchorUsers : List ℤ} {m : WeightedMember K}
    (h : m ∈ (t.selectItemPairParticipants movieId interactions coverageAnchorUsers).sampled
      ∨ m ∈ (t.selectItemPairParticipants movieId interactions coverageAnchorUsers).coverageExtra
      ∨ m ∈ (t.selectItemPairParticipants movieId interactions coverageAnchorUsers).coverageSample) :
  ∃ x ∈ dedupe interactions, x.member = m
  := by
  rw [selectItemPairParticipants] at h
  split at h
  · simp at h
  · rcases h with h | h | h
    · exact exists_of_mem_members (t.sampledRanked_subperm _) h
    · exact exists_of_mem_members List.filter_sublist.subperm h
    · exact exists_of_mem_members (t.coverageSampleRanked_subperm _ _) h

omit [LinearOrder K] in
/-- A contribution of participants is that of two of them, the smaller one left. -/
theorem exists_of_mem_participantContributions {p : Participants K} {c : PairContribution K}
    (h : c ∈ participantContributions p) :
  ∃ m m', (m ∈ p.sampled ∨ m ∈ p.coverageExtra ∨ m ∈ p.coverageSample)
    ∧ (m' ∈ p.sampled ∨ m' ∈ p.coverageExtra ∨ m' ∈ p.coverageSample)
    ∧ m.memberId < m'.memberId ∧ c = contribution m m'
  := by
  rw [participantContributions] at h
  split at h
  · cases h
  · rcases List.mem_append.mp h with h | h
    · obtain ⟨⟨m, m'⟩, hpair, rfl⟩ := List.mem_map.mp h
      obtain ⟨hm, hm', hlt⟩ := Combinations.mem_orderedPairs.mp hpair
      exact ⟨m, m', Or.inl hm, Or.inl hm', hlt, rfl⟩
    · obtain ⟨⟨m, m'⟩, hpair, rfl⟩ := List.mem_map.mp h
      obtain ⟨hproduct, hne⟩ := List.mem_filter.mp hpair
      obtain ⟨hm, hm'⟩ := List.pair_mem_product.mp hproduct
      dsimp only
      split
      · rename_i hlt
        exact ⟨m, m', Or.inr (Or.inl hm), Or.inr (Or.inr hm'), hlt, rfl⟩
      · rename_i hle
        have hlt : m'.memberId < m.memberId :=
          lt_of_le_of_ne (not_lt.mp hle) (Ne.symm (of_decide_eq_true hne))
        exact ⟨m', m, Or.inr (Or.inr hm'), Or.inr (Or.inl hm), hlt, rfl⟩

/-- A contribution of an item is that of two of its users, each with one of its interactions, the
smaller one left. -/
theorem exists_of_mem_itemContributions {t : Thresholds K} {movieId : ℤ}
    {interactions : List (Interaction K)} {coverageAnchorUsers : List ℤ} {c : PairContribution K}
    (h : c ∈ t.itemContributions movieId interactions coverageAnchorUsers) :
  ∃ x ∈ dedupe interactions, ∃ y ∈ dedupe interactions,
    x.memberId < y.memberId ∧ c = contribution x.member y.member
  := by
  obtain ⟨m, m', hm, hm', hlt, rfl⟩ := exists_of_mem_participantContributions h
  obtain ⟨x, hx, rfl⟩ := exists_of_mem_participants hm
  obtain ⟨y, hy, rfl⟩ := exists_of_mem_participants hm'
  exact ⟨x, hx, y, hy, hlt, rfl⟩

end UserSimilarityBuilder.Thresholds

end OfflineDataProcessing
