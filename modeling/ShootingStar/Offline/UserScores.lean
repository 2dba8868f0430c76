import ShootingStar.Offline.PairBounds
import ShootingStar.Offline.UserSimilarity

/-!
# Counting user pairs once

The extras of an item are meant to pair with its sample, but the sample they pair with may be
larger, and then hold extras too.  A pair of two such extras is written twice.  An item writes each
pair once exactly when at most one of its anchor users is sampled for the extras and not in the
sample proper (`nodup_itemPairs_iff`).

When every item writes each pair once, the contributions to a pair are at most the items that both
users rated positively, and scores are at most one (`allPairedOnce_bounds`).
-/

namespace OfflineDataProcessing

open ShardWriter

variable {K : Type*}

/-! ### Lists without repetition -/

theorem mem_drop_iff {α : Type*} {l : List α} (h : l.Nodup) (n : ℕ) (x : α) :
  x ∈ l.drop n ↔ x ∈ l ∧ x ∉ l.take n
  := by
  have hsplit := List.take_append_drop n l
  have hdisjoint : ∀ y ∈ l.take n, y ∉ l.drop n := by
    rw [← hsplit, List.nodup_append] at h
    intro y hy hy'
    exact h.2.2 y hy y hy' rfl
  constructor
  · intro hx
    exact ⟨List.mem_of_mem_drop hx, fun hx' => hdisjoint x hx' hx⟩
  · rintro ⟨hx, hx'⟩
    rw [← hsplit] at hx
    exact (List.mem_append.mp hx).resolve_left hx'

/-- A list without repetition has two entries when it has two different ones, and only then. -/
theorem two_le_length_iff {α : Type*} {l : List α} (h : l.Nodup) :
  2 ≤ l.length ↔ ∃ x ∈ l, ∃ y ∈ l, x ≠ y
  := by
  match l with
  | [] => simp
  | [x] => simp
  | x :: y :: l =>
      have hne : x ≠ y := by
        rintro rfl
        simp at h
      simp only [List.length_cons, Nat.le_add_left, true_iff]
      exact ⟨x, by simp, y, by simp, hne⟩

namespace UserSimilarityBuilder.Thresholds

/-! ### The pairs of the participants -/

/-- The extras that are in the sample for the extras. -/
def sampledExtras (p : Participants K) : List (WeightedMember K) :=
  p.coverageExtra.filter fun m => m.memberId ∈ p.coverageSample.map (·.memberId)

/-- The pair of two users, the smaller one left. -/
def unordered (pair : WeightedMember K × WeightedMember K) : MemberPair :=
  if pair.1.memberId < pair.2.memberId then ⟨pair.1.memberId, pair.2.memberId⟩
  else ⟨pair.2.memberId, pair.1.memberId⟩

theorem unordered_eq {q q' : WeightedMember K × WeightedMember K} (h : unordered q = unordered q') :
  (q.1.memberId = q'.1.memberId ∧ q.2.memberId = q'.2.memberId)
    ∨ (q.1.memberId = q'.2.memberId ∧ q.2.memberId = q'.1.memberId)
  := by
  rw [unordered, unordered] at h
  split_ifs at h <;> simp only [MemberPair.mk.injEq] at h <;> omega

theorem unordered_swap {q q' : WeightedMember K × WeightedMember K}
    (hleft : q.1.memberId = q'.2.memberId) (hright : q.2.memberId = q'.1.memberId) :
  unordered q = unordered q'
  := by
  rw [unordered, unordered]
  split_ifs <;> simp only [MemberPair.mk.injEq] <;> omega

theorem eq_of_memberId_eq {l : List (WeightedMember K)}
    (h : l.Pairwise (fun a b => a.memberId < b.memberId)) {x y : WeightedMember K} (hx : x ∈ l)
    (hy : y ∈ l) (heq : x.memberId = y.memberId) :
  x = y
  := by
  have hnodup : (l.map WeightedMember.memberId).Nodup := by
    apply List.pairwise_map.mpr
    exact h.imp fun hlt => hlt.ne
  exact List.inj_on_of_nodup_map hnodup hx hy heq

/-- The pairs written for the participants. -/
theorem map_pair_participantContributions [Field K] {p : Participants K}
    (hsampled : 2 ≤ p.sampled.length) :
  (participantContributions p).map PairContribution.pair
    = (Combinations.orderedPairs WeightedMember.memberId p.sampled).map
        (fun pair => ⟨pair.1.memberId, pair.2.memberId⟩)
      ++ ((p.coverageExtra ×ˢ p.coverageSample).filter
          (fun pair => pair.1.memberId ≠ pair.2.memberId)).map unordered
  := by
  rw [participantContributions, if_neg (not_lt.mpr hsampled), List.map_append, List.map_map,
    List.map_map]
  congr 1
  apply List.map_congr_left
  intro pair _
  rw [Function.comp, unordered]
  split <;> rfl

theorem mem_coverage {p : Participants K} {q : WeightedMember K × WeightedMember K}
    (h : q ∈ (p.coverageExtra ×ˢ p.coverageSample).filter
      (fun pair => pair.1.memberId ≠ pair.2.memberId)) :
  q.1 ∈ p.coverageExtra ∧ q.2 ∈ p.coverageSample ∧ q.1.memberId ≠ q.2.memberId
  := by
  obtain ⟨hproduct, hne⟩ := List.mem_filter.mp h
  obtain ⟨hleft, hright⟩ := List.pair_mem_product.mp hproduct
  exact ⟨hleft, hright, of_decide_eq_true hne⟩

/-- The pairs of the extras are distinct when at most one extra is in the sample for them. -/
theorem nodup_coverage {p : Participants K} (h : WellFormed p)
    (hextras : (sampledExtras p).length < 2) :
  (((p.coverageExtra ×ˢ p.coverageSample).filter
    (fun pair => pair.1.memberId ≠ pair.2.memberId)).map unordered).Nodup
  := by
  have hnodup : ∀ l : List (WeightedMember K),
      l.Pairwise (fun a b => a.memberId < b.memberId) → l.Nodup := by
    intro l hl
    exact hl.imp fun hlt heq => hlt.ne (congrArg _ heq)
  have hsampled : ∀ x ∈ sampledExtras p, ∀ y ∈ sampledExtras p, x = y := by
    intro x hx y hy
    by_contra hne
    have htwo := (two_le_length_iff ((hnodup _ h.coverageExtra).filter _)).mpr ⟨x, hx, y, hy, hne⟩
    exact absurd htwo (not_le.mpr hextras)
  have hmem : ∀ {x y : WeightedMember K}, x ∈ p.coverageExtra → y ∈ p.coverageSample →
      x.memberId = y.memberId → x ∈ sampledExtras p := by
    intro x y hx hy heq
    apply List.mem_filter.mpr
    exact ⟨hx, decide_eq_true (List.mem_map.mpr ⟨y, hy, heq.symm⟩)⟩
  apply List.Nodup.map_on
  · intro q hq q' hq' heq
    obtain ⟨hleft, hright, hne⟩ := mem_coverage hq
    obtain ⟨hleft', hright', -⟩ := mem_coverage hq'
    rcases unordered_eq heq with ⟨hl, hr⟩ | ⟨hl, hr⟩
    · exact Prod.ext (eq_of_memberId_eq h.coverageExtra hleft hleft' hl)
        (eq_of_memberId_eq h.coverageSample hright hright' hr)
    · have hsame := hsampled _ (hmem hleft hright' hl) _ (hmem hleft' hright hr.symm)
      rw [hsame, hr] at hne
      exact absurd rfl hne
  · exact ((hnodup _ h.coverageExtra).product (hnodup _ h.coverageSample)).filter _

/-- A pair of two extras that are both in the sample for the extras is written twice. -/
theorem sampledExtras_of_nodup {p : Participants K} (h : WellFormed p)
    (hnodup : (((p.coverageExtra ×ˢ p.coverageSample).filter
      (fun pair => pair.1.memberId ≠ pair.2.memberId)).map unordered).Nodup) :
  (sampledExtras p).length < 2
  := by
  have hextras : (sampledExtras p).Nodup := by
    apply List.Nodup.filter
    exact h.coverageExtra.imp fun hlt heq => hlt.ne (congrArg _ heq)
  by_contra htwo
  obtain ⟨x, hx, y, hy, hne⟩ := (two_le_length_iff hextras).mp (not_lt.mp htwo)
  obtain ⟨hx, hxs⟩ := List.mem_filter.mp hx
  obtain ⟨hy, hys⟩ := List.mem_filter.mp hy
  obtain ⟨x', hx', hxx'⟩ := List.mem_map.mp (of_decide_eq_true hxs)
  obtain ⟨y', hy', hyy'⟩ := List.mem_map.mp (of_decide_eq_true hys)
  have hids : x.memberId ≠ y.memberId := fun heq =>
    hne (eq_of_memberId_eq h.coverageExtra hx hy heq)
  have hmem : ∀ {a b : WeightedMember K}, a ∈ p.coverageExtra → b ∈ p.coverageSample →
      a.memberId ≠ b.memberId → (a, b) ∈ (p.coverageExtra ×ˢ p.coverageSample).filter
        (fun pair => pair.1.memberId ≠ pair.2.memberId) := by
    intro a b ha hb hab
    exact List.mem_filter.mpr ⟨List.pair_mem_product.mpr ⟨ha, hb⟩, decide_eq_true hab⟩
  have hxy : x.memberId ≠ y'.memberId := hyy' ▸ hids
  have hyx : y.memberId ≠ x'.memberId := hxx' ▸ hids.symm
  have heq := List.inj_on_of_nodup_map hnodup (hmem hx hy' hxy) (hmem hy hx' hyx)
    (unordered_swap hxx'.symm hyy')
  exact hne (congrArg Prod.fst heq)

/-- Participants write each pair once exactly when at most one extra is in the sample for the
extras. -/
theorem nodup_participantContributions_iff [Field K] {p : Participants K} (h : WellFormed p)
    (hsampled : 2 ≤ p.sampled.length) :
  ((participantContributions p).map PairContribution.pair).Nodup
    ↔ (sampledExtras p).length < 2
  := by
  have hids : (p.sampled.map WeightedMember.memberId).Nodup := by
    apply List.pairwise_map.mpr
    exact h.sampled.imp fun hlt => hlt.ne
  have hpairs : ((Combinations.orderedPairs WeightedMember.memberId p.sampled).map
      (fun pair => (⟨pair.1.memberId, pair.2.memberId⟩ : MemberPair))).Nodup := by
    have hnodup := (Combinations.nodup_map_orderedPairs hids).map
      (f := fun pair : ℤ × ℤ => (⟨pair.1, pair.2⟩ : MemberPair)) (by
        intro a b hab
        exact Prod.ext (congrArg MemberPair.left hab) (congrArg MemberPair.right hab))
    rwa [List.map_map] at hnodup
  rw [map_pair_participantContributions hsampled, List.nodup_append]
  constructor
  · rintro ⟨-, hcoverage, -⟩
    exact sampledExtras_of_nodup h hcoverage
  · intro hextras
    refine ⟨hpairs, nodup_coverage h hextras, ?_⟩
    rintro _ hsampledPair _ hcoveragePair rfl
    obtain ⟨q, hq, hqpair⟩ := List.mem_map.mp hsampledPair
    obtain ⟨q', hq', hq'pair⟩ := List.mem_map.mp hcoveragePair
    obtain ⟨hleft, hright, hlt⟩ := Combinations.mem_orderedPairs.mp hq
    obtain ⟨hextra, -, -⟩ := mem_coverage hq'
    have hqq' : unordered q' = unordered q := by
      rw [hq'pair, ← hqpair, unordered, if_pos hlt]
    rcases unordered_eq hqq' with ⟨heq, -⟩ | ⟨heq, -⟩
    · exact h.outside _ hextra _ hleft heq
    · exact h.outside _ hextra _ hright heq

/-! ### When an item writes each pair once -/

variable [LinearOrder K]

/-- The users that are sampled for the extras, at their sample size, but not in the sample proper. -/
def sampledBeyondCap [Field K] (t : Thresholds K) (ranked : List (RankedUser K)) :
    List (RankedUser K) :=
  ((samplingOrder ranked).take t.coveragePairSampleSize.toNat).drop t.maxItemUsers.toNat

/-- The item pairs no users, or at most one of its anchor users is sampled beyond the cap. -/
def PairedOnce [Field K] (t : Thresholds K) (movieId : ℤ) (interactions : List (Interaction K))
    (coverageAnchorUsers : List ℤ) : Prop :=
  t.maxItemUsers < 2
    ∨ (rankedUsers movieId interactions).length < t.minItemUsers
    ∨ ((t.sampledBeyondCap (rankedUsers movieId interactions)).filter
        (·.memberId ∈ coverageAnchorUsers)).length < 2

instance [Field K] (t : Thresholds K) (movieId : ℤ) (interactions : List (Interaction K))
    (coverageAnchorUsers : List ℤ) :
    Decidable (t.PairedOnce movieId interactions coverageAnchorUsers) :=
  inferInstanceAs (Decidable (_ ∨ _ ∨ _))

variable [Field K]

omit [LinearOrder K] [Field K] in
/-- In a list of users with distinct identifiers, an identifier of a part is that of one user. -/
theorem memberId_mem_map_iff {ranked part : List (RankedUser K)}
    (h : (ranked.map (·.memberId)).Nodup) (hpart : part ⊆ ranked) {x : RankedUser K}
    (hx : x ∈ ranked) :
  x.memberId ∈ part.map (·.memberId) ↔ x ∈ part
  := by
  constructor
  · intro hid
    obtain ⟨y, hy, heq⟩ := List.mem_map.mp hid
    rwa [List.inj_on_of_nodup_map h hx (hpart hy) heq.symm]
  · exact List.mem_map_of_mem

/-- The extras in the sample for the extras are as many as the users they come from. -/
theorem length_sampledExtras (t : Thresholds K) {movieId : ℤ}
    {interactions : List (Interaction K)} (coverageAnchorUsers : List ℤ)
    (h : ¬ (rankedUsers movieId interactions).length < t.minItemUsers) :
  (sampledExtras
      (t.selectItemPairParticipants movieId interactions coverageAnchorUsers)).length
    = ((t.coverageExtraRanked (rankedUsers movieId interactions) coverageAnchorUsers).filter
        fun x => x.memberId ∈ (t.coverageSampleRanked (rankedUsers movieId interactions)
          coverageAnchorUsers).map (·.memberId)).length
  := by
  have hids : ∀ (sample : List (RankedUser K)) (id : ℤ),
      id ∈ (members sample).map (·.memberId) ↔ id ∈ sample.map (·.memberId) := by
    intro sample id
    rw [members, sortedMembers, ((Ranked.sortBy_perm _ _).map _).mem_iff, List.map_map]
    rfl
  rw [sampledExtras, selectItemPairParticipants, if_neg h]
  dsimp only
  simp only [hids]
  rw [members, sortedMembers, ((Ranked.sortBy_perm _ _).filter _).length_eq, List.filter_map,
    List.length_map]
  rfl

omit [Field K] in
/-- The users of a sample are those of the beginning of the sampling order. -/
theorem mem_stratifiedSample {ranked : List (RankedUser K)} {sampleSize : ℤ}
    (hpos : 0 < sampleSize) {x : RankedUser K} :
  x ∈ stratifiedSampleItemInteractions ranked sampleSize
    ↔ x ∈ (samplingOrder ranked).take sampleSize.toNat
  := by
  by_cases hlt : sampleSize < ranked.length
  · rw [stratifiedSample_eq hpos hlt]
  · have hlength := (samplingOrder_perm ranked).length_eq
    rw [stratifiedSampleItemInteractions, if_pos (Or.inr (not_lt.mp hlt)),
      List.take_of_length_le (by omega), (samplingOrder_perm ranked).mem_iff]

theorem mem_sampledRanked (t : Thresholds K) (hcap : 0 < t.maxItemUsers)
    {ranked : List (RankedUser K)} {x : RankedUser K} :
  x ∈ t.sampledRanked ranked ↔ x ∈ (samplingOrder ranked).take t.maxItemUsers.toNat
  := by
  rw [sampledRanked]
  split
  · exact mem_stratifiedSample hcap
  · have hlength := (samplingOrder_perm ranked).length_eq
    rw [List.take_of_length_le (by omega), (samplingOrder_perm ranked).mem_iff]

theorem length_sampledRanked_le (t : Thresholds K) (hcap : 0 < t.maxItemUsers)
    (ranked : List (RankedUser K)) :
  (t.sampledRanked ranked).length ≤ t.maxItemUsers
  := by
  rw [sampledRanked]
  split
  · rename_i h
    rw [stratifiedSample_eq hcap h.2]
    have hlength := List.length_take_le t.maxItemUsers.toNat (samplingOrder ranked)
    omega
  · omega

/-- The extras are the anchor users outside the sample. -/
theorem mem_coverageExtraRanked (t : Thresholds K) (hcap : 0 < t.maxItemUsers) {movieId : ℤ}
    {interactions : List (Interaction K)} {coverageAnchorUsers : List ℤ} {x : RankedUser K} :
  x ∈ t.coverageExtraRanked (rankedUsers movieId interactions) coverageAnchorUsers
    ↔ x ∈ rankedUsers movieId interactions ∧ x.memberId ∈ coverageAnchorUsers
      ∧ x ∉ (samplingOrder (rankedUsers movieId interactions)).take t.maxItemUsers.toNat
  := by
  rw [coverageExtraRanked, List.mem_filter, decide_eq_true_eq]
  apply and_congr_right
  intro hx
  rw [memberId_mem_map_iff (nodup_map_memberId_rankedUsers movieId interactions)
    (t.sampledRanked_subperm _).subset hx, t.mem_sampledRanked hcap]

/-- The users outside the sample proper that are in the sample for the extras. -/
theorem mem_sampledExtras_iff (t : Thresholds K) (hcap : 0 < t.maxItemUsers) {movieId : ℤ}
    {interactions : List (Interaction K)} {coverageAnchorUsers : List ℤ} {x : RankedUser K} :
  (x ∈ t.coverageExtraRanked (rankedUsers movieId interactions) coverageAnchorUsers
      ∧ x ∈ t.coverageSampleRanked (rankedUsers movieId interactions) coverageAnchorUsers)
    ↔ x.memberId ∈ coverageAnchorUsers
      ∧ x ∈ t.sampledBeyondCap (rankedUsers movieId interactions)
  := by
  have hperm := samplingOrder_perm (rankedUsers movieId interactions)
  have hnodup : (samplingOrder (rankedUsers movieId interactions)).Nodup := by
    apply hperm.nodup_iff.mpr
    exact List.Nodup.of_map _ (nodup_map_memberId_rankedUsers movieId interactions)
  have hlength := t.length_sampledRanked_le hcap (rankedUsers movieId interactions)
  rw [sampledBeyondCap, mem_drop_iff (hnodup.sublist (List.take_sublist _ _)), List.take_take,
    t.mem_coverageExtraRanked hcap, coverageSampleRanked]
  constructor
  · rintro ⟨⟨hx, hanchor, hout⟩, hsample⟩
    split at hsample
    · rename_i hsize
      refine ⟨hanchor, (mem_stratifiedSample (by omega)).mp hsample, ?_⟩
      intro hin
      exact hout ((List.take_sublist_take_left (Nat.min_le_left _ _)).subset hin)
    · exact absurd ((t.mem_sampledRanked hcap).mp hsample) hout
  · rintro ⟨hanchor, hin, hout⟩
    have hsize : t.maxItemUsers < t.coveragePairSampleSize := by
      by_contra hle
      rw [Nat.min_eq_right (by omega)] at hout
      exact hout hin
    rw [Nat.min_eq_left (by omega)] at hout
    have hextra := (t.mem_coverageExtraRanked hcap).mpr
      ⟨hperm.mem_iff.mp (List.mem_of_mem_take hin), hanchor, hout⟩
    rw [if_pos ⟨List.ne_nil_of_mem hextra, hcap, by omega⟩]
    exact ⟨(t.mem_coverageExtraRanked hcap).mp hextra,
      (mem_stratifiedSample (by omega)).mpr hin⟩

/-- The extras in the sample for the extras are as many as the anchor users sampled beyond the
cap. -/
theorem length_sampledExtras_eq (t : Thresholds K) (hcap : 0 < t.maxItemUsers) {movieId : ℤ}
    {interactions : List (Interaction K)} (coverageAnchorUsers : List ℤ)
    (h : ¬ (rankedUsers movieId interactions).length < t.minItemUsers) :
  (sampledExtras
      (t.selectItemPairParticipants movieId interactions coverageAnchorUsers)).length
    = ((t.sampledBeyondCap (rankedUsers movieId interactions)).filter
        (·.memberId ∈ coverageAnchorUsers)).length
  := by
  have hnodup : (rankedUsers movieId interactions).Nodup :=
    List.Nodup.of_map _ (nodup_map_memberId_rankedUsers movieId interactions)
  have hbeyond : (t.sampledBeyondCap (rankedUsers movieId interactions)).Nodup := by
    have horder := (samplingOrder_perm _).nodup_iff.mpr hnodup
    exact horder.sublist ((List.drop_sublist _ _).trans (List.take_sublist _ _))
  rw [t.length_sampledExtras coverageAnchorUsers h]
  apply List.Perm.length_eq
  apply (List.perm_ext_iff_of_nodup ((hnodup.filter _).filter _) (hbeyond.filter _)).mpr
  intro x
  have hright : x ∈ (t.sampledBeyondCap (rankedUsers movieId interactions)).filter
      (·.memberId ∈ coverageAnchorUsers)
      ↔ x ∈ t.coverageExtraRanked (rankedUsers movieId interactions) coverageAnchorUsers
        ∧ x ∈ t.coverageSampleRanked (rankedUsers movieId interactions) coverageAnchorUsers := by
    rw [t.mem_sampledExtras_iff hcap, List.mem_filter, decide_eq_true_eq, and_comm]
  rw [hright, List.mem_filter, decide_eq_true_eq]
  apply and_congr_right
  intro hextra
  have hx := ((t.mem_coverageExtraRanked hcap).mp hextra).1
  exact memberId_mem_map_iff (nodup_map_memberId_rankedUsers movieId interactions)
    (t.coverageSampleRanked_subperm _ _).subset hx

omit [Field K] in
theorem length_members (ranked : List (RankedUser K)) :
  (members ranked).length = ranked.length
  := by
  rw [members, sortedMembers, Ranked.length_sortBy, List.length_map]

/-- Without a cap on the users there are no extras. -/
theorem coverageExtraRanked_eq_nil (t : Thresholds K) (hcap : t.maxItemUsers ≤ 0)
    (ranked : List (RankedUser K)) (coverageAnchorUsers : List ℤ) :
  t.coverageExtraRanked ranked coverageAnchorUsers = []
  := by
  rw [coverageExtraRanked, sampledRanked, if_neg (by omega)]
  apply List.filter_eq_nil_iff.mpr
  intro x hx
  simp only [decide_eq_true_eq, not_and, not_not]
  intro _
  exact List.mem_map_of_mem hx

/-- An item that samples fewer than two users, under a cap of at least two, has fewer than two. -/
theorem length_lt_of_sampledRanked (t : Thresholds K) (hcap : 2 ≤ t.maxItemUsers)
    {ranked : List (RankedUser K)} (h : (t.sampledRanked ranked).length < 2) :
  ranked.length < 2
  := by
  rw [sampledRanked] at h
  split at h
  · rename_i hlt
    have hlength := (samplingOrder_perm ranked).length_eq
    rw [stratifiedSample_eq hlt.1 hlt.2, List.length_take] at h
    omega
  · exact h

/-- An item writes each pair of users once exactly when it pairs no users or at most one of its
anchor users is sampled beyond the cap. -/
theorem nodup_itemPairs_iff (t : Thresholds K) (movieId : ℤ) (interactions : List (Interaction K))
    (coverageAnchorUsers : List ℤ) :
  ((t.itemPairs movieId interactions coverageAnchorUsers).map PairContribution.pair).Nodup
    ↔ t.PairedOnce movieId interactions coverageAnchorUsers
  := by
  have hwf := t.wellFormed_selectItemPairParticipants movieId interactions coverageAnchorUsers
  have hnil : ∀ p : Participants K, p.sampled.length < 2 → participantContributions p = [] := by
    intro p hp
    rw [participantContributions, if_pos hp]
  rw [itemPairs_eq, itemContributions]
  by_cases hfew : (rankedUsers movieId interactions).length < t.minItemUsers
  · rw [hnil _ (by simp [selectItemPairParticipants, hfew])]
    exact iff_of_true List.nodup_nil (Or.inr (Or.inl hfew))
  have hlength : (t.selectItemPairParticipants movieId interactions coverageAnchorUsers).sampled.length
      = (t.sampledRanked (rankedUsers movieId interactions)).length := by
    rw [selectItemPairParticipants, if_neg hfew]
    exact length_members _
  by_cases hsmall : t.maxItemUsers < 2
  · apply iff_of_true _ (Or.inl hsmall)
    by_cases htwo : (t.sampledRanked (rankedUsers movieId interactions)).length < 2
    · rw [hnil _ (hlength.trans_lt htwo)]
      exact List.nodup_nil
    · apply (nodup_participantContributions_iff hwf (by omega)).mpr
      have hcap : t.maxItemUsers ≤ 0 := by
        by_contra hpos
        have hle := t.length_sampledRanked_le (not_le.mp hpos) (rankedUsers movieId interactions)
        omega
      rw [t.length_sampledExtras coverageAnchorUsers hfew, t.coverageExtraRanked_eq_nil hcap]
      exact Nat.two_pos
  · have hcap : 2 ≤ t.maxItemUsers := not_lt.mp hsmall
    have hcount := t.length_sampledExtras_eq (by omega) coverageAnchorUsers hfew
    rw [PairedOnce, or_iff_right hsmall, or_iff_right hfew, ← hcount]
    by_cases htwo : (t.sampledRanked (rankedUsers movieId interactions)).length < 2
    · rw [hnil _ (hlength.trans_lt htwo)]
      apply iff_of_true List.nodup_nil
      have hranked := t.length_lt_of_sampledRanked hcap htwo
      rw [t.length_sampledExtras coverageAnchorUsers hfew]
      exact ((List.length_filter_le _ _).trans (List.length_filter_le _ _)).trans_lt hranked
    · exact nodup_participantContributions_iff hwf (by omega)

variable [IsStrictOrderedRing K]

/-! ### The contributions of an item to a pair -/

/-- The contributions of an item to a pair. -/
def contributionsTo (t : Thresholds K) (pair : MemberPair) (movieId : ℤ)
    (interactions : List (Interaction K)) (coverageAnchorUsers : List ℤ) :
    List (PairContribution K) :=
  (t.itemContributions movieId interactions coverageAnchorUsers).filter (·.pair = pair)

omit [IsStrictOrderedRing K] in
/-- An item that writes each pair once contributes at most once to a pair, with the product of the
weights of its users. -/
theorem contributesOnce_contributionsTo {t : Thresholds K} {movieId : ℤ}
    {interactions : List (Interaction K)} {coverageAnchorUsers : List ℤ}
    (h : t.PairedOnce movieId interactions coverageAnchorUsers) (pair : MemberPair) :
  ContributesOnce interactions pair
    (t.contributionsTo pair movieId interactions coverageAnchorUsers)
  := by
  have hnodup := (t.nodup_itemPairs_iff movieId interactions coverageAnchorUsers).mpr h
  rw [itemPairs_eq] at hnodup
  apply contributesOnce_of_nodup hnodup
  intro c hc
  obtain ⟨x, hx, y, hy, -, rfl⟩ := exists_of_mem_itemContributions hc
  exact ⟨x, hx, y, hy, rfl⟩

/-! ### The contributions of all items to a pair -/

/-- The interactions of an item with the users kept. -/
def itemInteractions (t : Thresholds K) (rows : List (RatingRow K)) (movieId : ℤ) :
    List (Interaction K) :=
  ((t.keptRatings rows).filter (·.movieId = movieId)).map userInteraction

/-- The items of the users kept. -/
def itemsOf (t : Thresholds K) (rows : List (RatingRow K)) : List ℤ :=
  ((t.keptRatings rows).map (·.movieId)).eraseDups

/-- The items that both users of a pair rated positively. -/
def itemsOfBoth (t : Thresholds K) (rows : List (RatingRow K)) (pair : MemberPair) : Finset ℤ :=
  let ratings := t.iterPositiveRatings rows
  ((ratings.filter (·.userId = pair.left)).map (·.movieId)).toFinset
    ∩ ((ratings.filter (·.userId = pair.right)).map (·.movieId)).toFinset

/-- Every item writes each pair once. -/
def AllPairedOnce (t : Thresholds K) (rows : List (RatingRow K)) : Prop :=
  ∀ movieId ∈ t.itemsOf rows,
    t.PairedOnce movieId (t.itemInteractions rows movieId) (t.itemAnchorUsers rows movieId)

/-- The contributions of an item in a file of ratings to a pair. -/
def itemContributionsTo (t : Thresholds K) (rows : List (RatingRow K)) (pair : MemberPair)
    (movieId : ℤ) : List (PairContribution K) :=
  t.contributionsTo pair movieId (t.itemInteractions rows movieId) (t.itemAnchorUsers rows movieId)

omit [IsStrictOrderedRing K] in
theorem nodup_itemsOf (t : Thresholds K) (rows : List (RatingRow K)) :
  (t.itemsOf rows).Nodup
  := Keyed.nodup_eraseDups _

omit [IsStrictOrderedRing K] in
theorem filter_contributions (t : Thresholds K) (rows : List (RatingRow K)) (pair : MemberPair) :
  (t.contributions rows).filter (·.pair = pair)
    = (t.itemsOf rows).flatMap (t.itemContributionsTo rows pair)
  := by
  rw [contributions, Keyed.groups, List.flatMap_map, List.filter_flatMap]
  rfl

/-- The ratings of the users kept, by item. -/
theorem grouping_keptRatings (t : Thresholds K) (rows : List (RatingRow K)) :
  Grouping PositiveRating.movieId PositiveRating.userId userInteraction
    (t.iterPositiveRatings rows) (t.keptRatings rows)
  := by
  constructor
  · intro _
    rfl
  · intro _
    rfl
  · exact List.filter_sublist
  · intro _
    exact RatingOptions.weight_pos

/-- A pair has at most as many contributions as items that both its users rated positively. -/
theorem length_filter_contributions_le {t : Thresholds K} {rows : List (RatingRow K)}
    (h : t.AllPairedOnce rows) (pair : MemberPair) :
  ((t.contributions rows).filter (·.pair = pair)).length ≤ (t.itemsOfBoth rows pair).card
  := by
  rw [filter_contributions]
  apply (t.grouping_keptRatings rows).length_flatMap_le (t.nodup_itemsOf rows)
  intro movieId hmovie
  exact contributesOnce_contributionsTo (h movieId hmovie) pair

theorem weight_pos_of_mem_itemInteractions {t : Thresholds K} {rows : List (RatingRow K)}
    {movieId : ℤ} {x : Interaction K} (h : x ∈ t.itemInteractions rows movieId) :
  0 < x.weight
  := by
  obtain ⟨rating, hrating, rfl⟩ := List.mem_map.mp h
  exact RatingOptions.weight_pos (List.mem_of_mem_filter (List.mem_of_mem_filter hrating))

/-- Contributions are nonnegative. -/
theorem weight_nonneg_of_mem_contributions {t : Thresholds K} {rows : List (RatingRow K)}
    {c : PairContribution K} (h : c ∈ t.contributions rows) :
  0 ≤ c.weight
  := by
  obtain ⟨group, hgroup, hcgroup⟩ := List.mem_flatMap.mp h
  obtain ⟨x, hx, y, hy, -, rfl⟩ := exists_of_mem_itemContributions hcgroup
  rw [(Keyed.mem_groups.mp hgroup).2] at hx hy
  exact mul_nonneg (weight_pos_of_mem_itemInteractions (mem_of_mem_dedupe hx)).le
    (weight_pos_of_mem_itemInteractions (mem_of_mem_dedupe hy)).le

/-- The sum of the weights of a pair, squared, is at most the product of the squared norms of its
users. -/
theorem sq_sum_filter_contributions_le {t : Thresholds K} {rows : List (RatingRow K)}
    (h : t.AllPairedOnce rows) (pair : MemberPair) :
  (((t.contributions rows).filter (·.pair = pair)).map (·.weight)).sum ^ 2
    ≤ t.userNormSq rows pair.left * t.userNormSq rows pair.right
  := by
  rw [filter_contributions]
  apply (t.grouping_keptRatings rows).sq_sum_flatMap_le
  intro movieId hmovie
  exact contributesOnce_contributionsTo (h movieId hmovie) pair

end UserSimilarityBuilder.Thresholds

namespace UserSimilarityBuilder

open Thresholds

/-! ### The reduced data -/

/-- The contributions to a pair in a pair shard are some of those to the pair. -/
theorem filter_files_pairShards [LinearOrder K] [Field K] [IsStrictOrderedRing K]
    (b : UserSimilarityBuilder K) (rows : List (RatingRow K)) (n : ℕ) (pair : MemberPair) :
  (((b.pairShards rows).files n).filter (·.pair = pair)).Subperm
    ((b.contributions rows).filter (·.pair = pair))
  := by
  obtain ⟨cs, hcs, hfiles⟩ := b.files_pairShards rows
  rw [hfiles]
  exact (List.filter_sublist.filter _).subperm.trans (hcs.filter _).subperm

/-- When every item of a file of ratings writes each pair of users once, no pair is counted more
often than there are items that both users rated positively, and no score exceeds one. -/
theorem allPairedOnce_bounds (b : UserSimilarityBuilder ℝ) {rows : List (RatingRow ℝ)}
    (h : b.AllPairedOnce rows) (n : ℕ) {entry : MemberPair × ℕ}
    (hentry : entry ∈ PairReduction.pairCounts ((b.pairShards rows).files n)) :
  entry.2 ≤ (b.itemsOfBoth rows entry.1).card
    ∧ (PairReduction.pairScore Real.sqrt (b.buildUserStats rows).userNormSq
        ((b.pairShards rows).files n) entry.1).1 ≤ 1
  := by
  have hsub := b.filter_files_pairShards rows n entry.1
  constructor
  · rw [PairReduction.pairCounts_eq] at hentry
    obtain ⟨group, hgroup, rfl⟩ := List.mem_map.mp hentry
    dsimp only at hsub ⊢
    rw [(Keyed.mem_groups.mp hgroup).2]
    exact hsub.length_le.trans (length_filter_contributions_le h group.1)
  · have hle : ((((b.pairShards rows).files n).filter (·.pair = entry.1)).map (·.weight)).sum
        ≤ (((b.contributions rows).filter (·.pair = entry.1)).map (·.weight)).sum := by
      apply sum_weight_le_of_subperm hsub
      intro c hc
      exact weight_nonneg_of_mem_contributions (List.mem_of_mem_filter hc)
    simp only [PairReduction.pairScore, PairReduction.lookup_pairWeightSums, b.lookup_userNormSq]
    apply div_le_one_of_le₀ _ (Real.sqrt_nonneg _)
    apply hle.trans
    apply Real.le_sqrt_of_sq_le
    exact sq_sum_filter_contributions_le h entry.1

/-- An item writes each pair of users once exactly when it pairs no users or at most one of its
anchor users is sampled beyond the cap; and when every item of a file of ratings does, no pair is
counted more often than there are items that both users rated positively, and no score exceeds
one. -/
theorem pairs_counted_once_iff (b : UserSimilarityBuilder ℝ) :
  (∀ (movieId : ℤ) (interactions : List (Interaction ℝ)) (coverageAnchorUsers : List ℤ),
      ((b.itemPairs movieId interactions coverageAnchorUsers).map PairContribution.pair).Nodup
        ↔ b.PairedOnce movieId interactions coverageAnchorUsers)
    ∧ ∀ rows : List (RatingRow ℝ), b.AllPairedOnce rows →
      ∀ n, ∀ entry ∈ PairReduction.pairCounts ((b.pairShards rows).files n),
        entry.2 ≤ (b.itemsOfBoth rows entry.1).card
          ∧ (PairReduction.pairScore Real.sqrt (b.buildUserStats rows).userNormSq
              ((b.pairShards rows).files n) entry.1).1 ≤ 1
  := by
  constructor
  · intro movieId interactions coverageAnchorUsers
    exact b.nodup_itemPairs_iff movieId interactions coverageAnchorUsers
  · intro rows h n entry hentry
    exact b.allPairedOnce_bounds h n hentry

/-- Four users rate one item, which is the anchor of each, under a cap of two and with a sample of
four for the extras: the pair of the two extras is written twice, so it is counted twice and its
weights sum to twice the product of its norms. -/
theorem pair_counted_twice :
  let b : UserSimilarityBuilder ℚ := {
    minUserItems := 1
    maxItemUsers := 2
    coverageAnchorItemsPerUser := 1
    coveragePairSampleSize := 4
    shardCount := 1
    outputFormat_mem := by decide
    topK_pos := by decide
    minCooccurrence_pos := by decide
    shardCount_pos := by decide
    shardBufferRows_pos := by decide
    minUserItems_pos := by decide
    minItemUsers_pos := by decide
    coverageAnchorItemsPerUser_nonneg := by decide
    coveragePairSampleSize_nonneg := by decide
    userStatsLogEvery_pos := by decide
    itemMappingLogEvery_pos := by decide
    shardLogDivisor_pos := by decide }
  let rows : List (RatingRow ℚ) := [⟨1, 10, 5, 1⟩, ⟨2, 10, 5, 2⟩, ⟨3, 10, 4, 3⟩, ⟨4, 10, 4, 9⟩]
  ¬ ((b.itemPairs 10 (b.itemInteractions rows 10) (b.itemAnchorUsers rows 10)).map
      PairContribution.pair).Nodup
    ∧ (⟨1, 4⟩, 2) ∈ PairReduction.pairCounts ((b.pairShards rows).files 0)
    ∧ (b.itemsOfBoth rows ⟨1, 4⟩).card = 1
    ∧ ((PairReduction.pairWeightSums ((b.pairShards rows).files 0)).lookup ⟨1, 4⟩).getD 0 = 2
    ∧ b.userNormSq rows 1 * b.userNormSq rows 4 = 1
  := by
  decide +kernel

end UserSimilarityBuilder

end OfflineDataProcessing
