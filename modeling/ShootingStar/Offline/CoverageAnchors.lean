import ShootingStar.Offline.UserSimilarity

/-!
# Coverage anchors

The heap of the anchors of a user holds its best ratings, and its items are the anchors.  Ratings of
one item each take a place of the heap, and an item is ranked by the number of its ratings.  A user
has all the anchors it should have, its best items by the number of users who rated them, exactly
when its best ratings are of different items or of all its items and counting ratings instead of
users does not change which items are the best (`fullyAnchored_iff`).
-/

namespace OfflineDataProcessing

variable {K : Type*} [Field K] [LinearOrder K]

namespace UserSimilarityBuilder.Thresholds

/-! ### The anchors of a user -/

/-- The positive ratings of a user. -/
def userRatings (t : Thresholds K) (rows : List (RatingRow K)) (userId : ℤ) :
    List (PositiveRating K) :=
  (t.iterPositiveRatings rows).filter (·.userId = userId)

/-- The items that have a user as an anchor user. -/
def anchorItems (t : Thresholds K) (rows : List (RatingRow K)) (userId : ℤ) : List ℤ :=
  let stats := t.buildUserStats rows
  ((t.buildCoverageAnchorUsersByItem stats.validUsers stats.itemUserCounts rows).filter
    fun entry => userId ∈ entry.2).map Prod.fst

/-- The numbers of the users who rated the items positively. -/
def itemRaterCounts (t : Thresholds K) (rows : List (RatingRow K)) : List (ℤ × ℕ) :=
  (Keyed.groups PositiveRating.movieId (t.iterPositiveRatings rows)).map fun group =>
    (group.1, (group.2.map (·.userId)).toFinset.card)

/-- The entries of ratings, the best first. -/
def bestEntries (counts : List (ℤ × ℕ)) (ratings : List (PositiveRating K)) :
    List (AnchorEntry K) :=
  Ranked.sortBy (fun x y => y.rank < x.rank) (ratings.map (anchorEntry counts))

/-- The items of ratings in the order of their best entries. -/
def bestItems (counts : List (ℤ × ℕ)) (ratings : List (PositiveRating K)) : List ℤ :=
  ((bestEntries counts ratings).map (·.movieId)).eraseDups

/-- The user has as many anchors as it can have, its best items by the numbers of their raters. -/
def FullyAnchored (t : Thresholds K) (rows : List (RatingRow K)) (userId : ℤ) : Prop :=
  (t.anchorItems rows userId).length
      = min t.coverageAnchorItemsPerUser.toNat
          ((t.userRatings rows userId).map (·.movieId)).toFinset.card
    ∧ ∀ movieId, movieId ∈ t.anchorItems rows userId
      ↔ movieId ∈ (bestItems (t.itemRaterCounts rows) (t.userRatings rows userId)).take
          t.coverageAnchorItemsPerUser.toNat

/-- The best ratings of the user are of different items or of all its items. -/
def NoPlaceWasted (t : Thresholds K) (rows : List (RatingRow K)) (userId : ℤ) : Prop :=
  let best := ((bestEntries (t.buildUserStats rows).itemUserCounts
    (t.userRatings rows userId)).take t.coverageAnchorItemsPerUser.toNat).map (·.movieId)
  best.Nodup ∨ ∀ rating ∈ t.userRatings rows userId, rating.movieId ∈ best

/-- The best items of the user are the same by the numbers of ratings and by the numbers of
raters. -/
def SameBestItems (t : Thresholds K) (rows : List (RatingRow K)) (userId : ℤ) : Prop :=
  ∀ movieId,
    movieId ∈ (bestItems (t.buildUserStats rows).itemUserCounts (t.userRatings rows userId)).take
        t.coverageAnchorItemsPerUser.toNat
      ↔ movieId ∈ (bestItems (t.itemRaterCounts rows) (t.userRatings rows userId)).take
        t.coverageAnchorItemsPerUser.toNat

/-! ### The order of the items -/

omit [Field K] [LinearOrder K] in
theorem rank_injective :
  Function.Injective (AnchorEntry.rank : AnchorEntry K → _)
  := by
  intro x y h
  simp only [AnchorEntry.rank, toLex_inj, Prod.mk.injEq, neg_inj, Int.natCast_inj] at h
  obtain ⟨hcount, hweight, htime, hrank, hmovie⟩ := h
  cases x
  cases y
  simp_all

omit [Field K] in
theorem compares_rank :
  Ranked.Compares (fun x y : AnchorEntry K => decide (y.rank < x.rank))
    (fun x => OrderDual.toDual x.rank)
  := by
  intro x y
  rw [decide_eq_true_iff, OrderDual.toDual_lt_toDual]

/-! ### The heap of a user -/

/-- The heap of a user holds the best ones of its entries. -/
theorem mem_top_iff (t : Thresholds K) (hpos : 0 < t.coverageAnchorItemsPerUser)
    (counts : List (ℤ × ℕ)) (ratings : List (PositiveRating K)) (x : AnchorEntry K) :
  x ∈ TopK.top t.coverageAnchorItemsPerUser AnchorEntry.rank (ratings.map (anchorEntry counts))
    ↔ x ∈ (bestEntries counts ratings).take t.coverageAnchorItemsPerUser.toNat
  := by
  rw [bestEntries, ← TopK.sortBy_top hpos compares_rank (fun _ _ _ _ h => rank_injective h),
    Ranked.mem_sortBy]

omit [Field K] [LinearOrder K] in
/-- The users added to the anchor users of an item. -/
theorem mem_accumulate_addAnchorUser (assignments : List (ℤ × ℤ)) (userId : ℤ) :
  userId ∈ (Keyed.accumulate addAnchorUser assignments).getD []
    ↔ userId ∈ assignments.map Prod.snd
  := by
  induction assignments using List.reverseRecOn with
  | nil => simp
  | append_singleton assignments assignment ih =>
      rw [Keyed.accumulate_concat, Option.getD_some, addAnchorUser, List.map_append,
        List.mem_append, ← ih]
      split
      · rename_i h
        constructor
        · exact Or.inl
        · rintro (hmem | hmem)
          · exact hmem
          · rwa [List.mem_singleton.mp hmem]
      · rw [List.mem_append]
        rfl

theorem nodup_anchorUsers (t : Thresholds K) (rows : List (RatingRow K)) :
  ((t.buildCoverageAnchorUsersByItem (t.buildUserStats rows).validUsers
    (t.buildUserStats rows).itemUserCounts rows).map Prod.fst).Nodup
  := by
  rw [buildCoverageAnchorUsersByItem]
  split
  · exact List.nodup_nil
  · split
    · exact List.nodup_nil
    · rw [Keyed.map_fst_collect]
      apply Keyed.nodup_eraseDups

/-- The items of a user are those that have it as an anchor user. -/
theorem mem_anchorItems (t : Thresholds K) (rows : List (RatingRow K)) (userId movieId : ℤ) :
  movieId ∈ t.anchorItems rows userId ↔ userId ∈ t.itemAnchorUsers rows movieId
  := by
  have hkeys := t.nodup_anchorUsers rows
  rw [anchorItems, itemAnchorUsers, anchorUsers]
  constructor
  · intro h
    obtain ⟨entry, hentry, rfl⟩ := List.mem_map.mp h
    obtain ⟨hentry, huser⟩ := List.mem_filter.mp hentry
    rw [Keyed.lookup_eq_of_mem hkeys hentry]
    exact of_decide_eq_true huser
  · intro h
    cases hlookup : (t.buildCoverageAnchorUsersByItem (t.buildUserStats rows).validUsers
        (t.buildUserStats rows).itemUserCounts rows).lookup movieId with
    | none =>
        rw [hlookup] at h
        cases h
    | some users =>
        rw [hlookup] at h
        have hentry := Keyed.mem_of_lookup_eq hlookup
        apply List.mem_map.mpr ⟨(movieId, users), _, rfl⟩
        exact List.mem_filter.mpr ⟨hentry, decide_eq_true h⟩

/-- The assignments of the heaps of all users. -/
theorem mem_assignments_iff (t : Thresholds K) (hpos : 0 < t.coverageAnchorItemsPerUser)
    (counts : List (ℤ × ℕ)) (ratings : List (PositiveRating K)) (userId movieId : ℤ) :
  (movieId, userId) ∈ (Keyed.collect PositiveRating.userId (fun rating heap =>
      TopK.offer t.coverageAnchorItemsPerUser AnchorEntry.rank (heap.getD [])
        (anchorEntry counts rating)) ratings).flatMap
      (fun entry => entry.2.map fun anchor => (anchor.movieId, entry.1))
    ↔ userId ∈ ratings.map PositiveRating.userId
      ∧ movieId ∈ ((bestEntries counts (ratings.filter (·.userId = userId))).take
          t.coverageAnchorItemsPerUser.toNat).map (·.movieId)
  := by
  have hheaps := Keyed.mem_collect_getD PositiveRating.userId []
    (fun (heap : List (AnchorEntry K)) (rating : PositiveRating K) =>
      TopK.offer t.coverageAnchorItemsPerUser AnchorEntry.rank heap (anchorEntry counts rating))
    ratings
  have htop := t.mem_top_iff hpos counts (ratings.filter (·.userId = userId))
  rw [TopK.top, List.foldl_map] at htop
  simp only [List.mem_flatMap, List.mem_map (b := movieId), ← htop]
  constructor
  · rintro ⟨⟨user, heap⟩, hentry, hanchor⟩
    obtain ⟨anchor, hheap, heq⟩ := List.mem_map.mp hanchor
    obtain ⟨rfl, rfl⟩ := Prod.mk.inj heq
    obtain ⟨hkey, rfl⟩ := (hheaps user heap).mp hentry
    exact ⟨hkey, anchor, hheap, rfl⟩
  · rintro ⟨hkey, anchor, hheap, rfl⟩
    refine ⟨_, (hheaps userId _).mpr ⟨hkey, rfl⟩, ?_⟩
    exact List.mem_map.mpr ⟨anchor, hheap, rfl⟩

/-- The anchor users of an item are the valid users with the item in their heaps. -/
theorem mem_itemAnchorUsers (t : Thresholds K) (hpos : 0 < t.coverageAnchorItemsPerUser)
    (hcap : 0 < t.maxItemUsers) {rows : List (RatingRow K)} {userId : ℤ}
    (huser : userId ∈ (t.buildUserStats rows).validUsers) (movieId : ℤ) :
  userId ∈ t.itemAnchorUsers rows movieId
    ↔ movieId ∈ ((bestEntries (t.buildUserStats rows).itemUserCounts
        (t.userRatings rows userId)).take t.coverageAnchorItemsPerUser.toNat).map (·.movieId)
  := by
  have hratings : ((t.iterPositiveRatings rows).filter
      (·.userId ∈ (t.buildUserStats rows).validUsers)).filter (·.userId = userId)
      = t.userRatings rows userId := by
    rw [userRatings, List.filter_filter]
    apply List.filter_congr
    intro rating _
    by_cases h : rating.userId = userId
    · simp [h, huser]
    · simp [h]
  have hkey : userId ∈ ((t.iterPositiveRatings rows).filter
      (·.userId ∈ (t.buildUserStats rows).validUsers)).map PositiveRating.userId := by
    obtain ⟨rating, hrating, hid⟩ := List.mem_map.mp ((mem_validKeys _ _ _ _).mp huser).1
    apply List.mem_map.mpr ⟨rating, _, hid⟩
    exact List.mem_filter.mpr ⟨hrating, decide_eq_true (hid ▸ huser)⟩
  have hassignments := t.mem_assignments_iff hpos (t.buildUserStats rows).itemUserCounts
    ((t.iterPositiveRatings rows).filter (·.userId ∈ (t.buildUserStats rows).validUsers)) userId
    movieId
  rw [hratings, and_iff_right hkey] at hassignments
  rw [← hassignments, itemAnchorUsers, anchorUsers, buildCoverageAnchorUsersByItem,
    if_neg (not_le.mpr hpos), if_neg (not_le.mpr hcap)]
  dsimp only
  rw [Keyed.lookup_collect, mem_accumulate_addAnchorUser, List.mem_map]
  constructor
  · rintro ⟨⟨movie, user⟩, hassignment, rfl⟩
    obtain ⟨hassignment, hmovie⟩ := List.mem_filter.mp hassignment
    rwa [← of_decide_eq_true hmovie]
  · intro h
    use (movieId, userId), List.mem_filter.mpr ⟨h, decide_eq_true rfl⟩

/-! ### When a user has all its anchors -/

omit [Field K] in
theorem map_movieId_bestEntries_perm (counts : List (ℤ × ℕ)) (ratings : List (PositiveRating K)) :
  ((bestEntries counts ratings).map (·.movieId)).Perm (ratings.map (·.movieId))
  := by
  rw [bestEntries]
  apply ((Ranked.sortBy_perm _ _).map _).trans
  rw [List.map_map]
  rfl

theorem noPlaceWasted_iff (t : Thresholds K) (rows : List (RatingRow K)) (userId : ℤ) :
  t.NoPlaceWasted rows userId
    ↔ ((((bestEntries (t.buildUserStats rows).itemUserCounts (t.userRatings rows userId)).map
        (·.movieId)).take t.coverageAnchorItemsPerUser.toNat).eraseDups).length
      = min t.coverageAnchorItemsPerUser.toNat
          ((t.userRatings rows userId).map (·.movieId)).toFinset.card
  := by
  have hperm := map_movieId_bestEntries_perm (t.buildUserStats rows).itemUserCounts
    (t.userRatings rows userId)
  rw [Keyed.card_toFinset, ← (Keyed.eraseDups_perm hperm).length_eq,
    Keyed.length_eraseDups_take_iff, NoPlaceWasted, ← List.map_take]
  apply or_congr Iff.rfl
  constructor
  · intro h movieId hmovie
    obtain ⟨rating, hrating, rfl⟩ := List.mem_map.mp (hperm.mem_iff.mp hmovie)
    exact h rating hrating
  · intro h rating hrating
    exact h (hperm.mem_iff.mpr (List.mem_map_of_mem hrating))

/-- A valid user has all its anchors exactly when no place of its heap is wasted and its best items
are the same by the numbers of ratings and by the numbers of raters. -/
theorem fullyAnchored_iff (t : Thresholds K) (hpos : 0 < t.coverageAnchorItemsPerUser)
    (hcap : 0 < t.maxItemUsers) {rows : List (RatingRow K)} {userId : ℤ}
    (huser : userId ∈ (t.buildUserStats rows).validUsers) :
  t.FullyAnchored rows userId ↔ t.NoPlaceWasted rows userId ∧ t.SameBestItems rows userId
  := by
  have hmem : ∀ movieId, movieId ∈ t.anchorItems rows userId
      ↔ movieId ∈ (((bestEntries (t.buildUserStats rows).itemUserCounts
        (t.userRatings rows userId)).map (·.movieId)).take
          t.coverageAnchorItemsPerUser.toNat).eraseDups := by
    intro movieId
    rw [mem_anchorItems, t.mem_itemAnchorUsers hpos hcap huser, List.mem_eraseDups, List.map_take]
  have hnodup : (t.anchorItems rows userId).Nodup := by
    rw [anchorItems]
    exact (t.nodup_anchorUsers rows).sublist (List.filter_sublist.map _)
  have hlength := ((List.perm_ext_iff_of_nodup hnodup (Keyed.nodup_eraseDups _)).mpr hmem).length_eq
  rw [FullyAnchored, hlength, t.noPlaceWasted_iff]
  apply and_congr_right
  intro hplaces
  rw [Keyed.card_toFinset, ← (Keyed.eraseDups_perm (map_movieId_bestEntries_perm
    (t.buildUserStats rows).itemUserCounts _)).length_eq] at hplaces
  simp only [hmem, Keyed.eraseDups_take hplaces]
  rfl

/-- A user who rated two items, each once, has the item with fewer raters as its anchor. -/
theorem fullyAnchored_two_items :
  let t : Thresholds ℚ := { minUserItems := 1, coverageAnchorItemsPerUser := 1 }
  let rows : List (RatingRow ℚ) := [⟨1, 20, 5, 1⟩, ⟨1, 10, 4, 2⟩, ⟨2, 20, 5, 3⟩]
  t.anchorItems rows 1 = [10] ∧ t.FullyAnchored rows 1
  := by
  intro t rows
  constructor
  · decide +kernel
  · apply (t.fullyAnchored_iff (by decide) (by decide) (by decide +kernel)).mpr
    constructor
    · left
      decide +kernel
    · have hsame : bestItems (t.buildUserStats rows).itemUserCounts (t.userRatings rows 1)
          = bestItems (t.itemRaterCounts rows) (t.userRatings rows 1) := by decide +kernel
      intro movieId
      rw [hsame]

/-- A user rates one item twice and another one once: with two anchors for each user both places of
its heap go to the first item, so the user has one anchor. -/
theorem not_fullyAnchored_repeated_rating :
  let t : Thresholds ℚ := { minUserItems := 1, coverageAnchorItemsPerUser := 2 }
  let rows : List (RatingRow ℚ) :=
    [⟨1, 10, 5, 1⟩, ⟨1, 10, 4, 2⟩, ⟨1, 20, 5, 3⟩, ⟨2, 20, 5, 4⟩, ⟨3, 20, 5, 5⟩]
  (0 < t.coverageAnchorItemsPerUser ∧ 0 < t.maxItemUsers)
    ∧ 1 ∈ (t.buildUserStats rows).validUsers
    ∧ t.anchorItems rows 1 = [10]
    ∧ ((t.userRatings rows 1).map (·.movieId)).toFinset.card = 2
    ∧ ¬ t.FullyAnchored rows 1
  := by
  intro t rows
  refine ⟨by decide, by decide +kernel, by decide +kernel, by decide +kernel, ?_⟩
  rintro ⟨hlength, -⟩
  revert hlength
  decide +kernel

end UserSimilarityBuilder.Thresholds

end OfflineDataProcessing
