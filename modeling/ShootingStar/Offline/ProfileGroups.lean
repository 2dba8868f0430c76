import Mathlib.Analysis.SpecialFunctions.Pow.Real
import ShootingStar.Offline.UserProfile

/-!
# What a profile holds

The ratings kept of a user fall into the liked, the interested, the negative and the neutral ones,
and the loop over the ratings collects the first three of these groups (`foldl_addInteraction`).
Each list of the profile is the beginning of a group in an order that is total on it, and the scores
of genres and tags are sums, so the profile does not depend on the order of the ratings
(`profileOf_perm`).

The profile of a user therefore depends only on which ratings the user gave (`buildProfile_groups`).
-/

namespace OfflineDataProcessing

variable {K : Type*} [Field K] [LinearOrder K]

/-- The entries are the first ones of a group in the order of a key, up to a positive limit. -/
def IsFirst {α β : Type*} [LT β] (key : α → β) (limit : ℤ) (group first : List α) : Prop :=
  ∃ sorted : List α, sorted.Perm group ∧ sorted.Pairwise (fun x y => key x < key y)
    ∧ first = capped limit sorted

theorem capped_map {α β : Type*} (g : α → β) (limit : ℤ) (l : List α) :
  capped limit (l.map g) = (capped limit l).map g
  := by
  rw [capped, capped]
  split
  · rw [List.map_take]
  · rfl

theorem filter_append_filter_perm {α : Type*} {p q r : α → Bool}
    (hr : ∀ x, r x = true ↔ p x = true ∨ q x = true) (hpq : ∀ x, p x = true → q x = false)
    (l : List α) :
  (l.filter p ++ l.filter q).Perm (l.filter r)
  := by
  induction l with
  | nil => exact List.Perm.refl _
  | cons x l ih =>
      cases hp : p x with
      | true =>
          have hx := (hr x).mpr (Or.inl hp)
          rw [List.filter_cons_of_pos hp, List.filter_cons_of_pos hx,
            List.filter_cons_of_neg (by simp [hpq x hp])]
          exact ih.cons x
      | false =>
          cases hq : q x with
          | true =>
              have hx := (hr x).mpr (Or.inr hq)
              rw [List.filter_cons_of_neg (by simp [hp]), List.filter_cons_of_pos hq,
                List.filter_cons_of_pos hx]
              exact List.perm_middle.trans (ih.cons x)
          | false =>
              have hx : ¬ r x = true := by simp [hr x, hp, hq]
              rw [List.filter_cons_of_neg (by simp [hp]), List.filter_cons_of_neg (by simp [hq]),
                List.filter_cons_of_neg hx]
              exact ih

namespace UserProfileBuilder

/-! ### The groups of the ratings -/

/-- The ratings from the positive minimum on. -/
def likedRatings (b : UserProfileBuilder K) (rows : List (RatingInteraction K)) :
    List (RatingInteraction K) :=
  rows.filter fun x => b.positiveMinRating ≤ x.rating

/-- The ratings between the two positive minima. -/
def interestedRatings (b : UserProfileBuilder K) (rows : List (RatingInteraction K)) :
    List (RatingInteraction K) :=
  rows.filter fun x => b.weakPositiveMinRating ≤ x.rating ∧ x.rating < b.positiveMinRating

/-- The ratings up to the negative maximum. -/
def negativeRatings (b : UserProfileBuilder K) (rows : List (RatingInteraction K)) :
    List (RatingInteraction K) :=
  rows.filter fun x => x.rating ≤ b.negativeMaxRating

/-- The ratings between the negative and the weak ones. -/
def neutralRatings (b : UserProfileBuilder K) (rows : List (RatingInteraction K)) :
    List (RatingInteraction K) :=
  rows.filter fun x => b.negativeMaxRating < x.rating ∧ x.rating < b.weakPositiveMinRating

/-- The weight of a liked rating. -/
def likedWeight (b : UserProfileBuilder K) (f : ProfileFunctions K) (latestTimestamp : ℤ)
    (x : RatingInteraction K) : K :=
  b.positiveRatingWeight x.rating * b.recencyWeight f x.timestamp latestTimestamp

/-- The weight of an interested rating. -/
def interestedWeight (b : UserProfileBuilder K) (f : ProfileFunctions K) (latestTimestamp : ℤ)
    (x : RatingInteraction K) : K :=
  b.weakPositiveRatingWeight x.rating * b.recencyWeight f x.timestamp latestTimestamp

/-- The weight of a negative rating. -/
def negativeWeight (b : UserProfileBuilder K) (f : ProfileFunctions K) (latestTimestamp : ℤ)
    (x : RatingInteraction K) : K :=
  b.negativeRatingWeight x.rating * b.recencyWeight f x.timestamp latestTimestamp

variable [FloorRing K]

/-- The items of ratings with these weights. -/
def itemsOf (weight : RatingInteraction K → K) (rows : List (RatingInteraction K)) :
    List (WeightedItem K) :=
  rows.map fun x => weightedItem x (weight x)

/-- A group of ratings of distinct items has distinct items. -/
theorem nodup_map_itemId {rows : List (RatingInteraction K)}
    (h : (rows.map (·.movieId)).Nodup) (weight : RatingInteraction K → K)
    (p : RatingInteraction K → Bool) :
  ((itemsOf weight (rows.filter p)).map (·.itemId)).Nodup
  := by
  rw [itemsOf, List.map_map]
  exact h.sublist (List.filter_sublist.map _)

/-- The loop over the ratings collects the groups. -/
theorem foldl_addInteraction (b : UserProfileBuilder K) (f : ProfileFunctions K)
    (latestTimestamp : ℤ) (rows : List (RatingInteraction K)) :
  rows.foldl (b.addInteraction f latestTimestamp) {}
    = { likedItems := itemsOf (b.likedWeight f latestTimestamp) (b.likedRatings rows)
        recentLikedItems := itemsOf (b.likedWeight f latestTimestamp) (b.likedRatings rows)
        interestedItems :=
          itemsOf (b.interestedWeight f latestTimestamp) (b.interestedRatings rows)
        negativeItems := itemsOf (b.negativeWeight f latestTimestamp) (b.negativeRatings rows)
        positiveInterestInputs :=
          (b.likedRatings rows).map fun x => (x, b.likedWeight f latestTimestamp x)
        negativeInterestInputs :=
          (b.negativeRatings rows).map fun x => (x, b.negativeWeight f latestTimestamp x)
        ratingsSum := (rows.map (·.rating)).sum
        positiveCount := (b.likedRatings rows).length
        weakPositiveCount := (b.interestedRatings rows).length
        negativeCount := (b.negativeRatings rows).length }
  := by
  induction rows using List.reverseRecOn with
  | nil => rfl
  | append_singleton rows x ih =>
      have hweak := b.weakPositiveMinRating_lt
      have hnegative := b.negativeMaxRating_lt
      rw [List.foldl_concat, ih]
      by_cases hliked : b.positiveMinRating ≤ x.rating
      · have hinterested : ¬ x.rating < b.positiveMinRating := not_lt.mpr hliked
        have hlow : ¬ x.rating ≤ b.negativeMaxRating :=
          not_le.mpr ((hnegative.trans hweak).trans_le hliked)
        simp [addInteraction, likedRatings, interestedRatings, negativeRatings, itemsOf,
          likedWeight, hliked, hinterested, hlow]
      · by_cases hinterested : b.weakPositiveMinRating ≤ x.rating
        · have hlow : ¬ x.rating ≤ b.negativeMaxRating := not_le.mpr (hnegative.trans_le hinterested)
          simp [addInteraction, likedRatings, interestedRatings, negativeRatings, itemsOf,
            interestedWeight, hliked, hinterested, hlow, not_le.mp hliked]
        · by_cases hlow : x.rating ≤ b.negativeMaxRating
          · simp [addInteraction, likedRatings, interestedRatings, negativeRatings, itemsOf,
              negativeWeight, hliked, hinterested, hlow]
          · simp [addInteraction, likedRatings, interestedRatings, negativeRatings, itemsOf,
              hliked, hinterested, hlow]

omit [FloorRing K] in
/-- Every rating is in one of the groups. -/
theorem groups_perm (b : UserProfileBuilder K) (rows : List (RatingInteraction K)) :
  (b.likedRatings rows ++ (b.interestedRatings rows ++ (b.negativeRatings rows
    ++ b.neutralRatings rows))).Perm rows
  := by
  have hweak := b.weakPositiveMinRating_lt
  have hnegative := b.negativeMaxRating_lt
  have hlow : (b.negativeRatings rows ++ b.neutralRatings rows).Perm
      (rows.filter fun x => x.rating < b.weakPositiveMinRating) := by
    apply filter_append_filter_perm
    · intro x
      simp only [decide_eq_true_eq]
      constructor
      · intro h
        exact (le_or_gt x.rating b.negativeMaxRating).imp id fun hlt => ⟨hlt, h⟩
      · rintro (h | h)
        · exact h.trans_lt hnegative
        · exact h.2
    · intro x h
      simp only [decide_eq_true_eq, decide_eq_false_iff_not] at h ⊢
      intro hneutral
      exact absurd h (not_le.mpr hneutral.1)
  have hmiddle : (b.interestedRatings rows
      ++ rows.filter fun x => x.rating < b.weakPositiveMinRating).Perm
      (rows.filter fun x => x.rating < b.positiveMinRating) := by
    apply filter_append_filter_perm
    · intro x
      simp only [decide_eq_true_eq]
      constructor
      · intro h
        exact (le_or_gt b.weakPositiveMinRating x.rating).imp (fun hle => ⟨hle, h⟩) id
      · rintro (h | h)
        · exact h.2
        · exact h.trans hweak
    · intro x h
      simp only [decide_eq_true_eq, decide_eq_false_iff_not] at h ⊢
      exact not_lt.mpr h.1
  have hall : (b.likedRatings rows
      ++ rows.filter fun x => x.rating < b.positiveMinRating).Perm (rows.filter fun _ => true) := by
    apply filter_append_filter_perm
    · intro x
      simp only [decide_eq_true_eq, true_iff]
      exact le_or_gt b.positiveMinRating x.rating
    · intro x h
      simp only [decide_eq_true_eq, decide_eq_false_iff_not] at h ⊢
      exact not_lt.mpr h
  rw [List.filter_true] at hall
  exact (((hlow.append_left _).trans hmiddle).append_left _).trans hall

/-! ### Lists in order -/

omit [Field K] [LinearOrder K] [FloorRing K] in
/-- Keys that end with distinct identifiers are distinct. -/
theorem nodup_map_key {α β γ δ : Type*} {key : α → β ×ₗ γ ×ₗ δ} (id : α → δ)
    (hid : ∀ x, (ofLex (ofLex (key x)).2).2 = id x) {l : List α} (h : (l.map id).Nodup) :
  (l.map key).Nodup
  := by
  apply List.Nodup.of_map fun k => (ofLex (ofLex k).2).2
  have hcomp : (fun k => (ofLex (ofLex k).2).2) ∘ key = id := funext hid
  rwa [List.map_map, hcomp]

omit [Field K] [LinearOrder K] [FloorRing K] in
theorem isFirst_sortBy {α β : Type*} [LinearOrder β] {lt : α → α → Bool} {key : α → β}
    (hlt : Ranked.Compares lt key) {l : List α} (h : (l.map key).Nodup) (limit : ℤ) :
  IsFirst key limit l (capped limit (Ranked.sortBy lt l))
  := ⟨Ranked.sortBy lt l, Ranked.sortBy_perm lt l, Ranked.pairwise_lt_sortBy hlt h, rfl⟩

omit [FloorRing K] in
theorem isFirst_rankWeightedItems {items : List (WeightedItem K)}
    (h : (items.map (·.itemId)).Nodup) (limit : ℤ) :
  IsFirst WeightedItem.weightKey limit items (rankWeightedItems items limit false)
    ∧ IsFirst WeightedItem.recentKey limit items (rankWeightedItems items limit true)
  := by
  constructor
  · apply isFirst_sortBy (fun _ _ => decide_eq_true_iff)
    exact nodup_map_key (·.itemId) (fun _ => rfl) h
  · apply isFirst_sortBy (fun _ _ => decide_eq_true_iff)
    exact nodup_map_key (·.itemId) (fun _ => rfl) h

omit [FloorRing K] in
/-- Ranked items do not depend on the order of the items. -/
theorem rankWeightedItems_perm {items items' : List (WeightedItem K)}
    (hnodup : (items.map (·.itemId)).Nodup) (h : items'.Perm items) (limit : ℤ)
    (recentFirst : Bool) :
  rankWeightedItems items' limit recentFirst = rankWeightedItems items limit recentFirst
  := by
  have hweight : Ranked.sortBy (fun x y : WeightedItem K => decide (x.weightKey < y.weightKey)) items
      = Ranked.sortBy (fun x y => decide (x.weightKey < y.weightKey)) items' := by
    apply Ranked.sortBy_eq_of_perm (fun _ _ => decide_eq_true_iff) _ h.symm
    exact nodup_map_key (·.itemId) (fun _ => rfl) hnodup
  have hrecent : Ranked.sortBy (fun x y : WeightedItem K => decide (x.recentKey < y.recentKey)) items
      = Ranked.sortBy (fun x y => decide (x.recentKey < y.recentKey)) items' := by
    apply Ranked.sortBy_eq_of_perm (fun _ _ => decide_eq_true_iff) _ h.symm
    exact nodup_map_key (·.itemId) (fun _ => rfl) hnodup
  rw [rankWeightedItems, rankWeightedItems, hweight, hrecent]

omit [FloorRing K] in
/-- The items rated do not depend on the order of the ratings. -/
theorem ratedItems_perm (b : UserProfileBuilder K) {rows rows' : List (RatingInteraction K)}
    (hnodup : (rows.map (·.movieId)).Nodup) (h : rows'.Perm rows) :
  b.ratedItems rows' = b.ratedItems rows
  := by
  have hseen : Ranked.sortBy (fun x y : RatingInteraction K => decide (x.seenKey < y.seenKey)) rows
      = Ranked.sortBy (fun x y => decide (x.seenKey < y.seenKey)) rows' := by
    apply Ranked.sortBy_eq_of_perm (fun _ _ => decide_eq_true_iff) _ h.symm
    exact nodup_map_key (·.movieId) (fun _ => rfl) hnodup
  rw [ratedItems, ratedItems, hseen]

/-! ### Genres and tags in any order -/

omit [LinearOrder K] [FloorRing K] in
theorem addShare_comm (x y : InterestShare K) (o : Option (InterestAccumulator K)) :
  addShare y (some (addShare x o)) = addShare x (some (addShare y o))
  := by
  simp only [addShare, Option.getD_some, InterestAccumulator.mk.injEq]
  exact ⟨add_right_comm _ _ _, trivial, max_right_comm _ _ _⟩

omit [LinearOrder K] [FloorRing K] in
/-- The scores of genres or tags do not depend on the order of the ratings. -/
theorem collect_addShare_perm {inputs inputs' : List (RatingInteraction K × K)}
    (h : inputs'.Perm inputs) (shares : RatingInteraction K × K → List (InterestShare K)) :
  (Keyed.collect InterestShare.name addShare (inputs'.flatMap shares)).Perm
    (Keyed.collect InterestShare.name addShare (inputs.flatMap shares))
  := by
  apply Keyed.collect_perm addShare_comm
  exact h.flatMap_right shares

/-- The rows of genres or tags do not depend on their order. -/
theorem materialize_perm (b : UserProfileBuilder K)
    {scores scores' : List (String × InterestAccumulator K)}
    (hnodup : (scores.map Prod.fst).Nodup) (h : scores'.Perm scores) (limit : ℤ) :
  b.materialize scores' limit = b.materialize scores limit
  := by
  have hmax := Greatest.max?_eq_of_perm (h.map fun entry => entry.2.score)
  have hsort : ∀ maxScore, Ranked.sortBy (fun x y : InterestRow K => decide (x.key < y.key))
      (scores.map (b.interestRow maxScore))
      = Ranked.sortBy (fun x y => decide (x.key < y.key)) (scores'.map (b.interestRow maxScore)) := by
    intro maxScore
    apply Ranked.sortBy_eq_of_perm (fun _ _ => decide_eq_true_iff) _ (h.symm.map _)
    apply nodup_map_key (·.name) (fun _ => rfl)
    rw [List.map_map]
    exact hnodup
  rw [materialize, materialize, hmax]
  simp only [hsort]

omit [FloorRing K] in
theorem interestEntropy_perm (f : ProfileFunctions K)
    {scores scores' : List (String × InterestAccumulator K)} (h : scores'.Perm scores) :
  interestEntropy f scores' = interestEntropy f scores
  := by
  have hpositive := (h.map fun entry => entry.2.score).filter (0 < ·)
  rw [interestEntropy, interestEntropy]
  simp only [hpositive.length_eq, hpositive.sum_eq, (hpositive.map _).sum_eq]

/-! ### The profile in any order -/

/-- The statistics do not depend on the order of the ratings. -/
theorem profileStats_perm (b : UserProfileBuilder K) (f : ProfileFunctions K)
    {rows rows' : List (RatingInteraction K)} (h : rows'.Perm rows)
    (latestTimestamp earliestTimestamp : ℤ) {groups groups' : RatingGroups K}
    (hsum : groups'.ratingsSum = groups.ratingsSum)
    (hpositive : groups'.positiveCount = groups.positiveCount)
    (hweak : groups'.weakPositiveCount = groups.weakPositiveCount)
    (hnegative : groups'.negativeCount = groups.negativeCount)
    {scores scores' : List (String × InterestAccumulator K)} (hscores : scores'.Perm scores) :
  b.profileStats f rows' latestTimestamp earliestTimestamp groups' scores'
    = b.profileStats f rows latestTimestamp earliestTimestamp groups scores
  := by
  rw [profileStats, profileStats]
  simp only [h.length_eq, hsum, hpositive, hweak, hnegative, (h.map _).sum_eq,
    interestEntropy_perm f hscores]

/-- The profile does not depend on the order of the ratings kept. -/
theorem profileOf_perm (b : UserProfileBuilder K) (f : ProfileFunctions K) (userId : ℤ)
    {rows rows' : List (RatingInteraction K)} (hnodup : (rows.map (·.movieId)).Nodup)
    (h : rows'.Perm rows) (movieGenres : List (ℤ × List String))
    (movieTopTags : List (ℤ × List (MovieTag K))) (latestTimestamp earliestTimestamp : ℤ) :
  b.profileOf f userId rows' movieGenres movieTopTags latestTimestamp earliestTimestamp
    = b.profileOf f userId rows movieGenres movieTopTags latestTimestamp earliestTimestamp
  := by
  have hids := nodup_map_itemId hnodup
  have hitems : ∀ (weight : RatingInteraction K → K) (p : RatingInteraction K → Bool),
      (itemsOf weight (rows'.filter p)).Perm (itemsOf weight (rows.filter p)) :=
    fun weight p => (h.filter p).map _
  have hnames : ∀ (inputs : List (RatingInteraction K × K))
      (shares : RatingInteraction K × K → List (InterestShare K)),
      ((Keyed.collect InterestShare.name addShare (inputs.flatMap shares)).map Prod.fst).Nodup := by
    intro inputs shares
    rw [Keyed.map_fst_collect]
    apply Keyed.nodup_eraseDups
  have hscores : ∀ (weight : RatingInteraction K → K) (p : RatingInteraction K → Bool)
      (shares : RatingInteraction K × K → List (InterestShare K)),
      (Keyed.collect InterestShare.name addShare
        (((rows'.filter p).map fun x => (x, weight x)).flatMap shares)).Perm
      (Keyed.collect InterestShare.name addShare
        (((rows.filter p).map fun x => (x, weight x)).flatMap shares)) :=
    fun weight p shares => collect_addShare_perm ((h.filter p).map _) shares
  rw [profileOf, profileOf, foldl_addInteraction, foldl_addInteraction]
  dsimp only [buildInterestMap, materializeGenres, materializeTags, likedRatings,
    interestedRatings, negativeRatings]
  rw [b.materialize_perm (hnames _ _) (hscores _ _ _), b.materialize_perm (hnames _ _)
    (hscores _ _ _), b.materialize_perm (hnames _ _) (hscores _ _ _),
    b.materialize_perm (hnames _ _) (hscores _ _ _), rankWeightedItems_perm (hids _ _) (hitems _ _),
    rankWeightedItems_perm (hids _ _) (hitems _ _), rankWeightedItems_perm (hids _ _) (hitems _ _),
    rankWeightedItems_perm (hids _ _) (hitems _ _), b.ratedItems_perm hnodup h]
  congr 1
  apply b.profileStats_perm f h
  · exact (h.map _).sum_eq
  · exact (h.filter _).length_eq
  · exact (h.filter _).length_eq
  · exact (h.filter _).length_eq
  · apply hscores

/-! ### What a profile holds -/

/-- What the profile of ratings holds: `rows` are the ratings kept, and `latestTimestamp` is the
latest of their times. -/
structure Holds (b : UserProfileBuilder K) (f : ProfileFunctions K)
    (ratings rows : List (RatingInteraction K)) (latestTimestamp : ℤ) (profile : UserProfile K) :
    Prop where
  nodup : (rows.map (·.movieId)).Nodup
  mem_rows : ∀ x, x ∈ rows
    ↔ x ∈ ratings ∧ ∀ y ∈ ratings, y.movieId = x.movieId → y.strength ≤ x.strength
  latest : latestTimestamp ∈ rows.map (·.timestamp) ∧ ∀ x ∈ rows, x.timestamp ≤ latestTimestamp
  groups : (b.likedRatings rows ++ (b.interestedRatings rows ++ (b.negativeRatings rows
    ++ b.neutralRatings rows))).Perm rows
  likedItems : IsFirst WeightedItem.weightKey b.maxLikedItems
    (itemsOf (b.likedWeight f latestTimestamp) (b.likedRatings rows)) profile.behaviors.likedItems
  recentLikedItems : IsFirst WeightedItem.recentKey b.maxRecentLikedItems
    (itemsOf (b.likedWeight f latestTimestamp) (b.likedRatings rows))
    profile.behaviors.recentLikedItems
  interestedItems : IsFirst WeightedItem.weightKey b.maxInterestedItems
    (itemsOf (b.interestedWeight f latestTimestamp) (b.interestedRatings rows))
    profile.behaviors.interestedItems
  negativeItems : IsFirst WeightedItem.weightKey b.maxNegativeItems
    (itemsOf (b.negativeWeight f latestTimestamp) (b.negativeRatings rows))
    profile.negativeFeedbacks.items
  ratedItems : ∃ seen, IsFirst RatingInteraction.seenKey b.maxRatedItems rows seen
    ∧ profile.behaviors.ratedItems = seen.map (·.movieId)
  positiveRatingCount : profile.stats.positiveRatingCount = (b.likedRatings rows).length
  weakPositiveRatingCount :
    profile.stats.weakPositiveRatingCount = (b.interestedRatings rows).length
  negativeRatingCount : profile.stats.negativeRatingCount = (b.negativeRatings rows).length
  ratingCount : profile.stats.ratingCount = (ratings.map (·.movieId)).toFinset.card
  counts_le : profile.stats.positiveRatingCount + profile.stats.weakPositiveRatingCount
    + profile.stats.negativeRatingCount ≤ profile.stats.ratingCount

omit [Field K] [LinearOrder K] [FloorRing K] in
theorem eq_of_strength_eq (x y : RatingInteraction K) (hmovie : x.movieId = y.movieId)
    (hstrength : x.strength = y.strength) :
  x = y
  := by
  obtain ⟨htime, hrating⟩ := Prod.mk.inj (toLex.injective hstrength)
  cases x
  cases y
  simp_all

/-- What the profile of the ratings kept holds. -/
theorem holds_profileOf (b : UserProfileBuilder K) (f : ProfileFunctions K) (userId : ℤ)
    (ratings : List (RatingInteraction K)) (movieGenres : List (ℤ × List String))
    (movieTopTags : List (ℤ × List (MovieTag K))) {latestTimestamp : ℤ} (earliestTimestamp : ℤ)
    (hlatest : ((dedupeInteractions ratings).map (·.timestamp)).max? = some latestTimestamp) :
  b.Holds f ratings (dedupeInteractions ratings) latestTimestamp
    (b.profileOf f userId (dedupeInteractions ratings) movieGenres movieTopTags latestTimestamp
      earliestTimestamp)
  := by
  have hnodup : ((dedupeInteractions ratings).map (·.movieId)).Nodup :=
    Greatest.nodup_map_key_greatest _ _ _
  have hids := nodup_map_itemId hnodup
  have hgroups := b.groups_perm (dedupeInteractions ratings)
  have hcount := hgroups.length_eq
  simp only [List.length_append] at hcount
  rw [profileOf, foldl_addInteraction]
  constructor
  case nodup => exact hnodup
  case mem_rows =>
    intro x
    apply Greatest.mem_greatest_iff
    intro x _ y _
    apply eq_of_strength_eq
  case latest =>
    obtain ⟨hmem, hle⟩ := List.max?_eq_some_iff.mp hlatest
    exact ⟨hmem, fun x hx => hle _ (List.mem_map_of_mem hx)⟩
  case groups => exact hgroups
  case likedItems => exact (isFirst_rankWeightedItems (hids _ _) _).1
  case recentLikedItems => exact (isFirst_rankWeightedItems (hids _ _) _).2
  case interestedItems => exact (isFirst_rankWeightedItems (hids _ _) _).1
  case negativeItems => exact (isFirst_rankWeightedItems (hids _ _) _).1
  case ratedItems =>
    use capped b.maxRatedItems (Ranked.sortBy (fun x y => x.seenKey < y.seenKey)
      (dedupeInteractions ratings))
    constructor
    · apply isFirst_sortBy (fun _ _ => decide_eq_true_iff)
      exact nodup_map_key (·.movieId) (fun _ => rfl) hnodup
    · exact capped_map _ _ _
  case positiveRatingCount => rfl
  case weakPositiveRatingCount => rfl
  case negativeRatingCount => rfl
  case ratingCount =>
    rw [Keyed.card_toFinset, ← Greatest.map_key_greatest _ RatingInteraction.strength,
      List.length_map]
    rfl
  case counts_le =>
    show _ + _ + _ ≤ (dedupeInteractions ratings).length
    dsimp only [profileStats]
    omega

end UserProfileBuilder

end OfflineDataProcessing
