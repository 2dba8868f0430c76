import Mathlib.Algebra.Order.BigOperators.Group.List
import Mathlib.Algebra.Order.Field.Basic
import ShootingStar.Lib.Keyed

/-!
# Ratings

The builders read the ratings file and keep the positive ratings, each with a weight.  Each builder
first counts the positive ratings of its items or users and sums their squared weights, and then
goes over the ratings of those with enough of them (`filter_validKeys`).
-/

namespace OfflineDataProcessing

variable {K : Type*} [Field K] [LinearOrder K]

/-- A row of the ratings file. -/
structure RatingRow (K : Type*) where
  userId : ℤ
  movieId : ℤ
  rating : K
  timestamp : ℤ
  deriving DecidableEq, Repr

/-- A positive rating with its weight. -/
structure PositiveRating (K : Type*) where
  userId : ℤ
  movieId : ℤ
  weight : K
  timestamp : ℤ
  deriving DecidableEq, Repr

/-- The options that decide which ratings are positive. -/
structure RatingOptions (K : Type*) [Field K] where
  minRating : K := 4
  useRatingWeight : Bool := false
  positiveWeightOffset : K := 3

namespace RatingOptions

/-- The weight of a rating, or `none` when it is not positive. -/
def ratingToWeight (options : RatingOptions K) (rating : K) : Option K :=
  if rating < options.minRating then none
  else if !options.useRatingWeight then some 1
  else
    let weight := rating - options.positiveWeightOffset
    if weight ≤ 0 then none else some weight

/-- The positive rating of a row. -/
def positiveRating (options : RatingOptions K) (row : RatingRow K) : Option (PositiveRating K) :=
  (options.ratingToWeight row.rating).map fun weight =>
    { userId := row.userId
      movieId := row.movieId
      weight := weight
      timestamp := row.timestamp }

/-- The positive ratings of the file, in order. -/
def iterPositiveRatings (options : RatingOptions K) (rows : List (RatingRow K)) :
    List (PositiveRating K) :=
  rows.filterMap options.positiveRating

/-- Weights are positive. -/
theorem ratingToWeight_pos [IsStrictOrderedRing K] {options : RatingOptions K} {rating weight : K}
    (h : options.ratingToWeight rating = some weight) :
  0 < weight
  := by
  simp only [ratingToWeight] at h
  split_ifs at h with _ _ hpos
  · rw [← Option.some.inj h]
    exact one_pos
  · rw [← Option.some.inj h]
    exact not_le.mp hpos

theorem weight_pos [IsStrictOrderedRing K] {options : RatingOptions K} {rows : List (RatingRow K)}
    {rating : PositiveRating K} (h : rating ∈ options.iterPositiveRatings rows) :
  0 < rating.weight
  := by
  obtain ⟨row, -, hrow⟩ := List.mem_filterMap.mp h
  obtain ⟨weight, hweight, rfl⟩ := Option.map_eq_some_iff.mp hrow
  exact ratingToWeight_pos hweight

/-- The positive ratings of a file grouped by user are grouped by user. -/
theorem contiguous_iterPositiveRatings (options : RatingOptions K) {rows : List (RatingRow K)}
    (h : Keyed.Contiguous RatingRow.userId rows) :
  Keyed.Contiguous PositiveRating.userId (options.iterPositiveRatings rows)
  := by
  apply h.filterMap
  intro row rating hrow
  obtain ⟨weight, -, rfl⟩ := Option.map_eq_some_iff.mp hrow
  rfl

end RatingOptions

/-! ### Statistics -/

/-- The numbers of the ratings of each key. -/
def ratingCounts (key : PositiveRating K → ℤ) (ratings : List (PositiveRating K)) :
    List (ℤ × ℕ) :=
  Keyed.collect key (fun _ count => count.getD 0 + 1) ratings

/-- The sums of the squared weights of each key. -/
def ratingNormSq (key : PositiveRating K → ℤ) (ratings : List (PositiveRating K)) :
    List (ℤ × K) :=
  Keyed.collect key (fun rating sum => sum.getD 0 + rating.weight * rating.weight) ratings

/-- The keys with enough ratings and a positive norm. -/
def validKeys (key : PositiveRating K → ℤ) (minCount : ℤ) (ratings : List (PositiveRating K)) :
    List ℤ :=
  ((ratingCounts key ratings).filter fun entry =>
    minCount ≤ entry.2 ∧ 0 < ((ratingNormSq key ratings).lookup entry.1).getD 0).map Prod.fst

/-- The squared norm of a key, over all its ratings. -/
def normSq (key : PositiveRating K → ℤ) (ratings : List (PositiveRating K)) (k : ℤ) : K :=
  ((ratings.filter (key · = k)).map fun rating => rating.weight * rating.weight).sum

/-- The ratings of the keys with enough ratings. -/
def keptRatings (key : PositiveRating K → ℤ) (minCount : ℤ) (ratings : List (PositiveRating K)) :
    List (PositiveRating K) :=
  ratings.filter fun rating => minCount ≤ (ratings.filter (key · = key rating)).length

omit [Field K] [LinearOrder K] in
theorem ratingCounts_eq (key : PositiveRating K → ℤ) (ratings : List (PositiveRating K)) :
  ratingCounts key ratings = (Keyed.groups key ratings).map fun g => (g.1, g.2.length)
  := Keyed.collect_count_eq_groups key ratings

omit [LinearOrder K] in
/-- The norm found for a key. -/
theorem lookup_ratingNormSq (key : PositiveRating K → ℤ) (ratings : List (PositiveRating K))
    (k : ℤ) :
  ((ratingNormSq key ratings).lookup k).getD 0 = normSq key ratings k
  := by
  rw [ratingNormSq, normSq, List.sum_eq_foldl, List.foldl_map]
  exact Keyed.lookup_collect_getD key 0
    (fun (sum : K) (rating : PositiveRating K) => sum + rating.weight * rating.weight) _ k

/-- The keys found valid. -/
theorem mem_validKeys (key : PositiveRating K → ℤ) (minCount : ℤ)
    (ratings : List (PositiveRating K)) (k : ℤ) :
  k ∈ validKeys key minCount ratings
    ↔ k ∈ ratings.map key ∧ minCount ≤ (ratings.filter (key · = k)).length
      ∧ 0 < normSq key ratings k
  := by
  simp only [validKeys, ratingCounts_eq, lookup_ratingNormSq, List.mem_map, List.mem_filter,
    decide_eq_true_eq]
  constructor
  · rintro ⟨_, ⟨⟨group, hgroup, rfl⟩, hcount, hnorm⟩, rfl⟩
    obtain ⟨hkey, hentries⟩ := Keyed.mem_groups.mp hgroup
    rw [hentries] at hcount
    exact ⟨List.mem_map.mp hkey, hcount, hnorm⟩
  · rintro ⟨hkey, hcount, hnorm⟩
    have hgroup : (k, ratings.filter (key · = k)) ∈ Keyed.groups key ratings :=
      Keyed.mem_groups.mpr ⟨List.mem_map.mpr hkey, rfl⟩
    exact ⟨_, ⟨⟨_, hgroup, rfl⟩, hcount, hnorm⟩, rfl⟩

variable [IsStrictOrderedRing K]

/-- A key with a positive rating has a positive norm. -/
theorem normSq_pos {key : PositiveRating K → ℤ} {ratings : List (PositiveRating K)}
    (hpos : ∀ rating ∈ ratings, 0 < rating.weight) {k : ℤ} (h : k ∈ ratings.map key) :
  0 < normSq key ratings k
  := by
  obtain ⟨rating, hrating, rfl⟩ := List.mem_map.mp h
  apply List.sum_pos
  · intro x hx
    obtain ⟨other, hother, rfl⟩ := List.mem_map.mp hx
    have hweight := hpos other (List.mem_of_mem_filter hother)
    exact mul_pos hweight hweight
  · apply List.ne_nil_of_mem (a := rating.weight * rating.weight)
    apply List.mem_map.mpr ⟨rating, _, rfl⟩
    simpa using hrating

/-- The ratings of the valid keys are those of the keys with enough ratings. -/
theorem filter_validKeys {key : PositiveRating K → ℤ} (minCount : ℤ)
    {ratings : List (PositiveRating K)} (hpos : ∀ rating ∈ ratings, 0 < rating.weight) :
  ratings.filter (fun rating => key rating ∈ validKeys key minCount ratings)
    = keptRatings key minCount ratings
  := by
  apply List.filter_congr
  intro rating hrating
  have hmem : key rating ∈ ratings.map key := List.mem_map_of_mem hrating
  rw [decide_eq_decide, mem_validKeys]
  constructor
  · rintro ⟨-, hcount, -⟩
    exact hcount
  · intro hcount
    exact ⟨hmem, hcount, normSq_pos hpos hmem⟩

end OfflineDataProcessing
