import Mathlib.Algebra.BigOperators.Group.List.Lemmas
import Mathlib.Algebra.Order.BigOperators.Ring.Finset
import Mathlib.Algebra.Order.Chebyshev
import ShootingStar.Offline.Interactions
import ShootingStar.Offline.Ratings

/-!
# Bounds on the contributions to a pair

A group of ratings, of an item or of a user, contributes to a pair of its members the product of
their best weights, at most once.  The contributions to a pair are then at most as many as the groups
with ratings of both members (`Grouping.length_flatMap_le`), and by the inequality of Cauchy and
Schwarz the square of their sum is at most the product of the squared norms
(`Grouping.sq_sum_flatMap_le`), which are taken over all ratings.
-/

namespace OfflineDataProcessing

variable {K : Type*} [LinearOrder K] [Field K]

/-! ### The weight of a member -/

/-- The weight with which a member takes part in the pairs of a group, zero for a member without an
interaction. -/
def bestWeight (interactions : List (Interaction K)) (memberId : ℤ) : K :=
  (((dedupe interactions).find? (·.memberId = memberId)).map (·.weight)).getD 0

theorem bestWeight_eq {interactions : List (Interaction K)} {x : Interaction K}
    (hx : x ∈ dedupe interactions) :
  bestWeight interactions x.memberId = x.weight
  := by
  rw [bestWeight]
  cases hfind : (dedupe interactions).find? (·.memberId = x.memberId) with
  | none =>
      have hnone := List.find?_eq_none.mp hfind x hx
      simp at hnone
  | some y =>
      have hy := List.mem_of_find?_eq_some hfind
      have hid : y.memberId = x.memberId := by simpa using List.find?_some hfind
      rw [List.inj_on_of_nodup_map (nodup_map_memberId_dedupe interactions) hy hx hid]
      rfl

/-- The weight is zero or that of an interaction with the member. -/
theorem bestWeight_cases (interactions : List (Interaction K)) (memberId : ℤ) :
  bestWeight interactions memberId = 0
    ∨ ∃ x ∈ interactions, x.memberId = memberId ∧ bestWeight interactions memberId = x.weight
  := by
  rw [bestWeight]
  cases hfind : (dedupe interactions).find? (·.memberId = memberId) with
  | none => exact Or.inl rfl
  | some x =>
      have hid : x.memberId = memberId := by simpa using List.find?_some hfind
      right
      exact ⟨x, mem_of_mem_dedupe (List.mem_of_find?_eq_some hfind), hid, rfl⟩

theorem bestWeight_nonneg {interactions : List (Interaction K)}
    (hpos : ∀ x ∈ interactions, 0 < x.weight) (memberId : ℤ) :
  0 ≤ bestWeight interactions memberId
  := by
  rcases bestWeight_cases interactions memberId with hzero | ⟨x, hx, -, hweight⟩
  · exact hzero.ge
  · rw [hweight]
    exact (hpos x hx).le

/-- The square of the weight is at most the sum of the squares of the member's interactions. -/
theorem sq_bestWeight_le [IsStrictOrderedRing K] (interactions : List (Interaction K))
    (memberId : ℤ) :
  bestWeight interactions memberId ^ 2
    ≤ ((interactions.filter (·.memberId = memberId)).map fun x => x.weight * x.weight).sum
  := by
  have hnonneg : ∀ s ∈ (interactions.filter (·.memberId = memberId)).map
      (fun x => x.weight * x.weight), 0 ≤ s := by
    intro s hs
    obtain ⟨x, -, rfl⟩ := List.mem_map.mp hs
    exact mul_self_nonneg x.weight
  rcases bestWeight_cases interactions memberId with hzero | ⟨x, hx, hid, hweight⟩
  · rw [hzero, zero_pow two_ne_zero]
    exact List.sum_nonneg hnonneg
  · rw [hweight, sq]
    apply List.single_le_sum hnonneg
    apply List.mem_map.mpr
    exact ⟨x, List.mem_filter.mpr ⟨hx, decide_eq_true hid⟩, rfl⟩

/-! ### Some of the contributions -/

/-- Some of the contributions weigh no more than all of them. -/
theorem sum_weight_le_of_subperm [IsStrictOrderedRing K] {cs ds : List (PairContribution K)}
    (h : cs.Subperm ds) (hnonneg : ∀ d ∈ ds, 0 ≤ d.weight) :
  (cs.map (·.weight)).sum ≤ (ds.map (·.weight)).sum
  := by
  obtain ⟨l, hl, hsublist⟩ := h
  rw [← (hl.map _).sum_eq]
  apply (hsublist.map _).sum_le_sum
  intro w hw
  obtain ⟨d, hd, rfl⟩ := List.mem_map.mp hw
  exact hnonneg d hd

/-! ### The contributions of one group -/

/-- A group contributes at most once to a pair: the product of the best weights of its members, both
of which are members of the group. -/
def ContributesOnce (interactions : List (Interaction K)) (pair : MemberPair)
    (contributions : List (PairContribution K)) : Prop :=
  contributions = []
    ∨ ∃ c, contributions = [c]
      ∧ c.weight = bestWeight interactions pair.left * bestWeight interactions pair.right
      ∧ pair.left ∈ interactions.map Interaction.memberId
      ∧ pair.right ∈ interactions.map Interaction.memberId

/-- A group with distinct pairs, each of two of its interactions, contributes at most once to each
pair. -/
theorem contributesOnce_of_nodup {interactions : List (Interaction K)}
    {contributions : List (PairContribution K)}
    (hnodup : (contributions.map PairContribution.pair).Nodup)
    (hmem : ∀ c ∈ contributions, ∃ x ∈ dedupe interactions, ∃ y ∈ dedupe interactions,
      c = contribution x.member y.member) (pair : MemberPair) :
  ContributesOnce interactions pair (contributions.filter (·.pair = pair))
  := by
  have hpair : ∀ c ∈ contributions.filter (·.pair = pair), c.pair = pair := fun c hc =>
    of_decide_eq_true (List.mem_filter.mp hc).2
  have hdistinct : ((contributions.filter (·.pair = pair)).map PairContribution.pair).Nodup :=
    hnodup.sublist (List.filter_sublist.map _)
  match hlist : contributions.filter (·.pair = pair) with
  | [] => exact Or.inl hlist
  | c :: c' :: l =>
      rw [hlist] at hdistinct hpair
      have heq : c.pair = c'.pair := by rw [hpair c (by simp), hpair c' (by simp)]
      simp [heq] at hdistinct
  | [c] =>
      have hc : c ∈ contributions.filter (·.pair = pair) := by
        rw [hlist]
        exact List.mem_singleton_self c
      obtain ⟨x, hx, y, hy, rfl⟩ := hmem c (List.mem_of_mem_filter hc)
      have hxy := hpair _ hc
      right
      refine ⟨_, hlist, ?_, ?_, ?_⟩
      · rw [← hxy]
        exact (congrArg₂ _ (bestWeight_eq hx) (bestWeight_eq hy)).symm
      · rw [← hxy]
        exact List.mem_map_of_mem (mem_of_mem_dedupe hx)
      · rw [← hxy]
        exact List.mem_map_of_mem (mem_of_mem_dedupe hy)

/-! ### The contributions of all groups -/

/-- The groups with ratings of both members of a pair. -/
def groupsOfBoth (groupKey memberKey : PositiveRating K → ℤ) (ratings : List (PositiveRating K))
    (pair : MemberPair) : Finset ℤ :=
  ((ratings.filter (memberKey · = pair.left)).map groupKey).toFinset
    ∩ ((ratings.filter (memberKey · = pair.right)).map groupKey).toFinset

/-- The ratings of a file, grouped by one key, as interactions with members given by the other. -/
structure Grouping (groupKey memberKey : PositiveRating K → ℤ)
    (interaction : PositiveRating K → Interaction K) (ratings kept : List (PositiveRating K)) :
    Prop where
  memberId_eq : ∀ rating, (interaction rating).memberId = memberKey rating
  weight_eq : ∀ rating, (interaction rating).weight = rating.weight
  sublist : kept.Sublist ratings
  weight_pos : ∀ rating ∈ ratings, 0 < rating.weight

namespace Grouping

variable {groupKey memberKey : PositiveRating K → ℤ}
  {interaction : PositiveRating K → Interaction K} {ratings kept : List (PositiveRating K)}

/-- The interactions of a group. -/
abbrev interactionsOf (groupKey : PositiveRating K → ℤ)
    (interaction : PositiveRating K → Interaction K) (kept : List (PositiveRating K)) (key : ℤ) :
    List (Interaction K) :=
  (kept.filter (groupKey · = key)).map interaction

theorem weight_pos_of_mem (h : Grouping groupKey memberKey interaction ratings kept) {key : ℤ}
    {x : Interaction K} (hx : x ∈ interactionsOf groupKey interaction kept key) :
  0 < x.weight
  := by
  obtain ⟨rating, hrating, rfl⟩ := List.mem_map.mp hx
  rw [h.weight_eq]
  exact h.weight_pos rating (h.sublist.subset (List.mem_of_mem_filter hrating))

/-- A member of a group has a rating in it. -/
theorem key_mem_of_mem (h : Grouping groupKey memberKey interaction ratings kept)
    {key memberId : ℤ}
    (hmem : memberId ∈ (interactionsOf groupKey interaction kept key).map Interaction.memberId) :
  key ∈ (ratings.filter (memberKey · = memberId)).map groupKey
  := by
  rw [List.map_map] at hmem
  obtain ⟨rating, hrating, rfl⟩ := List.mem_map.mp hmem
  obtain ⟨hkept, hkey⟩ := List.mem_filter.mp hrating
  apply List.mem_map.mpr
  refine ⟨rating, List.mem_filter.mpr ⟨h.sublist.subset hkept, ?_⟩, of_decide_eq_true hkey⟩
  exact decide_eq_true (h.memberId_eq rating).symm

variable {contributionsOf : ℤ → List (PairContribution K)} {pair : MemberPair}

/-- A pair has at most as many contributions as groups with ratings of both its members. -/
theorem length_flatMap_le (h : Grouping groupKey memberKey interaction ratings kept)
    {keys : List ℤ} (hkeys : keys.Nodup)
    (hcontributions : ∀ key ∈ keys,
      ContributesOnce (interactionsOf groupKey interaction kept key) pair (contributionsOf key)) :
  (keys.flatMap contributionsOf).length ≤ (groupsOfBoth groupKey memberKey ratings pair).card
  := by
  have hgroup : ∀ key ∈ keys, (contributionsOf key).length
      ≤ if key ∈ groupsOfBoth groupKey memberKey ratings pair then 1 else 0 := by
    intro key hkey
    rcases hcontributions key hkey with hnil | ⟨c, hc, -, hleft, hright⟩
    · rw [hnil]
      exact Nat.zero_le _
    · have hboth : key ∈ groupsOfBoth groupKey memberKey ratings pair := by
        apply Finset.mem_inter.mpr
        rw [List.mem_toFinset, List.mem_toFinset]
        exact ⟨h.key_mem_of_mem hleft, h.key_mem_of_mem hright⟩
      rw [hc, if_pos hboth]
      exact le_refl 1
  rw [List.length_flatMap]
  calc
    _ ≤ (keys.map
        fun key => if key ∈ groupsOfBoth groupKey memberKey ratings pair then 1 else 0).sum :=
      List.sum_le_sum hgroup
    _ = ∑ key ∈ keys.toFinset,
        if key ∈ groupsOfBoth groupKey memberKey ratings pair then 1 else 0 :=
      (List.sum_toFinset _ hkeys).symm
    _ = (keys.toFinset.filter (· ∈ groupsOfBoth groupKey memberKey ratings pair)).card :=
      (Finset.card_filter _ _).symm
    _ ≤ (groupsOfBoth groupKey memberKey ratings pair).card := by
      apply Finset.card_le_card
      intro key hkey
      exact (Finset.mem_filter.mp hkey).2

variable [IsStrictOrderedRing K]

/-- The squared weights of a member in all groups are at most its squared norm. -/
theorem sum_sq_bestWeight_le (h : Grouping groupKey memberKey interaction ratings kept)
    (memberId : ℤ) :
  ∑ key ∈ (kept.map groupKey).eraseDups.toFinset,
      bestWeight (interactionsOf groupKey interaction kept key) memberId ^ 2
    ≤ normSq memberKey ratings memberId
  := by
  have hgroups : ((kept.map groupKey).eraseDups.flatMap
      fun key => kept.filter (groupKey · = key)).Perm kept := by
    have hperm := Keyed.flatMap_groups_perm groupKey kept
    rwa [Keyed.groups, List.flatMap_map] at hperm
  have hnonneg : ∀ s ∈ (ratings.filter (memberKey · = memberId)).map
      (fun rating => rating.weight * rating.weight), 0 ≤ s := by
    intro s hs
    obtain ⟨rating, -, rfl⟩ := List.mem_map.mp hs
    exact mul_self_nonneg rating.weight
  rw [List.sum_toFinset _ (Keyed.nodup_eraseDups _)]
  calc
    _ ≤ ((kept.map groupKey).eraseDups.map fun key =>
        (((interactionsOf groupKey interaction kept key).filter (·.memberId = memberId)).map
          fun x => x.weight * x.weight).sum).sum :=
      List.sum_le_sum fun key _ => sq_bestWeight_le _ memberId
    _ = ((((kept.map groupKey).eraseDups.flatMap
          fun key => kept.filter (groupKey · = key)).filter
            (memberKey · = memberId)).map fun rating => rating.weight * rating.weight).sum := by
      rw [List.filter_flatMap, List.map_flatMap, List.flatMap_def, List.sum_flatten, List.map_map]
      simp only [interactionsOf, List.filter_map, List.map_map, Function.comp_def, h.memberId_eq,
        h.weight_eq]
    _ = ((kept.filter (memberKey · = memberId)).map
          fun rating => rating.weight * rating.weight).sum :=
      ((hgroups.filter _).map _).sum_eq
    _ ≤ normSq memberKey ratings memberId :=
      ((h.sublist.filter _).map _).sum_le_sum hnonneg

/-- The sum of the weights of a pair, squared, is at most the product of the squared norms of its
members. -/
theorem sq_sum_flatMap_le (h : Grouping groupKey memberKey interaction ratings kept)
    (hcontributions : ∀ key ∈ (kept.map groupKey).eraseDups,
      ContributesOnce (interactionsOf groupKey interaction kept key) pair (contributionsOf key)) :
  ((((kept.map groupKey).eraseDups.flatMap contributionsOf).map (·.weight)).sum) ^ 2
    ≤ normSq memberKey ratings pair.left * normSq memberKey ratings pair.right
  := by
  have hbest : ∀ key memberId,
      0 ≤ bestWeight (interactionsOf groupKey interaction kept key) memberId := fun key memberId =>
    bestWeight_nonneg (fun _ => h.weight_pos_of_mem) memberId
  have hgroup : ∀ key ∈ (kept.map groupKey).eraseDups,
      0 ≤ ((contributionsOf key).map (·.weight)).sum
        ∧ ((contributionsOf key).map (·.weight)).sum
          ≤ bestWeight (interactionsOf groupKey interaction kept key) pair.left
            * bestWeight (interactionsOf groupKey interaction kept key) pair.right := by
    intro key hkey
    have hproduct := mul_nonneg (hbest key pair.left) (hbest key pair.right)
    rcases hcontributions key hkey with hnil | ⟨c, hc, hweight, -, -⟩
    · rw [hnil]
      exact ⟨le_rfl, hproduct⟩
    · rw [hc, List.map_singleton, List.sum_singleton, hweight]
      exact ⟨hproduct, le_rfl⟩
  rw [List.map_flatMap, List.flatMap_def, List.sum_flatten, List.map_map]
  have hnonneg : 0 ≤ ((kept.map groupKey).eraseDups.map
      (List.sum ∘ fun key => (contributionsOf key).map (·.weight))).sum := by
    apply List.sum_nonneg
    intro s hs
    obtain ⟨key, hkey, rfl⟩ := List.mem_map.mp hs
    exact (hgroup key hkey).1
  have hsum : ((kept.map groupKey).eraseDups.map
      (List.sum ∘ fun key => (contributionsOf key).map (·.weight))).sum
      ≤ ∑ key ∈ (kept.map groupKey).eraseDups.toFinset,
        bestWeight (interactionsOf groupKey interaction kept key) pair.left
          * bestWeight (interactionsOf groupKey interaction kept key) pair.right := by
    rw [List.sum_toFinset _ (Keyed.nodup_eraseDups _)]
    exact List.sum_le_sum fun key hkey => (hgroup key hkey).2
  calc
    _ ≤ (∑ key ∈ (kept.map groupKey).eraseDups.toFinset,
        bestWeight (interactionsOf groupKey interaction kept key) pair.left
          * bestWeight (interactionsOf groupKey interaction kept key) pair.right) ^ 2 :=
      pow_le_pow_left₀ hnonneg hsum 2
    _ ≤ (∑ key ∈ (kept.map groupKey).eraseDups.toFinset,
          bestWeight (interactionsOf groupKey interaction kept key) pair.left ^ 2)
        * ∑ key ∈ (kept.map groupKey).eraseDups.toFinset,
          bestWeight (interactionsOf groupKey interaction kept key) pair.right ^ 2 :=
      Finset.sum_mul_sq_le_sq_mul_sq _ _ _
    _ ≤ normSq memberKey ratings pair.left * normSq memberKey ratings pair.right := by
      apply mul_le_mul (h.sum_sq_bestWeight_le _) (h.sum_sq_bestWeight_le _)
      · exact Finset.sum_nonneg fun _ _ => sq_nonneg _
      · exact (Finset.sum_nonneg fun _ _ => sq_nonneg _).trans (h.sum_sq_bestWeight_le _)

end Grouping

end OfflineDataProcessing
