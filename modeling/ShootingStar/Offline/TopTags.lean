import Mathlib.Algebra.Order.Field.Basic
import Mathlib.Algebra.Order.Ring.Rat
import Mathlib.Tactic.Positivity
import ShootingStar.Offline.MovieTags

/-!
# The top tags of a movie

The users of the tags of each movie are nested dictionaries (`isTagged_collectMovieTagEvidence`), so
no tag is counted for more movies than there are, and no score is below one.  As the scores of a
ranking descend, the tags that are too light are the last ones, and those kept are the first ones
(`keeps_cons`).
-/

namespace OfflineDataProcessing

/-! ### Nested dictionaries -/

/-- Movies and their tags are keys of dictionaries, and each movie has a tag. -/
structure IsTagged (tagUserSets : List (ℤ × List (String × Finset String))) : Prop where
  nodup_movies : (tagUserSets.map Prod.fst).Nodup
  nodup_tags : ∀ movie ∈ tagUserSets, (movie.2.map Prod.fst).Nodup
  tags_ne_nil : ∀ movie ∈ tagUserSets, movie.2 ≠ []

/-- A row keeps the dictionaries. -/
theorem isTagged_collectTagRow (f : TextFunctions) (validMovieIds : List ℤ)
    {evidence : MovieTagEvidence} (h : IsTagged evidence.tagUserSets) (row : TagRow) :
  IsTagged (collectTagRow f validMovieIds evidence row).tagUserSets
  := by
  simp only [collectTagRow]
  split
  next => exact h
  split
  next => exact h
  split
  next => exact h
  constructor
  · exact Keyed.nodup_map_fst_upsert _ _ h.nodup_movies
  · apply Keyed.forall_mem_upsert (P := fun _ sets => (sets.map Prod.fst).Nodup) h.nodup_movies
      h.nodup_tags
    intro hsets
    apply Keyed.nodup_map_fst_upsert
    cases hlookup : evidence.tagUserSets.lookup row.movieId with
    | none => exact List.nodup_nil
    | some sets => exact hsets sets hlookup
  · apply Keyed.forall_mem_upsert (P := fun _ sets => sets ≠ []) h.nodup_movies h.tags_ne_nil
    exact fun _ => Keyed.upsert_ne_nil _ _ _

theorem isTagged_collectMovieTagEvidence (f : TextFunctions) (validMovieIds : List ℤ)
    (rows : List TagRow) :
  IsTagged (collectMovieTagEvidence f validMovieIds rows).tagUserSets
  := by
  have hstep : ∀ (evidence : MovieTagEvidence), IsTagged evidence.tagUserSets →
      IsTagged (rows.foldl (collectTagRow f validMovieIds) evidence).tagUserSets := by
    induction rows with
    | nil => exact fun _ h => h
    | cons row rows ih => exact fun evidence h => ih _ (isTagged_collectTagRow f validMovieIds h row)
  apply hstep
  constructor <;> simp

/-! ### Scores -/

/-- A tag is counted once for each movie that has it. -/
theorem lookup_documentFrequency {tagUserSets : List (ℤ × List (String × Finset String))}
    (h : ∀ movie ∈ tagUserSets, (movie.2.map Prod.fst).Nodup) (tag : String) :
  ((documentFrequency tagUserSets).lookup tag).getD 0
    = tagUserSets.countP fun movie => tag ∈ movie.2.map Prod.fst
  := by
  rw [documentFrequency, Keyed.lookup_collect_count]
  induction tagUserSets with
  | nil => rfl
  | cons movie tagUserSets ih =>
      rw [List.forall_mem_cons] at h
      have hcount : ((movie.2.map Prod.fst).filter (id · = tag)).length
          = if tag ∈ movie.2.map Prod.fst then 1 else 0 := by
        simp only [id]
        rw [List.filter_eq, List.length_replicate, h.1.count]
      rw [List.flatMap_cons, List.filter_append, List.length_append, ih h.2, hcount,
        List.countP_cons, Nat.add_comm]
      simp only [decide_eq_true_eq]

/-- What the scores need of the logarithm. -/
structure IsLog (log : ℚ → ℚ) : Prop where
  monotoneOn : MonotoneOn log (Set.Ioi 0)
  one : log 1 = 0

theorem IsLog.nonneg {log : ℚ → ℚ} (h : IsLog log) {x : ℚ} (hx : 1 ≤ x) :
  0 ≤ log x
  := by
  rw [← h.one]
  exact h.monotoneOn (Set.mem_Ioi.mpr zero_lt_one) (Set.mem_Ioi.mpr (zero_lt_one.trans_le hx)) hx

/-- The tags of a movie among all. -/
def tagRanking (log : ℚ → ℚ) (tagUserSets : List (ℤ × List (String × Finset String)))
    (movieTags : List (String × Finset String)) : List ScoredTag :=
  scoredTags log (max tagUserSets.length 1) (documentFrequency tagUserSets) movieTags

theorem one_le_score {log : ℚ → ℚ} (hlog : IsLog log)
    {tagUserSets : List (ℤ × List (String × Finset String))} (h : IsTagged tagUserSets)
    (movieTags : List (String × Finset String)) :
  ∀ t ∈ tagRanking log tagUserSets movieTags, 1 ≤ t.score
  := by
  intro t ht
  rw [tagRanking, scoredTags, Ranked.mem_sortBy, List.mem_map] at ht
  obtain ⟨⟨tag, users⟩, -, rfl⟩ := ht
  have htf : 0 ≤ log ((max users.card 1 : ℕ) : ℚ) :=
    hlog.nonneg (Nat.one_le_cast.mpr (le_max_right _ _))
  have hle : ((documentFrequency tagUserSets).lookup tag).getD 0 ≤ max tagUserSets.length 1 := by
    rw [lookup_documentFrequency h.nodup_tags]
    exact List.countP_le_length.trans (le_max_left _ _)
  have hidf : 0 ≤ log ((1 + (max tagUserSets.length 1 : ℕ))
      / (1 + (((documentFrequency tagUserSets).lookup tag).getD 0 : ℕ))) := by
    apply hlog.nonneg
    rw [one_le_div (by positivity)]
    exact add_le_add_right (Nat.cast_le.mpr hle) 1
  apply one_le_mul_of_one_le_of_one_le
  · exact le_add_of_nonneg_right htf
  · exact le_add_of_nonneg_left hidf

/-! ### The ranking -/

/-- The tag with the higher score goes first, then the one of more users, then the first in the
alphabet. -/
def RankedBefore (a b : ScoredTag) : Prop :=
  b.score < a.score
    ∨ (a.score = b.score
        ∧ (b.userCount < a.userCount ∨ (a.userCount = b.userCount ∧ a.tag < b.tag)))

theorem map_tag_tagRanking (log : ℚ → ℚ) (tagUserSets : List (ℤ × List (String × Finset String)))
    (movieTags : List (String × Finset String)) :
  ((tagRanking log tagUserSets movieTags).map ScoredTag.tag).Perm (movieTags.map Prod.fst)
  := by
  apply ((Ranked.sortBy_perm _ _).map ScoredTag.tag).trans
  rw [List.map_map]
  rfl

theorem pairwise_tagRanking (log : ℚ → ℚ) (tagUserSets : List (ℤ × List (String × Finset String)))
    {movieTags : List (String × Finset String)} (h : (movieTags.map Prod.fst).Nodup) :
  (tagRanking log tagUserSets movieTags).Pairwise RankedBefore
  := by
  refine (Ranked.pairwise_higherFirst ScoredTag.score ?_).imp ?_
  · apply List.Nodup.of_map (fun r : ℕᵒᵈ ×ₗ String => (ofLex r).2)
    rw [List.map_map, List.map_map]
    exact h
  · intro a b hab
    rcases hab with hscore | ⟨hscore, hid⟩
    · exact Or.inl hscore
    · rw [Prod.Lex.toLex_lt_toLex, OrderDual.toDual_lt_toDual] at hid
      exact Or.inr ⟨hscore, hid⟩

/-! ### The tags that are kept -/

/-- The tag with its score as its weight. -/
def ScoredTag.weighted (t : ScoredTag) : MovieTag ℚ where
  tag := t.tag
  weight := t.score

/-- The tag meets both thresholds. -/
def IsHeavy (o : TopTagOptions) (best t : ScoredTag) : Prop :=
  o.minWeight ≤ t.score ∧ best.score * o.minRelativeWeight ≤ t.score

instance (o : TopTagOptions) (best : ScoredTag) : DecidablePred (IsHeavy o best) :=
  fun t => inferInstanceAs
    (Decidable (o.minWeight ≤ t.score ∧ best.score * o.minRelativeWeight ≤ t.score))

/-- The best tag is kept, and of the next ones those that are heavy. -/
theorem keptTags_cons (o : TopTagOptions) (best : ScoredTag) (rest : List ScoredTag) :
  keptTags o (best :: rest)
    = (best :: (rest.take (o.topK.toNat - 1)).filter (IsHeavy o best)).map ScoredTag.weighted
  := by
  rw [keptTags]
  cases o.topK.toNat with
  | zero => rfl
  | succ k =>
      have hlater : ((rest.zipIdx 1).take k).filter (fun t => decide (t.2 = 0
            ∨ (o.minWeight ≤ t.1.score ∧ best.score * o.minRelativeWeight ≤ t.1.score)))
          = ((rest.zipIdx 1).take k).filter (fun t => decide (IsHeavy o best t.1)) := by
        apply List.filter_congr
        intro t ht
        have hindex := List.le_snd_of_mem_zipIdx (List.mem_of_mem_take ht)
        have hne : ¬ t.2 = 0 := by omega
        simp only [hne, false_or]
        rfl
      have hrest : (rest.take k).filter (IsHeavy o best)
          = (((rest.zipIdx 1).take k).filter (fun t => decide (IsHeavy o best t.1))).map
              Prod.fst := by
        have hindexed : ((rest.zipIdx 1).take k).map Prod.fst = rest.take k := by
          rw [List.map_take, List.zipIdx_map_fst]
        rw [← hindexed, List.filter_map]
        rfl
      rw [List.zipIdx_cons, List.take_succ_cons, List.filter_cons_of_pos (by simp), hlater,
        if_neg (List.cons_ne_nil _ _), Nat.add_sub_cancel, hrest, List.map_cons, List.map_cons,
        List.map_map]
      rfl

/-- `kept` are the first tags of a ranking, among them the best one and each heavy one of the first
`topK`. -/
structure Keeps (o : TopTagOptions) (ranking kept : List ScoredTag) : Prop where
  begins : kept <+: ranking
  head?_eq : kept.head? = ranking.head?
  ne_nil : kept ≠ []
  length_le : (kept.length : ℤ) ≤ max o.topK 1
  isHeavy : ∀ best ∈ ranking.head?, ∀ t ∈ kept.tail, IsHeavy o best t
  mem_of_isHeavy : ∀ best ∈ ranking.head?, ∀ t ∈ ranking.take o.topK.toNat,
    IsHeavy o best t → t ∈ kept

theorem RankedBefore.score_le {a b : ScoredTag} (h : RankedBefore a b) :
  b.score ≤ a.score
  := by
  rcases h with hlt | ⟨heq, -⟩
  · exact hlt.le
  · exact heq.ge

/-- A tag after a light one is light. -/
theorem keeps_cons (o : TopTagOptions) {best : ScoredTag} {rest : List ScoredTag}
    (h : (best :: rest).Pairwise RankedBefore) :
  Keeps o (best :: rest) (best :: (rest.take (o.topK.toNat - 1)).filter (IsHeavy o best))
  := by
  constructor
  · rw [List.prefix_cons_inj]
    apply List.IsPrefix.trans _ (List.take_prefix (o.topK.toNat - 1) rest)
    apply Ranked.filter_begins
    apply ((List.pairwise_cons.mp h).2.sublist (List.take_sublist _ _)).imp
    intro a b hab hb
    rw [decide_eq_true_eq] at hb ⊢
    exact ⟨hb.1.trans hab.score_le, hb.2.trans hab.score_le⟩
  · rfl
  · exact List.cons_ne_nil _ _
  · have hfilter := (List.length_filter_le (fun t => decide (IsHeavy o best t))
      (rest.take (o.topK.toNat - 1))).trans (List.length_take_le _ _)
    rw [List.length_cons]
    omega
  · rintro best' ⟨⟩ t ht
    rw [List.tail_cons] at ht
    exact of_decide_eq_true (List.mem_filter.mp ht).2
  · rintro best' ⟨⟩ t ht hheavy
    cases hcount : o.topK.toNat with
    | zero =>
        rw [hcount, List.take_zero] at ht
        cases ht
    | succ k =>
        rw [hcount, List.take_succ_cons] at ht
        rcases List.mem_cons.mp ht with rfl | ht
        · exact List.mem_cons_self
        · exact List.mem_cons_of_mem _ (List.mem_filter.mpr ⟨ht, decide_eq_true hheavy⟩)

/-! ### Weights -/

/-- The weights with a number of decimals, if one is given. -/
def roundedTags : Option ℕ → List (MovieTag ℚ) → List (MovieTag ℚ)
  | none, tags => tags
  | some digits, tags =>
    tags.map fun t => { t with weight := Rounding.roundDecimals digits t.weight }

theorem scaledTags_eq_roundedTags (o : TopTagOptions) (tags : List (MovieTag ℚ)) :
  scaledTags o tags = roundedTags o.roundDigits (scaledTags { o with roundDigits := none } tags)
  := by
  obtain ⟨_, _, _, _, digits⟩ := o
  cases digits <;> rfl

/-- The weights of the tags kept are their scores, or fractions of the best score. -/
structure Weighs (o : TopTagOptions) (kept : List ScoredTag) (tags : List (MovieTag ℚ)) : Prop where
  map_tag : tags.map MovieTag.tag = kept.map ScoredTag.tag
  map_weight : o.normalizeWeights = false → tags.map MovieTag.weight = kept.map ScoredTag.score
  weight_mem : o.normalizeWeights = true → ∀ t ∈ tags, 0 < t.weight ∧ t.weight ≤ 1
  head?_weight : o.normalizeWeights = true → tags.head?.map MovieTag.weight = some 1

theorem foldr_max_eq {b : ℚ} {l : List ℚ} (h : ∀ a ∈ l, a ≤ b) :
  l.foldr max b = b
  := by
  induction l with
  | nil => rfl
  | cons a l ih =>
      rw [List.forall_mem_cons] at h
      rw [List.foldr_cons, ih h.2, max_eq_right h.1]

theorem scaledTags_of_not_normalize {o : TopTagOptions} (h : o.normalizeWeights = false)
    (tags : List (MovieTag ℚ)) :
  scaledTags { o with roundDigits := none } tags = tags
  := by
  simp only [scaledTags, h]
  rfl

theorem scaledTags_of_normalize {o : TopTagOptions} (h : o.normalizeWeights = true)
    {best : ScoredTag} {more : List ScoredTag} (hpos : 0 < best.score)
    (hle : ∀ t ∈ best :: more, t.score ≤ best.score) :
  scaledTags { o with roundDigits := none } ((best :: more).map ScoredTag.weighted)
    = (best :: more).map fun t => { tag := t.tag, weight := t.score / best.score }
  := by
  have hmax : (((best :: more).map ScoredTag.weighted).map MovieTag.weight).foldr max
      ((((best :: more).map ScoredTag.weighted).head?.map MovieTag.weight).getD 0)
        = best.score := by
    apply foldr_max_eq
    intro weight hweight
    rw [List.map_map] at hweight
    obtain ⟨t, ht, rfl⟩ := List.mem_map.mp hweight
    exact hle t ht
  simp only [scaledTags, h, hmax, if_true, if_pos hpos]
  rw [List.map_map]
  rfl

theorem weighs_cons (o : TopTagOptions) {best : ScoredTag} {more : List ScoredTag}
    (hpos : ∀ t ∈ best :: more, 1 ≤ t.score) (hle : ∀ t ∈ best :: more, t.score ≤ best.score) :
  Weighs o (best :: more)
    (scaledTags { o with roundDigits := none } ((best :: more).map ScoredTag.weighted))
  := by
  rcases Bool.eq_false_or_eq_true o.normalizeWeights with hnormalize | hnormalize
  · have hbest : 0 < best.score := zero_lt_one.trans_le (hpos best List.mem_cons_self)
    rw [scaledTags_of_normalize hnormalize hbest hle]
    constructor
    · rw [List.map_map]
      rfl
    · intro h
      rw [hnormalize] at h
      cases h
    · intro _ t ht
      obtain ⟨s, hs, rfl⟩ := List.mem_map.mp ht
      exact ⟨div_pos (zero_lt_one.trans_le (hpos s hs)) hbest, (div_le_one hbest).mpr (hle s hs)⟩
    · intro _
      rw [List.map_cons, List.head?_cons, Option.map_some, div_self hbest.ne']
  · rw [scaledTags_of_not_normalize hnormalize]
    constructor
    · rw [List.map_map]
      rfl
    · intro _
      rw [List.map_map]
      rfl
    · intro h
      rw [hnormalize] at h
      cases h
    · intro h
      rw [hnormalize] at h
      cases h

/-! ### The top tags -/

/-- The top tags of a movie are the first ones of its ranking, whose scores are at least one. -/
theorem computeMovieTopTags_keeps {log : ℚ → ℚ} (hlog : IsLog log) (o : TopTagOptions)
    {tagUserSets : List (ℤ × List (String × Finset String))} (h : IsTagged tagUserSets)
    {movieId : ℤ} {movieTags : List (String × Finset String)}
    (hmovie : (movieId, movieTags) ∈ tagUserSets) :
  ((tagRanking log tagUserSets movieTags).map ScoredTag.tag).Perm (movieTags.map Prod.fst)
    ∧ (tagRanking log tagUserSets movieTags).Pairwise RankedBefore
    ∧ (∀ t ∈ tagRanking log tagUserSets movieTags, 1 ≤ t.score)
    ∧ ∃ kept unrounded,
      Keeps o (tagRanking log tagUserSets movieTags) kept
      ∧ Weighs o kept unrounded
      ∧ (computeMovieTopTags log o tagUserSets).lookup movieId
        = some (roundedTags o.roundDigits unrounded)
  := by
  have hperm := map_tag_tagRanking log tagUserSets movieTags
  have hranked := pairwise_tagRanking log tagUserSets (h.nodup_tags _ hmovie)
  have hscores := one_le_score hlog h movieTags
  have hlookup : (computeMovieTopTags log o tagUserSets).lookup movieId
      = some (scaledTags o (keptTags o (tagRanking log tagUserSets movieTags))) := by
    apply Keyed.lookup_eq_of_mem
    · rw [computeMovieTopTags, List.map_map]
      exact h.nodup_movies
    · exact List.mem_map.mpr ⟨_, hmovie, rfl⟩
  refine ⟨hperm, hranked, hscores, ?_⟩
  cases hranking : tagRanking log tagUserSets movieTags with
  | nil =>
      rw [hranking, List.map_nil] at hperm
      exact absurd (List.map_eq_nil_iff.mp hperm.nil_eq.symm) (h.tags_ne_nil _ hmovie)
  | cons best rest =>
      rw [hranking] at hranked hscores hlookup
      have hkeeps := keeps_cons o hranked
      refine ⟨_, _, hkeeps, weighs_cons o ?_ ?_, ?_⟩
      · exact fun t ht => hscores t (hkeeps.begins.subset ht)
      · intro t ht
        rcases List.mem_cons.mp (hkeeps.begins.subset ht) with rfl | ht
        · exact le_rfl
        · exact ((List.pairwise_cons.mp hranked).1 t ht).score_le
      · rw [hlookup, keptTags_cons, scaledTags_eq_roundedTags]

theorem isLog_sub_one :
  IsLog fun x => x - 1
  := by
  constructor
  · intro x _ y _ hxy
    exact sub_le_sub_right hxy 1
  · exact sub_self 1

/-- Two tags of a movie, each of one user. -/
def sampleTagUserSets : List (ℤ × List (String × Finset String)) :=
  [(1, [("war", {"7"}), ("drama", {"8"})])]

/-- Of two light tags the first one is kept. -/
theorem computeMovieTopTags_keeps_drama :
  (∃ kept unrounded,
      Keeps { minWeight := 3 / 2, normalizeWeights := true } [⟨"drama", 1, 1⟩, ⟨"war", 1, 1⟩] kept
      ∧ Weighs { minWeight := 3 / 2, normalizeWeights := true } kept unrounded
      ∧ (computeMovieTopTags (fun x => x - 1) { minWeight := 3 / 2, normalizeWeights := true }
          sampleTagUserSets).lookup 1 = some (roundedTags (some 4) unrounded))
    ∧ computeMovieTopTags (fun x => x - 1) { minWeight := 3 / 2, normalizeWeights := true }
        sampleTagUserSets = [(1, [⟨"drama", 1⟩])]
  := by
  have htagged : IsTagged sampleTagUserSets := by
    constructor <;> decide
  have hranking : tagRanking (fun x => x - 1) sampleTagUserSets [("war", {"7"}), ("drama", {"8"})]
      = [⟨"drama", 1, 1⟩, ⟨"war", 1, 1⟩] := by
    decide +kernel
  have hkeeps := computeMovieTopTags_keeps isLog_sub_one
    { minWeight := 3 / 2, normalizeWeights := true } htagged (List.mem_singleton_self _)
  rw [hranking] at hkeeps
  exact ⟨hkeeps.2.2.2, by decide +kernel⟩

end OfflineDataProcessing
