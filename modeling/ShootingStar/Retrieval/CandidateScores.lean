import Mathlib.Algebra.Order.BigOperators.Group.List
import Mathlib.Tactic.Tauto
import ShootingStar.Retrieval.Retriever

/-!
# The scores of candidates

The retrievers add contributions to a map one at a time.  The score of an item in the map is the
sum of the contributions accepted for it, and its reason is the first of the greatest of them
(`explained_of_mem_foldl_add`).  When all seeds have positive scores, the candidates of a response
are the best of the items found, by weighted sum (`fillResponseCandidates_contributions`).
-/

namespace RecommendationEngine

/-! ### Explanations -/

/-- What the contribution adds to the score of its item. -/
def Contribution.product (c : Contribution) : ℚ :=
  c.triggerSeed.score * c.score

/-- The score is the sum of the contributions `cs`, and the first of the greatest of them is the
reason. -/
structure CandidateScore.Explained (cs : List Contribution) (scored : CandidateScore) : Prop where
  score_eq : scored.score = (cs.map Contribution.product).sum
  reason : ∃ c, Ranked.FirstGreatest Contribution.product cs c
    ∧ scored.triggerEntityId = c.triggerSeed.entityId
    ∧ scored.triggerScore = c.triggerSeed.score
    ∧ scored.sourceScore = c.score
    ∧ scored.reasonScore = c.product

namespace CandidateScore

theorem explained_updateScore_none (c : Contribution) :
  Explained [c] (c.updateScore none)
  := by
  constructor
  · simp [Contribution.updateScore, scoreContribution, Contribution.product]
  · use c, Ranked.firstGreatest_singleton _ c
    exact ⟨rfl, rfl, rfl, rfl⟩

/-- One contribution more. -/
theorem Explained.updateScore {cs : List Contribution} {scored : CandidateScore}
    (h : Explained cs scored) (c : Contribution) :
  Explained (cs ++ [c]) (c.updateScore (some scored))
  := by
  obtain ⟨hscore, greatest, hgreatest, hid, htrigger, hsource, hreason⟩ := h
  simp only [Contribution.updateScore, scoreContribution, Option.getD_some, Option.isNone_some,
    Bool.false_eq_true, false_or]
  have hsum : scored.score + c.product = ((cs ++ [c]).map Contribution.product).sum := by
    rw [List.map_append, List.sum_append, hscore, List.map_singleton, List.sum_singleton]
  split
  next hlt =>
    rw [hreason] at hlt
    constructor
    · exact hsum
    · use c, hgreatest.concat_of_lt hlt
      exact ⟨rfl, rfl, rfl, rfl⟩
  next hle =>
    rw [hreason, not_lt] at hle
    constructor
    · exact hsum
    · use greatest, hgreatest.concat_of_le hle

/-- The score accumulated from contributions is explained by them. -/
theorem explained_of_accumulate {cs : List Contribution} {scored : CandidateScore}
    (h : Keyed.accumulate Contribution.updateScore cs = some scored) :
  Explained cs scored
  := by
  induction cs using List.reverseRecOn generalizing scored with
  | nil => cases h
  | append_singleton cs c ih =>
      rw [Keyed.accumulate_concat] at h
      obtain rfl := Option.some.inj h
      cases hfound : Keyed.accumulate Contribution.updateScore cs with
      | none =>
          rw [Keyed.accumulate_eq_none.mp hfound]
          apply explained_updateScore_none
      | some found =>
          apply Explained.updateScore
          exact ih hfound

/-- The reason is a part of the score. -/
theorem Explained.reasonScore_eq {cs : List Contribution} {scored : CandidateScore}
    (h : Explained cs scored) :
  scored.reasonScore = scored.triggerScore * scored.sourceScore
  := by
  obtain ⟨-, c, -, -, htrigger, hsource, hreason⟩ := h
  rw [htrigger, hsource, hreason, Contribution.product]

theorem Explained.reasonScore_bounds {cs : List Contribution} {scored : CandidateScore}
    (h : Explained cs scored) (hcs : ∀ c ∈ cs, c.Accepted) :
  0 < scored.reasonScore ∧ scored.reasonScore ≤ scored.score
  := by
  obtain ⟨hscore, c, hgreatest, -, -, -, hreason⟩ := h
  rw [hreason, hscore]
  constructor
  · exact (hcs c hgreatest.mem).2.2
  · apply List.single_le_sum
    · intro product hproduct
      obtain ⟨other, hother, rfl⟩ := List.mem_map.mp hproduct
      exact (hcs other hother).2.2.le
    · exact List.mem_map_of_mem hgreatest.mem

end CandidateScore

namespace Contribution

/-- The accepted contributions to an item. -/
def acceptedTo (id : ℕ) (cs : List Contribution) : List Contribution :=
  cs.filter fun c => c.Accepted ∧ c.itemId = id

/-- Every score of the map is that of its item, explained by the accepted contributions. -/
theorem explained_of_mem_foldl_add {cs : List Contribution} {p : ℕ × CandidateScore}
    (h : p ∈ cs.foldl add []) :
  p.2.itemId = p.1 ∧ p.2.Explained (acceptedTo p.1 cs)
  := by
  constructor
  · exact (fst_of_mem_foldl_add h).symm
  · rw [foldl_add] at h
    have haccumulate := Keyed.accumulate_of_mem_collect h
    rw [List.filter_filter] at haccumulate
    apply CandidateScore.explained_of_accumulate
    rw [← haccumulate, acceptedTo]
    congr 1
    apply List.filter_congr
    intro c _
    rw [Bool.and_comm, Bool.decide_and]

/-- The items of the map with their scores. -/
theorem map_score_foldl_add (cs : List Contribution) :
  ((cs.foldl add []).map Prod.snd).map (fun scored => (scored.itemId, scored.score))
    = ((cs.filter (·.Accepted)).map itemId).eraseDups.map
      fun id => (id, ((acceptedTo id cs).map product).sum)
  := by
  rw [← map_itemId_foldl_add, List.map_map, List.map_map, List.map_map]
  apply List.map_congr_left
  intro p hp
  obtain ⟨hid, hexplained⟩ := explained_of_mem_foldl_add hp
  simp only [Function.comp_apply, hid, hexplained.score_eq]

end Contribution

/-! ### The best items -/

/-- The candidates are the best items of the map, at most `maxCandidateCount`. -/
theorem map_score_fillResponseCandidates {label : RetrieverLabel} {scoreMultiplier : ℚ}
    (hmultiplier : 0 < scoreMultiplier) (maxCandidateCount : ℤ) (cs : List Contribution) :
  (fillResponseCandidates label scoreMultiplier maxCandidateCount (cs.foldl Contribution.add [])).map
      (fun candidate => (candidate.itemId, candidate.retrieveScore))
    = (Ranked.sortBy (Ranked.higherFirst Prod.snd Prod.fst)
        (((cs.filter (·.Accepted)).map (·.itemId)).eraseDups.map fun id =>
          (id, scoreMultiplier * ((Contribution.acceptedTo id cs).map (·.product)).sum))).take
      maxCandidateCount.toNat
  := by
  have hlt : ∀ a b : CandidateScore,
      Ranked.higherFirst CandidateScore.score CandidateScore.itemId a b
        = Ranked.higherFirst Prod.snd Prod.fst
          (a.itemId, a.score * scoreMultiplier) (b.itemId, b.score * scoreMultiplier) := by
    intro a b
    simp only [Ranked.higherFirst, ne_eq, mul_left_inj' hmultiplier.ne',
      mul_lt_mul_iff_left₀ hmultiplier]
  have hscores := congrArg (List.map fun p : ℕ × ℚ => (p.1, scoreMultiplier * p.2))
    (Contribution.map_score_foldl_add cs)
  rw [fillResponseCandidates, List.map_map, List.map_take]
  congr 1
  have hmap := Ranked.map_sortBy _
    (fun scored : CandidateScore => (scored.itemId, scored.score * scoreMultiplier))
    (l := (cs.foldl Contribution.add []).map Prod.snd) hlt
  apply hmap.trans
  congr 1
  rw [List.map_map, List.map_map (l := List.eraseDups _)] at hscores
  apply Eq.trans _ hscores
  apply List.map_congr_left
  intro scored _
  simp only [Function.comp_apply, mul_comm]

/-- The best items do not depend on the order of the contributions. -/
theorem map_score_fillResponseCandidates_perm {label : RetrieverLabel} {scoreMultiplier : ℚ}
    (hmultiplier : 0 < scoreMultiplier) (maxCandidateCount : ℤ) {cs cs' : List Contribution}
    (h : cs.Perm cs') :
  (fillResponseCandidates label scoreMultiplier maxCandidateCount (cs.foldl Contribution.add [])).map
      (fun candidate => (candidate.itemId, candidate.retrieveScore))
    = (fillResponseCandidates label scoreMultiplier maxCandidateCount
        (cs'.foldl Contribution.add [])).map
      (fun candidate => (candidate.itemId, candidate.retrieveScore))
  := by
  rw [map_score_fillResponseCandidates hmultiplier, map_score_fillResponseCandidates hmultiplier]
  have hids := Keyed.eraseDups_perm ((h.filter (·.Accepted)).map (·.itemId))
  have hsums : ∀ id, ((Contribution.acceptedTo id cs).map (·.product)).sum
      = ((Contribution.acceptedTo id cs').map (·.product)).sum :=
    fun id => ((h.filter _).map _).sum_eq
  simp only [hsums]
  congr 1
  apply Ranked.sortBy_eq_of_perm (Ranked.compares_higherFirst Prod.snd Prod.fst) _ (hids.map _)
  apply Ranked.nodup_map_scoreRank
  rw [List.map_map]
  apply (Keyed.nodup_eraseDups _).map
  exact Function.injective_id

section Found

variable {α : Type} {itemId : α → ℕ} {score : α → ℚ} {itemIdsToFilterOut : List ℕ}
  {found : List (TriggerSeed × List α)}

/-- The items found from the seeds that count, in the order first seen. -/
def foundItems (itemId : α → ℕ) (score : α → ℚ) (itemIdsToFilterOut : List ℕ)
    (found : List (TriggerSeed × List α)) : List ℕ :=
  (((found.flatMap Prod.snd).filter fun item =>
    itemId item ≠ 0 ∧ itemId item ∉ itemIdsToFilterOut ∧ 0 < score item).map itemId).eraseDups

/-- The sum over the seeds of the seed's score times the positive scores of item `id`. -/
def weightedSum (itemId : α → ℕ) (score : α → ℚ) (found : List (TriggerSeed × List α))
    (id : ℕ) : ℚ :=
  (found.map fun (triggerSeed, items) =>
    ((items.filter fun item => itemId item = id ∧ 0 < score item).map fun item =>
      triggerSeed.score * score item).sum).sum

/-- Selecting contributions of seeds of positive score is selecting what is found. -/
theorem filter_contributions (itemId : α → ℕ) (score : α → ℚ) (itemIdsToFilterOut : List ℕ)
    (hfound : ∀ seed ∈ found, 0 < seed.1.score) (p : ℕ → Bool) :
  (contributions itemId score itemIdsToFilterOut found).filter
      (fun c => c.Accepted ∧ p c.itemId)
    = found.flatMap fun seed =>
      (seed.2.filter fun item => itemId item ≠ 0 ∧ itemId item ∉ itemIdsToFilterOut
        ∧ 0 < score item ∧ p (itemId item)).map fun item => ⟨seed.1, itemId item, score item⟩
  := by
  rw [contributions, List.filter_flatMap]
  apply List.flatMap_congr
  intro seed hseed
  rw [List.filter_map, List.filter_filter]
  congr 1
  apply List.filter_congr
  intro item _
  have hproduct : 0 < seed.1.score * score item ↔ 0 < score item :=
    mul_pos_iff_of_pos_left (hfound seed hseed)
  simp only [Function.comp_apply, Contribution.Accepted, Arithmetic.exact_mul, hproduct, and_self]
  rw [← Bool.decide_and]
  apply decide_eq_decide.mpr
  tauto

/-- The items of the accepted contributions are those found. -/
theorem map_itemId_accepted_contributions (hfound : ∀ seed ∈ found, 0 < seed.1.score) :
  (((contributions itemId score itemIdsToFilterOut found).filter (·.Accepted)).map
      (·.itemId)).eraseDups
    = foundItems itemId score itemIdsToFilterOut found
  := by
  have hfilter := filter_contributions itemId score itemIdsToFilterOut hfound fun _ => true
  simp only [and_true] at hfilter
  rw [hfilter, foundItems, List.filter_flatMap, List.map_flatMap, List.map_flatMap]
  simp only [List.map_map]
  rfl

/-- The accepted contributions to an item add up to its weighted sum. -/
theorem sum_acceptedTo_contributions (hfound : ∀ seed ∈ found, 0 < seed.1.score) {id : ℕ}
    (hid : id ≠ 0) (hfilter : id ∉ itemIdsToFilterOut) :
  ((Contribution.acceptedTo id (contributions itemId score itemIdsToFilterOut found)).map
      (·.product)).sum
    = weightedSum itemId score found id
  := by
  have hacceptedTo := filter_contributions itemId score itemIdsToFilterOut hfound (· = id)
  simp only [decide_eq_true_eq] at hacceptedTo
  rw [Contribution.acceptedTo, hacceptedTo, List.map_flatMap, List.flatMap_def, List.sum_flatten,
    List.map_map, weightedSum]
  congr 1
  apply List.map_congr_left
  intro seed _
  simp only [Function.comp_apply, List.map_map]
  congr 2
  apply List.filter_congr
  intro item _
  apply decide_eq_decide.mpr
  constructor
  · rintro ⟨-, -, hscore, rfl⟩
    exact ⟨rfl, hscore⟩
  · rintro ⟨rfl, hscore⟩
    exact ⟨hid, hfilter, hscore, rfl⟩

theorem mem_foundItems {id : ℕ} :
  id ∈ foundItems itemId score itemIdsToFilterOut found
    ↔ id ≠ 0 ∧ id ∉ itemIdsToFilterOut
      ∧ ∃ seed ∈ found, ∃ item ∈ seed.2, itemId item = id ∧ 0 < score item
  := by
  simp only [foundItems, List.mem_eraseDups, List.mem_map, List.mem_filter, List.mem_flatMap,
    decide_eq_true_eq]
  constructor
  · rintro ⟨item, ⟨⟨seed, hseed, hitem⟩, hid, hfilter, hscore⟩, rfl⟩
    exact ⟨hid, hfilter, seed, hseed, item, hitem, rfl, hscore⟩
  · rintro ⟨hid, hfilter, seed, hseed, item, hitem, rfl, hscore⟩
    exact ⟨item, ⟨⟨seed, hseed, hitem⟩, hid, hfilter, hscore⟩, rfl⟩

/-- The weighted sum of an item found is positive. -/
theorem weightedSum_pos (hfound : ∀ seed ∈ found, 0 < seed.1.score) {id : ℕ}
    (h : id ∈ foundItems itemId score itemIdsToFilterOut found) :
  0 < weightedSum itemId score found id
  := by
  have hmem := h
  rw [← map_itemId_accepted_contributions hfound, List.mem_eraseDups] at hmem
  obtain ⟨c, hc, rfl⟩ := List.mem_map.mp hmem
  obtain ⟨hc, haccepted⟩ := List.mem_filter.mp hc
  obtain ⟨hid, hfilter, -⟩ := mem_foundItems.mp h
  rw [← sum_acceptedTo_contributions hfound hid hfilter]
  apply List.sum_pos
  · intro product hproduct
    obtain ⟨other, hother, rfl⟩ := List.mem_map.mp hproduct
    exact (of_decide_eq_true (List.mem_filter.mp hother).2).1.2.2
  · apply List.ne_nil_of_mem (a := c.product)
    apply List.mem_map_of_mem
    exact List.mem_filter.mpr ⟨hc, decide_eq_true ⟨of_decide_eq_true haccepted, rfl⟩⟩

/-- The best of the scored items, at most `maxCandidateCount`. -/
def bestItems (maxCandidateCount : ℤ) (scores : List (ℕ × ℚ)) : List (ℕ × ℚ) :=
  (Ranked.sortBy (Ranked.higherFirst Prod.snd Prod.fst) scores).take maxCandidateCount.toNat

theorem mem_of_mem_bestItems {maxCandidateCount : ℤ} {scores : List (ℕ × ℚ)} {p : ℕ × ℚ}
    (h : p ∈ bestItems maxCandidateCount scores) :
  p ∈ scores
  := Ranked.mem_sortBy.mp (List.mem_of_mem_take h)

section Candidates

variable {candidates : List CandidateItem} {maxCandidateCount : ℤ} {ids : List ℕ}
  {itemScore : ℕ → ℚ}

/-- Candidates that are the best of distinct items are distinct. -/
theorem nodup_map_itemId_of_bestItems
    (h : candidates.map (fun c => (c.itemId, c.retrieveScore))
      = bestItems maxCandidateCount (ids.map fun id => (id, itemScore id)))
    (hids : ids.Nodup) :
  (candidates.map (·.itemId)).Nodup
  := by
  have hfst : candidates.map (·.itemId)
      = (bestItems maxCandidateCount (ids.map fun id => (id, itemScore id))).map Prod.fst := by
    rw [← h, List.map_map]
    rfl
  have hkeys : (ids.map fun id => (id, itemScore id)).map Prod.fst = ids := by
    rw [List.map_map]
    exact List.map_id ids
  rw [hfst]
  apply List.Nodup.sublist ((List.take_sublist _ _).map _)
  apply ((Ranked.sortBy_perm _ _).map _).nodup_iff.mpr
  rwa [hkeys]

/-- Candidates that are the best of items of positive score have positive scores. -/
theorem retrieveScore_pos_of_bestItems
    (h : candidates.map (fun c => (c.itemId, c.retrieveScore))
      = bestItems maxCandidateCount (ids.map fun id => (id, itemScore id)))
    (hscores : ∀ id ∈ ids, 0 < itemScore id) {candidate : CandidateItem}
    (hcandidate : candidate ∈ candidates) :
  0 < candidate.retrieveScore
  := by
  have hmem : (candidate.itemId, candidate.retrieveScore)
      ∈ bestItems maxCandidateCount (ids.map fun id => (id, itemScore id)) := by
    rw [← h]
    exact List.mem_map_of_mem hcandidate
  obtain ⟨id, hid, he⟩ := List.mem_map.mp (mem_of_mem_bestItems hmem)
  rw [← (Prod.mk.inj he).2]
  exact hscores id hid

end Candidates

theorem nodup_foundItems :
  (foundItems itemId score itemIdsToFilterOut found).Nodup
  := Keyed.nodup_eraseDups _

/-- The candidates are the best of the items found, by weighted sum. -/
theorem fillResponseCandidates_contributions {label : RetrieverLabel} {scoreMultiplier : ℚ}
    (hmultiplier : 0 < scoreMultiplier) (maxCandidateCount : ℤ)
    (hfound : ∀ seed ∈ found, 0 < seed.1.score) :
  (fillResponseCandidates label scoreMultiplier maxCandidateCount
      ((contributions itemId score itemIdsToFilterOut found).foldl Contribution.add [])).map
      (fun candidate => (candidate.itemId, candidate.retrieveScore))
    = bestItems maxCandidateCount
      ((foundItems itemId score itemIdsToFilterOut found).map fun id =>
        (id, scoreMultiplier * weightedSum itemId score found id))
  := by
  rw [map_score_fillResponseCandidates hmultiplier, map_itemId_accepted_contributions hfound,
    bestItems]
  congr 2
  apply List.map_congr_left
  intro id hid
  obtain ⟨hne, hfilter, -⟩ := mem_foundItems.mp hid
  rw [sum_acceptedTo_contributions hfound hne hfilter]

end Found

end RecommendationEngine
