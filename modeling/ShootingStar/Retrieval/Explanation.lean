import ShootingStar.Retrieval.ItemCf
import ShootingStar.Retrieval.UserCf

/-!
# Explanations

A candidate comes with the trigger that explains it best.  However the retrievers call
`AddCandidateContribution`, the explanation of an item in the map is one of the contributions to
its score, the first of the greatest of them (`explains_of_mem_foldl`).  In a response the score
of the reason is positive and at most that of the candidate
(`reason_of_mem_fillResponseCandidates`).
-/

namespace RecommendationEngine

/-- The entry of the map is the score of its item, made up of the accepted contributions among
`cs`, and its explanation is one of them and at most the score. -/
def Explains (cs : List Contribution) (entry : ℕ × CandidateScore) : Prop :=
  entry.2.itemId = entry.1
    ∧ entry.2.Explained (Contribution.acceptedTo entry.1 cs)
    ∧ entry.2.reasonScore = entry.2.triggerScore * entry.2.sourceScore
    ∧ 0 < entry.2.reasonScore
    ∧ entry.2.reasonScore ≤ entry.2.score

theorem explains_of_mem_foldl_add {cs : List Contribution} {entry : ℕ × CandidateScore}
    (h : entry ∈ cs.foldl Contribution.add []) :
  Explains cs entry
  := by
  obtain ⟨hid, hexplained⟩ := Contribution.explained_of_mem_foldl_add h
  use hid, hexplained, hexplained.reasonScore_eq
  apply hexplained.reasonScore_bounds
  intro c hc
  exact (of_decide_eq_true (List.mem_filter.mp hc).2).1

/-- The items of the map are those with an accepted contribution among `cs`, and each is explained. -/
def ExplainsAll (cs : List Contribution) (candidates : List (ℕ × CandidateScore)) : Prop :=
  (∀ entry ∈ candidates, Explains cs entry)
    ∧ ∀ id, id ∈ candidates.map Prod.fst ↔ ∃ c ∈ cs, c.Accepted ∧ c.itemId = id

theorem explainsAll_foldl_add (cs : List Contribution) :
  ExplainsAll cs (cs.foldl Contribution.add [])
  := by
  use fun entry hentry => explains_of_mem_foldl_add hentry
  intro id
  rw [Contribution.foldl_add, Keyed.map_fst_collect, List.mem_eraseDups, List.mem_map]
  simp only [List.mem_filter, decide_eq_true_eq, and_assoc]

/-- Whatever calls a retriever makes, its map is explained by them. -/
theorem explains_of_mem_foldl :
  (∀ calls : List (TriggerSeed × ItemNeighbor),
    ExplainsAll (calls.map fun call => ⟨call.1, call.2.itemId, call.2.score⟩)
      (calls.foldl (fun candidates call =>
        RetrieverItemCf.addCandidateContribution call.1 call.2 candidates) []))
  ∧ ∀ calls : List (TriggerSeed × ScoredItem),
    ExplainsAll (calls.map fun call => ⟨call.1, call.2.itemId, call.2.score⟩)
      (calls.foldl (fun candidates call =>
        RetrieverUserCf.addCandidateContribution call.1 call.2 candidates) [])
  := by
  constructor
  · intro calls
    have hmap := explainsAll_foldl_add (calls.map fun call => ⟨call.1, call.2.itemId, call.2.score⟩)
    rwa [List.foldl_map] at hmap
  · intro calls
    have hmap := explainsAll_foldl_add (calls.map fun call => ⟨call.1, call.2.itemId, call.2.score⟩)
    rwa [List.foldl_map] at hmap

/-- A candidate of a response has one reason, of positive score at most that of the candidate. -/
theorem reason_of_mem_fillResponseCandidates {label : RetrieverLabel} {scoreMultiplier : ℚ}
    (hmultiplier : 0 < scoreMultiplier) {maxCandidateCount : ℤ} {cs : List Contribution}
    {candidate : CandidateItem}
    (h : candidate ∈ fillResponseCandidates label scoreMultiplier maxCandidateCount
      (cs.foldl Contribution.add [])) :
  ∃ reason, candidate.reasons = [reason]
    ∧ 0 < reason.reasonScore ∧ reason.reasonScore ≤ candidate.retrieveScore
  := by
  obtain ⟨scored, hscored, rfl⟩ := List.mem_map.mp h
  have hmem := Ranked.mem_sortBy.mp (List.mem_of_mem_take hscored)
  obtain ⟨entry, hentry, rfl⟩ := List.mem_map.mp hmem
  obtain ⟨-, -, -, hpos, hle⟩ := explains_of_mem_foldl_add hentry
  refine ⟨_, rfl, ?_, ?_⟩
  · exact mul_pos hpos hmultiplier
  · exact mul_le_mul_of_nonneg_right hle hmultiplier.le

end RecommendationEngine
