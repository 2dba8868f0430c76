import Mathlib.Algebra.Order.Field.Rat
import ShootingStar.Lib.Rounding
import ShootingStar.Lib.Keyed
import ShootingStar.Lib.Ranked
import ShootingStar.Messages

/-!
# Retrievers

What the retrievers share: the checks around a retrieval, the items a user has consumed, which
are never retrieved, and the map from items to scores in which they accumulate contributions.

Scores are computed in an arithmetic that may round.  Where a statement names none, it is about exact
scores.

An item is in the map exactly when some contribution to it is accepted
(`Contribution.map_itemId_foldl_add`), and there are candidates when there is such a contribution
(`fillResponseCandidates_ne_nil`).
-/

namespace RecommendationEngine

/-- An item or a user from which candidates are found. -/
structure TriggerSeed where
  entityId : ℕ := 0
  score : ℚ := 0
  deriving DecidableEq, Repr

/-- The score of a candidate, and the contribution that explains it best. -/
structure CandidateScore where
  itemId : ℕ := 0
  score : ℚ := 0
  triggerEntityId : ℕ := 0
  triggerScore : ℚ := 0
  sourceScore : ℚ := 0
  reasonScore : ℚ := 0
  deriving DecidableEq, Repr

/-! ### Consumed items -/

/-- The positive identifiers among `items`. -/
def appendItemIdsToFilterOut (items : List ℤ) (itemIds : List ℕ) : List ℕ :=
  itemIds ++ (items.filter (0 < ·)).map Int.toNat

/-- The items a retriever leaves out. -/
def collectItemIdsToFilterOut (profile : Profile) : List ℕ :=
  let behaviors := profile.behaviors
  let ids := appendItemIdsToFilterOut (behaviors.recentLikedItems.map (·.itemId)) []
  let ids := appendItemIdsToFilterOut (behaviors.likedItems.map (·.itemId)) ids
  let ids := appendItemIdsToFilterOut (behaviors.interestedItems.map (·.itemId)) ids
  let ids := appendItemIdsToFilterOut behaviors.ratedItems ids
  appendItemIdsToFilterOut (profile.negativeFeedbacks.items.map (·.itemId)) ids

/-- The identifiers a profile lists as consumed. -/
def consumedItems (profile : Profile) : List ℤ :=
  profile.behaviors.recentLikedItems.map (·.itemId)
    ++ profile.behaviors.likedItems.map (·.itemId)
    ++ profile.behaviors.interestedItems.map (·.itemId)
    ++ profile.behaviors.ratedItems
    ++ profile.negativeFeedbacks.items.map (·.itemId)

theorem mem_appendItemIdsToFilterOut {items : List ℤ} {itemIds : List ℕ} {id : ℕ}
    (hid : id ≠ 0) :
  id ∈ appendItemIdsToFilterOut items itemIds ↔ id ∈ itemIds ∨ (id : ℤ) ∈ items
  := by
  rw [appendItemIdsToFilterOut, List.mem_append, List.mem_map]
  apply or_congr_right
  constructor
  · rintro ⟨item, hitem, rfl⟩
    obtain ⟨hmem, hpos⟩ := List.mem_filter.mp hitem
    rw [decide_eq_true_eq] at hpos
    rwa [Int.toNat_of_nonneg hpos.le]
  · intro hmem
    refine ⟨id, List.mem_filter.mpr ⟨hmem, ?_⟩, Int.toNat_natCast id⟩
    rw [decide_eq_true_eq]
    omega

/-- The items left out are those consumed. -/
theorem mem_collectItemIdsToFilterOut {profile : Profile} {id : ℕ} (hid : id ≠ 0) :
  id ∈ collectItemIdsToFilterOut profile ↔ (id : ℤ) ∈ consumedItems profile
  := by
  simp only [collectItemIdsToFilterOut, mem_appendItemIdsToFilterOut hid, List.not_mem_nil,
    false_or, consumedItems, List.mem_append]

/-! ### The checks around a retrieval -/

namespace RetrieverBase

/-- The message of an invalid request. -/
def requestProblem (request : RetrieverRequest) : Option String :=
  if request.userId ≤ 0 then some s!"Invalid user_id {request.userId}."
  else if request.profile.isNone then
    some s!"Profile is required for user {request.userId}."
  else none

/-- `Retrieve` around the retrieval of a retriever. -/
def retrieve (defaultMaxCandidateCount : ℤ) (doRetrieve : Stub RetrieverRequest RetrieverResponse) :
    Stub RetrieverRequest RetrieverResponse := fun request =>
  let request :=
    if request.maxCandidateCount ≤ 0 then
      { request with maxCandidateCount := defaultMaxCandidateCount }
    else request
  match requestProblem request with
  | some message =>
    (⟨.invalidArgument, message⟩, { status := .invalidRequest, msg := message })
  | none =>
    let (status, response) := doRetrieve request
    if !status.isOk then
      (status, if response.msg = "" then { response with msg := status.message } else response)
    else if response.status = .success then
      (status, { response with msg := "", candidateCount := response.candidates.length })
    else if response.msg = "" then
      (status, { response with
        msg := s!"Retriever finished with status {response.status.toInt}." })
    else (status, response)

/-- The candidates of a retrieval are those of the retriever, for the same profile. -/
theorem of_mem_candidates_retrieve {defaultMaxCandidateCount : ℤ}
    {doRetrieve : Stub RetrieverRequest RetrieverResponse} {request : RetrieverRequest}
    {candidate : CandidateItem}
    (h : candidate ∈ (retrieve defaultMaxCandidateCount doRetrieve request).2.candidates) :
  ∃ request' : RetrieverRequest, request'.profile = request.profile
    ∧ candidate ∈ (doRetrieve request').2.candidates
  := by
  use if request.maxCandidateCount ≤ 0 then
      { request with maxCandidateCount := defaultMaxCandidateCount } else request
  constructor
  · split <;> rfl
  · simp only [retrieve] at h
    generalize (if request.maxCandidateCount ≤ 0 then
      { request with maxCandidateCount := defaultMaxCandidateCount } else request) = request' at *
    split at h
    · simp at h
    · repeat' split at h
      all_goals exact h

/-- A valid request is answered as the retriever answers it, up to the message and the count. -/
theorem retrieve_eq (defaultMaxCandidateCount : ℤ)
    (doRetrieve : Stub RetrieverRequest RetrieverResponse) {request : RetrieverRequest}
    (hproblem : requestProblem request = none) (hmax : 0 < request.maxCandidateCount) :
  (retrieve defaultMaxCandidateCount doRetrieve request).1 = (doRetrieve request).1
    ∧ (retrieve defaultMaxCandidateCount doRetrieve request).2.status
      = (doRetrieve request).2.status
    ∧ (retrieve defaultMaxCandidateCount doRetrieve request).2.candidates
      = (doRetrieve request).2.candidates
  := by
  simp only [retrieve, not_le.mpr hmax, if_false, hproblem]
  repeat' split
  all_goals exact ⟨rfl, rfl, rfl⟩

end RetrieverBase

/-! ### Weighted items -/

section WeightedItems

variable [Arithmetic ℚ] {σ : Type}

/-- The score of an item at position `index` of a channel, from 0; a weight that is not positive
counts as 1. -/
def weightedScore (baseScore : ℚ) (item : WeightedItem) (index : ℕ) : ℚ :=
  let itemWeight := if 0 < item.weight then item.weight else 1
  Arithmetic.div (Arithmetic.mul baseScore itemWeight) ((index : ℚ) + 1)

/-- The entry of an item at its position; an item without a positive identifier has none. -/
def weightedEntry (entry : ℕ → ℚ → σ) (baseScore : ℚ) (indexed : WeightedItem × ℕ) : Option σ :=
  if indexed.1.itemId ≤ 0 then none
  else some (entry indexed.1.itemId.toNat (weightedScore baseScore indexed.1 indexed.2))

/-- The items of one channel in order; an item seen before is skipped.  `acc` holds the items
seen and the entries so far. -/
def appendWeightedItems (key : σ → ℕ) (entry : ℕ → ℚ → σ) (items : List WeightedItem)
    (baseScore : ℚ) (acc : List ℕ × List σ) : List ℕ × List σ :=
  items.zipIdx.foldl (Keyed.addUnseen key (weightedEntry entry baseScore)) acc

/-- The entries of three channels in order, each with its own base score. -/
def collectWeightedItems (key : σ → ℕ) (entry : ℕ → ℚ → σ)
    (channel₁ channel₂ channel₃ : List WeightedItem × ℚ) : List σ :=
  let acc := appendWeightedItems key entry channel₁.1 channel₁.2 ([], [])
  let acc := appendWeightedItems key entry channel₂.1 channel₂.2 acc
  (appendWeightedItems key entry channel₃.1 channel₃.2 acc).2

/-- The entries of the items of a channel. -/
def weightedEntries (entry : ℕ → ℚ → σ) (channel : List WeightedItem × ℚ) : List σ :=
  channel.1.zipIdx.filterMap (weightedEntry entry channel.2)

/-- Three channels give the first entry of every item. -/
theorem collectWeightedItems_eq (key : σ → ℕ) (entry : ℕ → ℚ → σ)
    (channel₁ channel₂ channel₃ : List WeightedItem × ℚ) :
  collectWeightedItems key entry channel₁ channel₂ channel₃
    = Keyed.firsts key ([channel₁, channel₂, channel₃].flatMap (weightedEntries entry))
  := by
  obtain ⟨hseen₁, h₁⟩ := Keyed.foldl_addUnseen key (weightedEntry entry channel₁.2)
    channel₁.1.zipIdx (Keyed.seen_nil key)
  obtain ⟨hseen₂, h₂⟩ := Keyed.foldl_addUnseen key (weightedEntry entry channel₂.2)
    channel₂.1.zipIdx hseen₁
  obtain ⟨-, h₃⟩ := Keyed.foldl_addUnseen key (weightedEntry entry channel₃.2)
    channel₃.1.zipIdx hseen₂
  simp only [List.flatMap_cons, List.flatMap_nil, List.append_nil]
  rw [← List.append_assoc, Keyed.firsts_append, Keyed.firsts_append]
  simp only [collectWeightedItems, appendWeightedItems, h₃, h₂, h₁]
  rfl

/-- An entry has the score of a positive item at its position. -/
theorem exists_of_mem_weightedEntries {entry : ℕ → ℚ → σ} {channel : List WeightedItem × ℚ} {e : σ}
    (h : e ∈ weightedEntries entry channel) :
  ∃ item ∈ channel.1, 0 < item.itemId ∧ ∃ index < channel.1.length,
    e = entry item.itemId.toNat (weightedScore channel.2 item index)
  := by
  obtain ⟨indexed, hmem, he⟩ := List.mem_filterMap.mp h
  rw [weightedEntry] at he
  split at he
  · cases he
  next hid =>
    have hindex : indexed.2 < channel.1.length + 0 := List.snd_lt_of_mem_zipIdx hmem
    exact ⟨indexed.1, List.fst_mem_of_mem_zipIdx hmem, lt_of_not_ge hid, indexed.2, by omega,
      (Option.some.inj he).symm⟩

variable {key : σ → ℕ} {entry : ℕ → ℚ → σ} {channel₁ channel₂ channel₃ : List WeightedItem × ℚ}

/-- An entry of the channels has the score of a positive item at its position in one of them. -/
theorem exists_of_mem_collectWeightedItems {e : σ}
    (h : e ∈ collectWeightedItems key entry channel₁ channel₂ channel₃) :
  ∃ channel ∈ [channel₁, channel₂, channel₃], ∃ item ∈ channel.1, 0 < item.itemId
    ∧ ∃ index < channel.1.length,
      e = entry item.itemId.toNat (weightedScore channel.2 item index)
  := by
  rw [collectWeightedItems_eq] at h
  obtain ⟨channel, hchannel, he⟩ := List.mem_flatMap.mp ((Keyed.firsts_sublist _ _).subset h)
  exact ⟨channel, hchannel, exists_of_mem_weightedEntries he⟩

end WeightedItems

/-- An exact score is positive when the channel counts. -/
theorem weightedScore_pos {baseScore : ℚ} (hbase : 0 < baseScore) (item : WeightedItem)
    (index : ℕ) :
  0 < weightedScore baseScore item index
  := by
  have hweight : 0 < (if 0 < item.weight then item.weight else 1) := by
    split
    · assumption
    · exact zero_lt_one
  exact div_pos (mul_pos hbase hweight) (Nat.cast_add_one_pos index)

/-! ### Candidate scores -/

section Scores

variable [Arithmetic ℚ]

/-- The score of an item with one contribution more; the greatest contribution explains it. -/
def scoreContribution (triggerSeed : TriggerSeed) (itemId : ℕ) (score : ℚ)
    (found : Option CandidateScore) : CandidateScore :=
  let contribution := Arithmetic.mul triggerSeed.score score
  let candidate := found.getD { itemId := itemId }
  let candidate := { candidate with score := Arithmetic.add candidate.score contribution }
  if found.isNone ∨ candidate.reasonScore < contribution then
    { candidate with
      triggerEntityId := triggerSeed.entityId
      triggerScore := triggerSeed.score
      sourceScore := score
      reasonScore := contribution }
  else candidate

/-- `AddCandidateContribution`. -/
def addCandidateContribution (triggerSeed : TriggerSeed) (itemId : ℕ) (score : ℚ)
    (candidates : List (ℕ × CandidateScore)) : List (ℕ × CandidateScore) :=
  if itemId = 0 ∨ score ≤ 0 then candidates
  else if Arithmetic.mul triggerSeed.score score ≤ 0 then candidates
  else Keyed.upsert itemId (scoreContribution triggerSeed itemId score) candidates

/-- The loops that add, for each seed in order, what is found from it.  Items in
`itemIdsToFilterOut` are skipped. -/
def aggregateContributions {α : Type} (itemId : α → ℕ) (score : α → ℚ)
    (itemIdsToFilterOut : List ℕ) (found : List (TriggerSeed × List α))
    (candidates : List (ℕ × CandidateScore)) : List (ℕ × CandidateScore) :=
  found.foldl
    (fun candidates (triggerSeed, items) =>
      items.foldl
        (fun candidates item =>
          if itemId item ∈ itemIdsToFilterOut then candidates
          else addCandidateContribution triggerSeed (itemId item) (score item) candidates)
        candidates)
    candidates

end Scores

/-- Higher scores first, then smaller items. -/
def sortCandidates (candidates : List (ℕ × CandidateScore)) : List CandidateScore :=
  Ranked.sortBy (Ranked.higherFirst CandidateScore.score CandidateScore.itemId)
    (candidates.map Prod.snd)

/-- What a retriever writes into its candidates. -/
structure RetrieverLabel where
  name : String
  reasonType : ReasonType
  entityType : EntityType
  describe : ℕ → String

section Scores

variable [Arithmetic ℚ]

/-- The candidate of a scored item. -/
def buildCandidate (label : RetrieverLabel) (scoreMultiplier : ℚ) (scored : CandidateScore) :
    CandidateItem :=
  let reason : RetrievalReason := {
    reasonType := label.reasonType
    trigger := { entityType := label.entityType, entityId := scored.triggerEntityId }
    reasonScore := Arithmetic.mul scored.reasonScore scoreMultiplier
    description := label.describe scored.triggerEntityId }
  { itemId := scored.itemId
    itemType := .unspecified
    retriever := label.name
    retrieveScore := Arithmetic.mul scored.score scoreMultiplier
    reasons := [reason]
    retrievalSignals := [{
      retriever := label.name
      retrieveScore := Arithmetic.mul scored.score scoreMultiplier
      reasons := [reason] }] }

/-- The best candidates of the map, at most `maxCandidateCount`. -/
def fillResponseCandidates (label : RetrieverLabel) (scoreMultiplier : ℚ)
    (maxCandidateCount : ℤ) (candidates : List (ℕ × CandidateScore)) : List CandidateItem :=
  ((sortCandidates candidates).take maxCandidateCount.toNat).map
    (buildCandidate label scoreMultiplier)

end Scores

/-! ### The scores of contributions -/

/-- The arguments of a call of `AddCandidateContribution`. -/
structure Contribution where
  triggerSeed : TriggerSeed
  itemId : ℕ
  score : ℚ
  deriving DecidableEq, Repr

section Scores

variable [Arithmetic ℚ]

namespace Contribution

/-- The call changes the map. -/
def Accepted (c : Contribution) : Prop :=
  c.itemId ≠ 0 ∧ 0 < c.score ∧ 0 < Arithmetic.mul c.triggerSeed.score c.score

instance (c : Contribution) : Decidable c.Accepted :=
  inferInstanceAs (Decidable (_ ∧ _))

/-- The effect of the call on the map. -/
def add (candidates : List (ℕ × CandidateScore)) (c : Contribution) :
    List (ℕ × CandidateScore) :=
  addCandidateContribution c.triggerSeed c.itemId c.score candidates

/-- The effect of the call on the score of its item. -/
def updateScore (c : Contribution) : Option CandidateScore → CandidateScore :=
  scoreContribution c.triggerSeed c.itemId c.score

theorem add_eq_ite (candidates : List (ℕ × CandidateScore)) (c : Contribution) :
  add candidates c
    = if c.Accepted then Keyed.upsert c.itemId c.updateScore candidates else candidates
  := by
  rw [add, addCandidateContribution]
  by_cases hid : c.itemId = 0
  · simp [Accepted, hid]
  · by_cases hscore : c.score ≤ 0
    · simp [Accepted, hscore, not_lt.mpr hscore]
    · by_cases hproduct : Arithmetic.mul c.triggerSeed.score c.score ≤ 0
      · simp [Accepted, hid, hscore, hproduct, not_lt.mpr hproduct]
      · simp [Accepted, hid, hscore, hproduct, lt_of_not_ge hscore, lt_of_not_ge hproduct,
          updateScore]

/-- The map collects the accepted contributions by item. -/
theorem foldl_add (cs : List Contribution) :
  cs.foldl add [] = Keyed.collect itemId updateScore (cs.filter (·.Accepted))
  := by
  rw [Keyed.collect, List.foldl_filter]
  congr 1
  funext candidates c
  rw [add_eq_ite]
  simp only [decide_eq_true_eq]

/-- An entry of the map is the score of its own item. -/
theorem fst_of_mem_foldl_add {cs : List Contribution} {p : ℕ × CandidateScore}
    (h : p ∈ cs.foldl add []) :
  p.1 = p.2.itemId
  := by
  rw [foldl_add] at h
  apply Keyed.of_mem_collect (fun k v => k = v.itemId) _ h
  intro c _ found hfound
  cases found with
  | none => simp [updateScore, scoreContribution]
  | some v =>
      have hv := hfound v rfl
      simp only [updateScore, scoreContribution]
      split <;> exact hv

/-- The items of the map are those of the accepted contributions. -/
theorem map_itemId_foldl_add (cs : List Contribution) :
  ((cs.foldl add []).map Prod.snd).map (·.itemId)
    = ((cs.filter (·.Accepted)).map itemId).eraseDups
  := by
  rw [← Keyed.map_fst_collect itemId updateScore, ← foldl_add, List.map_map]
  apply List.map_congr_left
  intro p hp
  exact (fst_of_mem_foldl_add hp).symm

end Contribution

end Scores

/-- The contributions of what is found from the seeds. -/
def contributions {α : Type} (itemId : α → ℕ) (score : α → ℚ) (itemIdsToFilterOut : List ℕ)
    (found : List (TriggerSeed × List α)) : List Contribution :=
  found.flatMap fun (triggerSeed, items) =>
    (items.filter (itemId · ∉ itemIdsToFilterOut)).map fun item =>
      ⟨triggerSeed, itemId item, score item⟩

theorem aggregateContributions_eq [Arithmetic ℚ] {α : Type} (itemId : α → ℕ) (score : α → ℚ)
    (itemIdsToFilterOut : List ℕ) (found : List (TriggerSeed × List α))
    (candidates : List (ℕ × CandidateScore)) :
  aggregateContributions itemId score itemIdsToFilterOut found candidates
    = (contributions itemId score itemIdsToFilterOut found).foldl Contribution.add candidates
  := by
  rw [contributions, List.foldl_flatMap, aggregateContributions]
  apply List.foldl_ext
  rintro candidates ⟨triggerSeed, items⟩ _
  rw [List.foldl_map, List.foldl_filter]
  apply List.foldl_ext
  intro candidates item _
  by_cases h : itemId item ∈ itemIdsToFilterOut <;> simp [h, Contribution.add]

theorem mem_contributions {α : Type} {itemId : α → ℕ} {score : α → ℚ}
    {itemIdsToFilterOut : List ℕ} {found : List (TriggerSeed × List α)} {c : Contribution} :
  c ∈ contributions itemId score itemIdsToFilterOut found
    ↔ ∃ seed ∈ found, ∃ item ∈ seed.2, itemId item ∉ itemIdsToFilterOut
      ∧ c = ⟨seed.1, itemId item, score item⟩
  := by
  simp only [contributions, List.mem_flatMap, List.mem_map, List.mem_filter, decide_eq_true_eq]
  constructor
  · rintro ⟨seed, hseed, item, ⟨hitem, hfilter⟩, rfl⟩
    exact ⟨seed, hseed, item, hitem, hfilter, rfl⟩
  · rintro ⟨seed, hseed, item, hitem, hfilter, rfl⟩
    exact ⟨seed, hseed, item, ⟨hitem, hfilter⟩, rfl⟩

section Scores

variable [Arithmetic ℚ]

/-- The map collects contributions to items that are not left out. -/
def Collected (itemIdsToFilterOut : List ℕ) (candidates : List (ℕ × CandidateScore)) : Prop :=
  ∃ cs : List Contribution,
    candidates = cs.foldl Contribution.add [] ∧ ∀ c ∈ cs, c.itemId ∉ itemIdsToFilterOut

theorem collected_nil (itemIdsToFilterOut : List ℕ) :
  Collected itemIdsToFilterOut []
  := ⟨[], rfl, by simp⟩

theorem Collected.aggregateContributions {α : Type} {itemId : α → ℕ} {score : α → ℚ}
    {itemIdsToFilterOut : List ℕ} {candidates : List (ℕ × CandidateScore)}
    (h : Collected itemIdsToFilterOut candidates) (found : List (TriggerSeed × List α)) :
  Collected itemIdsToFilterOut
    (aggregateContributions itemId score itemIdsToFilterOut found candidates)
  := by
  obtain ⟨cs, rfl, hcs⟩ := h
  use cs ++ contributions itemId score itemIdsToFilterOut found
  constructor
  · rw [aggregateContributions_eq, List.foldl_append]
  · intro c hc
    rcases List.mem_append.mp hc with hc | hc
    · exact hcs c hc
    · obtain ⟨_, _, _, _, hfilter, rfl⟩ := mem_contributions.mp hc
      exact hfilter

/-! ### The candidates of a response -/

/-- The items of the candidates are items of the map. -/
theorem itemId_mem_of_mem_fillResponseCandidates {label : RetrieverLabel} {scoreMultiplier : ℚ}
    {maxCandidateCount : ℤ} {candidates : List (ℕ × CandidateScore)} {candidate : CandidateItem}
    (h : candidate ∈ fillResponseCandidates label scoreMultiplier maxCandidateCount candidates) :
  candidate.itemId ∈ (candidates.map Prod.snd).map (·.itemId)
  := by
  obtain ⟨scored, hscored, rfl⟩ := List.mem_map.mp h
  exact List.mem_map_of_mem (Ranked.mem_sortBy.mp (List.mem_of_mem_take hscored))

/-- A candidate comes from an accepted contribution. -/
theorem exists_accepted_of_mem_fillResponseCandidates {label : RetrieverLabel}
    {scoreMultiplier : ℚ} {maxCandidateCount : ℤ} {cs : List Contribution}
    {candidate : CandidateItem}
    (h : candidate ∈ fillResponseCandidates label scoreMultiplier maxCandidateCount
      (cs.foldl Contribution.add [])) :
  ∃ c ∈ cs, c.Accepted ∧ candidate.itemId = c.itemId
  := by
  have hid := itemId_mem_of_mem_fillResponseCandidates h
  rw [Contribution.map_itemId_foldl_add, List.mem_eraseDups] at hid
  obtain ⟨c, hc, he⟩ := List.mem_map.mp hid
  obtain ⟨hmem, haccepted⟩ := List.mem_filter.mp hc
  exact ⟨c, hmem, of_decide_eq_true haccepted, he.symm⟩

/-- No candidate is item 0 or has been consumed. -/
theorem not_consumed_of_mem_fillResponseCandidates {label : RetrieverLabel}
    {scoreMultiplier : ℚ} {maxCandidateCount : ℤ} {profile : Profile}
    {candidates : List (ℕ × CandidateScore)}
    (hcollected : Collected (collectItemIdsToFilterOut profile) candidates)
    {candidate : CandidateItem}
    (h : candidate ∈ fillResponseCandidates label scoreMultiplier maxCandidateCount candidates) :
  candidate.itemId ≠ 0 ∧ (candidate.itemId : ℤ) ∉ consumedItems profile
  := by
  obtain ⟨cs, rfl, hcs⟩ := hcollected
  obtain ⟨c, hc, haccepted, hid⟩ := exists_accepted_of_mem_fillResponseCandidates h
  rw [hid, ← mem_collectItemIdsToFilterOut haccepted.1]
  exact ⟨haccepted.1, hcs c hc⟩

/-- There are candidates when a contribution is accepted. -/
theorem fillResponseCandidates_ne_nil {label : RetrieverLabel} {scoreMultiplier : ℚ}
    {maxCandidateCount : ℤ} {cs : List Contribution} (hmax : 0 < maxCandidateCount) :
  fillResponseCandidates label scoreMultiplier maxCandidateCount (cs.foldl Contribution.add [])
      ≠ []
    ↔ ∃ c ∈ cs, c.Accepted
  := by
  constructor
  · intro h
    obtain ⟨candidate, hcandidate⟩ := List.exists_mem_of_ne_nil _ h
    obtain ⟨c, hc, haccepted, -⟩ := exists_accepted_of_mem_fillResponseCandidates hcandidate
    exact ⟨c, hc, haccepted⟩
  · rintro ⟨c, hc, haccepted⟩
    have hid : c.itemId ∈ ((cs.foldl Contribution.add []).map Prod.snd).map (·.itemId) := by
      rw [Contribution.map_itemId_foldl_add, List.mem_eraseDups]
      exact List.mem_map_of_mem (List.mem_filter.mpr ⟨hc, decide_eq_true haccepted⟩)
    obtain ⟨scored, hscored, -⟩ := List.mem_map.mp hid
    have hsorted : scored ∈ sortCandidates (cs.foldl Contribution.add []) :=
      Ranked.mem_sortBy.mpr hscored
    have hlength := List.length_pos_of_mem hsorted
    rw [← List.length_pos_iff, fillResponseCandidates, List.length_map, List.length_take]
    omega

end Scores

end RecommendationEngine
