import Mathlib.Tactic.Ring
import ShootingStar.Lib.Keyed
import ShootingStar.Lib.Ranked
import ShootingStar.Lib.Table
import ShootingStar.Retrieval.Candidate

/-!
# The heuristic ranker

The ranker merges the candidates of a request by item, scores each one, sorts them and returns
the best.  The score of a candidate is the sum of the contributions of its factors: its
retrieval score, the overlap of the item with the interests of the user, the overlap with the
negative feedback, and the quality of the item.  The natural logarithm `log1p` of the quality is
a parameter.

The ranked candidates are the first of all distinct items in the order of their scores, and do
not depend on the order of the request (`run_ranks`).
-/

namespace RecommendationEngine

/-! ### The item index -/

/-- A tag of an item with its weight. -/
structure ItemIndexWeightedTag where
  tag : String := ""
  weight : ℚ := 0
  deriving DecidableEq, Repr

/-- The average rating of an item and the number of its ratings. -/
structure ItemIndexRating where
  avg : ℚ := 0
  count : ℤ := 0
  deriving DecidableEq, Repr

/-- What the index knows about an item. -/
structure ItemIndexEntry where
  itemId : ℕ := 0
  title : String := ""
  year : ℤ := 0
  genres : List String := []
  topTags : List ItemIndexWeightedTag := []
  rating : ItemIndexRating := {}
  deriving DecidableEq, Repr

/-- The lookup of a list of items, or the message of the exception it throws. -/
structure ItemIndexStore where
  findByItemIds : List ℕ → Except String (List (Option ItemIndexEntry))

/-! ### Weights -/

/-- The weight of the score of the retrievers. -/
def kRetrievalWeight : ℚ := 1

/-- The weight of the interests of the user. -/
def kInterestWeight : ℚ := 1

/-- The weight of what the user does not like. -/
def kNegativeFeedbackWeight : ℚ := -1

/-- The weight of the ratings of the item. -/
def kQualityWeight : ℚ := 1 / 10

/-- Weights by name. -/
abbrev WeightByName := List (String × ℚ)

/-- Weights by item. -/
abbrev WeightByItemId := List (ℕ × ℚ)

/-- The weights of a repeated name add up, and an empty name has none. -/
def addWeight (name : String) (weight : ℚ) (weights : WeightByName) : WeightByName :=
  if name = "" then weights else Keyed.upsert name (fun w => w.getD 0 + weight) weights

/-- The weights of the entries of a profile. -/
def buildWeights {α : Type} (name : α → String) (weight : α → ℚ) (xs : List α) : WeightByName :=
  xs.foldl (fun weights x => addWeight (name x) (weight x) weights) []

/-- The genres that the user is interested in. -/
def buildGenreWeights (profile : Profile) : WeightByName :=
  buildWeights GenreInterest.genre GenreInterest.weight profile.interests.genres

/-- The tags that the user is interested in. -/
def buildTagWeights (profile : Profile) : WeightByName :=
  buildWeights TagInterest.tag TagInterest.weight profile.interests.tags

/-- The genres that the user does not like. -/
def buildNegativeGenreWeights (profile : Profile) : WeightByName :=
  buildWeights GenreInterest.genre GenreInterest.weight profile.negativeFeedbacks.genres

/-- The tags that the user does not like. -/
def buildNegativeTagWeights (profile : Profile) : WeightByName :=
  buildWeights TagInterest.tag TagInterest.weight profile.negativeFeedbacks.tags

/-- The items that the user does not like. -/
def buildNegativeItemWeights (profile : Profile) : WeightByItemId :=
  profile.negativeFeedbacks.items.foldl
    (fun weights item =>
      if item.itemId ≤ 0 then weights
      else Keyed.upsert item.itemId.toNat (fun w => w.getD 0 + item.weight) weights) []

/-- The weight of a name, or of an item; what is not listed has weight 0. -/
def lookupWeight {κ : Type} [DecidableEq κ] (weights : List (κ × ℚ)) (name : κ) : ℚ :=
  (weights.lookup name).getD 0

/-! ### Scores -/

/-- A factor contributes its value times its weight. -/
def buildScoreFactor (factorType : RankingScoreFactorType) (name : String) (rawValue weight : ℚ)
    (description : String) : RankingScoreFactor where
  factorType := factorType
  name := name
  rawValue := rawValue
  weight := weight
  contribution := rawValue * weight
  description := description

/-- The weights of the genres of an item and of its tags of positive weight. -/
def overlapScore (entry : ItemIndexEntry) (genreWeights tagWeights : WeightByName) : ℚ :=
  (entry.genres.map (lookupWeight genreWeights)).sum
    + ((entry.topTags.filter (0 < ·.weight)).map (lookupWeight tagWeights ·.tag)).sum

/-- How much the genres and tags of an item are of interest. -/
def computeInterestScore (entry : ItemIndexEntry) (genreWeights tagWeights : WeightByName) : ℚ :=
  overlapScore entry genreWeights tagWeights

/-- How much the genres and tags of an item are not liked. -/
def computeNegativeFeedbackScore (entry : ItemIndexEntry)
    (negativeGenreWeights negativeTagWeights : WeightByName) : ℚ :=
  overlapScore entry negativeGenreWeights negativeTagWeights

/-- The quality of an item by its ratings, zero when it has none. -/
def computeQualityScore (log1p : ℚ → ℚ) (entry : ItemIndexEntry) : ℚ :=
  if entry.rating.avg ≤ 0 ∨ entry.rating.count ≤ 0 then 0
  else entry.rating.avg / 5 * log1p entry.rating.count

/-- What a response tells of an item. -/
def fillItemFeatures (entry : ItemIndexEntry) : RankingItemFeatures where
  itemId := entry.itemId
  title := entry.title
  year := entry.year
  genres := entry.genres
  topTags := entry.topTags.map fun tag => { tag := tag.tag, weight := tag.weight }
  rating := { avg := entry.rating.avg, count := entry.rating.count }

/-- A candidate with its index entry, its score and the factors of the score. -/
structure ScoredCandidate where
  candidate : CandidateItem
  itemIndexEntry : Option ItemIndexEntry
  rankScore : ℚ := 0
  scoreFactors : List RankingScoreFactor := []

/-! ### The task -/

/-- The candidates of a request merged by item, without item 0. -/
def normalizeAndMergeCandidates (request : RankRequest) : List CandidateItem :=
  (request.candidates.foldl
    (fun (t : Table ℕ CandidateItem) candidate =>
      if candidate.itemId = 0 then t
      else t.visit true candidate.itemId (addOccurrence candidate)) {}).entries

/-- The task that ranks one request; a null store is `none`. -/
structure HeuristicRankTask where
  request : RankRequest
  itemIndexStore : Option ItemIndexStore
  genreWeights : WeightByName
  tagWeights : WeightByName
  negativeGenreWeights : WeightByName
  negativeTagWeights : WeightByName
  negativeItemWeights : WeightByItemId

namespace HeuristicRankTask

/-- The name of the ranker. -/
def kName : String := "heuristic_v1"

/-- The constructor. -/
def create (request : RankRequest) (store : Option ItemIndexStore) : HeuristicRankTask :=
  let profile := request.profile.getD {}
  { request := request
    itemIndexStore := store
    genreWeights := buildGenreWeights profile
    tagWeights := buildTagWeights profile
    negativeGenreWeights := buildNegativeGenreWeights profile
    negativeTagWeights := buildNegativeTagWeights profile
    negativeItemWeights := buildNegativeItemWeights profile }

/-- A candidate with one more part of its score. -/
def addFactor (rawValue weight : ℚ) (factorType : RankingScoreFactorType)
    (name description : String) (scored : ScoredCandidate) : ScoredCandidate :=
  let factor := buildScoreFactor factorType name rawValue weight description
  { scored with
    rankScore := scored.rankScore + factor.contribution
    scoreFactors := scored.scoreFactors ++ [factor] }

variable (log1p : ℚ → ℚ)

/-- The factors that need the index entry: the negative feedback score so far and the candidate,
both afterwards. -/
def addItemFactors (task : HeuristicRankTask) (entry : ItemIndexEntry)
    (negativeFeedbackScore : ℚ) (scored : ScoredCandidate) : ℚ × ScoredCandidate :=
  let scored := addFactor (computeInterestScore entry task.genreWeights task.tagWeights)
    kInterestWeight .interest "interest_match" "Genre and tag overlap with positive interests."
    scored
  let negativeFeedbackScore := negativeFeedbackScore
    + computeNegativeFeedbackScore entry task.negativeGenreWeights task.negativeTagWeights
  (negativeFeedbackScore,
    addFactor (computeQualityScore log1p entry) kQualityWeight .quality "quality"
      "Rating average with log-scaled rating count." scored)

/-- One turn of the loop of `ScoreCandidates`. -/
def scoreCandidate (task : HeuristicRankTask) (candidate : CandidateItem)
    (itemIndexEntry : Option ItemIndexEntry) : ScoredCandidate :=
  let scored := addFactor candidate.retrieveScore kRetrievalWeight .retrieval "retrieval"
    "Aggregated retrieval score."
    { candidate := candidate, itemIndexEntry := itemIndexEntry }
  let negativeFeedbackScore := lookupWeight task.negativeItemWeights candidate.itemId
  let (negativeFeedbackScore, scored) :=
    match itemIndexEntry with
    | some entry => task.addItemFactors log1p entry negativeFeedbackScore scored
    | none => (negativeFeedbackScore, scored)
  addFactor negativeFeedbackScore kNegativeFeedbackWeight .negativeFeedback "negative_feedback"
    "Item, genre, and tag overlap with negative feedback." scored

/-- The candidates with their scores. -/
def scoreCandidates (task : HeuristicRankTask) (candidates : List CandidateItem)
    (itemIndexEntries : List (Option ItemIndexEntry)) : List ScoredCandidate :=
  List.zipWith (task.scoreCandidate log1p) candidates itemIndexEntries

/-- A candidate of a response at its place, with the details asked for. -/
def fillRankedCandidate (task : HeuristicRankTask) (scored : ScoredCandidate)
    (rankPosition : ℤ) : RankedCandidateItem where
  candidate := scored.candidate
  rankScore := scored.rankScore
  rankPosition := rankPosition
  ranker := kName
  scoreFactors := if task.request.options.includeScoreFactors then scored.scoreFactors else []
  itemFeatures :=
    if task.request.options.includeItemFeatures then scored.itemIndexEntry.map fillItemFeatures
    else none
  retrievalSignals := scored.candidate.retrievalSignals

/-- The order of the ranked candidates. -/
def ranksBefore : ScoredCandidate → ScoredCandidate → Bool :=
  Ranked.higherFirst ScoredCandidate.rankScore (·.candidate.itemId)

/-- `Run` on a response that holds what the service filled in before; `error` is the message of
an exception of the store. -/
def run (task : HeuristicRankTask) (response : RankResponse) :
    Except String (Status × RankResponse) :=
  match task.itemIndexStore with
  | none =>
    let message := "Item index store is not initialized."
    .ok (⟨.internal, message⟩, { response with status := .systemError, msg := message })
  | some store =>
    let candidates := normalizeAndMergeCandidates task.request
    if candidates.isEmpty then
      .ok (.OK, { response with
        status := .emptyCandidates
        msg := "No candidates available for ranking."
        rankedCandidateCount := 0 })
    else
      (store.findByItemIds (candidates.map (·.itemId))).map fun itemIndexEntries =>
        if itemIndexEntries.length ≠ candidates.length then
          let message := s!"Item index store returned {itemIndexEntries.length} entries"
            ++ s!" for {candidates.length} candidates."
          (⟨.internal, message⟩, { response with status := .systemError, msg := message })
        else
          let scored := Ranked.sortBy ranksBefore
            (task.scoreCandidates log1p candidates itemIndexEntries)
          let maxResults := min task.request.maxResults scored.length
          let ranked := response.rankedCandidates
            ++ (scored.take maxResults.toNat).mapIdx fun index s =>
              task.fillRankedCandidate s (index + 1)
          (.OK, { response with
            status := .success
            msg := ""
            rankedCandidates := ranked
            rankedCandidateCount := ranked.length })

end HeuristicRankTask

/-! ### The expected score -/

/-- The total weight of the entries of a name. -/
def nameWeight {α : Type} (name : α → String) (weight : α → ℚ) (xs : List α) (n : String) : ℚ :=
  if n = "" then 0 else ((xs.filter (name · = n)).map weight).sum

/-- The overlap of an item with weighted genres and tags. -/
def overlap (genres : List GenreInterest) (tags : List TagInterest) (entry : ItemIndexEntry) : ℚ :=
  (entry.genres.map (nameWeight GenreInterest.genre GenreInterest.weight genres)).sum
    + ((entry.topTags.filter (0 < ·.weight)).map
        (nameWeight TagInterest.tag TagInterest.weight tags ·.tag)).sum

/-- The total weight of an item among weighted items. -/
def itemWeight (items : List WeightedItem) (id : ℕ) : ℚ :=
  ((items.filter (fun item => 0 < item.itemId ∧ item.itemId.toNat = id)).map (·.weight)).sum

/-- The score of an item for a request, when `find` looks up the index. -/
def expectedScore (log1p : ℚ → ℚ) (find : ℕ → Option ItemIndexEntry) (request : RankRequest)
    (id : ℕ) : ℚ :=
  let profile := request.profile.getD {}
  let negative := profile.negativeFeedbacks
  ((request.candidates.filter (·.itemId = id)).map occurrenceScore).sum
    + (find id).elim 0 (overlap profile.interests.genres profile.interests.tags)
    - (itemWeight negative.items id + (find id).elim 0 (overlap negative.genres negative.tags))
    + 1 / 10 * (find id).elim 0 (computeQualityScore log1p)

theorem foldl_add_eq {α : Type} (w : α → ℚ) (xs : List α) (a : ℚ) :
  xs.foldl (fun a x => a + w x) a = a + (xs.map w).sum
  := by
  induction xs generalizing a with
  | nil => simp
  | cons x xs ih => rw [List.foldl_cons, ih, List.map_cons, List.sum_cons, add_assoc]

/-- Looking up a name in accumulated weights gives its total weight. -/
theorem lookupWeight_collect {α κ : Type} [DecidableEq κ] (key : α → κ) (w : α → ℚ)
    (xs : List α) (k : κ) :
  lookupWeight (xs.foldl (fun weights x => Keyed.upsert (key x) (fun o => o.getD 0 + w x) weights)
      []) k
    = ((xs.filter (key · = k)).map w).sum
  := by
  have h := Keyed.lookup_collect_getD key 0 (fun a x => a + w x) xs k
  rw [foldl_add_eq, zero_add] at h
  exact h

theorem lookupWeight_buildWeights {α : Type} (name : α → String) (weight : α → ℚ) (xs : List α)
    (n : String) :
  lookupWeight (buildWeights name weight xs) n = nameWeight name weight xs n
  := by
  have hfold : buildWeights name weight xs
      = (xs.filter (name · ≠ "")).foldl
          (fun weights x => Keyed.upsert (name x) (fun o => o.getD 0 + weight x) weights) [] := by
    rw [buildWeights, List.foldl_filter]
    congr 1
    funext weights x
    by_cases h : name x = "" <;> simp [addWeight, h]
  rw [hfold, lookupWeight_collect, nameWeight, List.filter_filter]
  split
  next hn =>
    subst hn
    rw [List.filter_eq_nil_iff.mpr (by simp)]
    rfl
  next hn =>
    congr 2
    apply List.filter_congr
    intro x _
    by_cases hx : name x = n <;> simp [hx, hn]

theorem lookupWeight_buildNegativeItemWeights (profile : Profile) (id : ℕ) :
  lookupWeight (buildNegativeItemWeights profile) id
    = itemWeight profile.negativeFeedbacks.items id
  := by
  have hfold : buildNegativeItemWeights profile
      = (profile.negativeFeedbacks.items.filter (0 < ·.itemId)).foldl
          (fun weights item =>
            Keyed.upsert item.itemId.toNat (fun o => o.getD 0 + item.weight) weights) [] := by
    rw [buildNegativeItemWeights, List.foldl_filter]
    congr 1
    funext weights item
    by_cases h : item.itemId ≤ 0
    · simp [h]
    · simp [h, lt_of_not_ge h]
  rw [hfold, lookupWeight_collect (fun item : WeightedItem => item.itemId.toNat) (·.weight),
    itemWeight, List.filter_filter]
  congr 2
  apply List.filter_congr
  intro item _
  simp [and_comm]

theorem overlapScore_buildWeights (genres : List GenreInterest) (tags : List TagInterest)
    (entry : ItemIndexEntry) :
  overlapScore entry (buildWeights GenreInterest.genre GenreInterest.weight genres)
      (buildWeights TagInterest.tag TagInterest.weight tags)
    = overlap genres tags entry
  := by
  simp only [overlapScore, overlap, funext (lookupWeight_buildWeights _ _ _),
    lookupWeight_buildWeights]

/-! ### The merged candidates -/

/-- The distinct items of a request, without item 0, in the order first seen. -/
def distinctItems (request : RankRequest) : List ℕ :=
  ((request.candidates.map (·.itemId)).filter (· ≠ 0)).eraseDups

theorem dict_normalizeAndMergeCandidates (request : RankRequest) :
  normalizeAndMergeCandidates request
    = (Keyed.collect CandidateItem.itemId addOccurrence
        (request.candidates.filter (·.itemId ≠ 0))).map Prod.snd
  := by
  have hfold : request.candidates.foldl
      (fun (t : Table ℕ CandidateItem) candidate =>
        if candidate.itemId = 0 then t
        else t.visit true candidate.itemId (addOccurrence candidate)) {}
      = Table.visitAll (fun _ => true) CandidateItem.itemId addOccurrence
          (request.candidates.filter (·.itemId ≠ 0)) := by
    rw [Table.visitAll, List.foldl_filter]
    congr 1
    funext t candidate
    by_cases h : candidate.itemId = 0 <;> simp [h]
  rw [normalizeAndMergeCandidates, hfold, ← (Table.wf_visitAll _ _ _ _).map_snd_dict,
    Table.visitAll_dict]

/-- The merged candidates are those of the distinct items. -/
theorem map_itemId_normalizeAndMergeCandidates (request : RankRequest) :
  (normalizeAndMergeCandidates request).map (·.itemId) = distinctItems request
  := by
  rw [dict_normalizeAndMergeCandidates, List.map_map]
  calc (Keyed.collect CandidateItem.itemId addOccurrence
          (request.candidates.filter (·.itemId ≠ 0))).map (·.2.itemId)
      = (Keyed.collect CandidateItem.itemId addOccurrence
          (request.candidates.filter (·.itemId ≠ 0))).map Prod.fst := by
        apply List.map_congr_left
        intro p hp
        exact (of_mem_collect_addOccurrence hp).1.symm
    _ = distinctItems request := by
        rw [Keyed.map_fst_collect, distinctItems, List.filter_map]
        rfl

theorem ne_zero_of_mem_distinctItems {request : RankRequest} {id : ℕ}
    (h : id ∈ distinctItems request) :
  id ≠ 0
  := by
  simpa using (List.mem_filter.mp (List.mem_eraseDups.mp h)).2

theorem distinctItems_ne_nil {request : RankRequest} :
  distinctItems request ≠ [] ↔ ∃ candidate ∈ request.candidates, candidate.itemId ≠ 0
  := by
  constructor
  · intro h
    obtain ⟨id, hid⟩ := List.exists_mem_of_ne_nil _ h
    obtain ⟨hmem, -⟩ := List.mem_filter.mp (List.mem_eraseDups.mp hid)
    obtain ⟨candidate, hcandidate, rfl⟩ := List.mem_map.mp hmem
    exact ⟨candidate, hcandidate, ne_zero_of_mem_distinctItems hid⟩
  · rintro ⟨candidate, hcandidate, hid⟩
    apply List.ne_nil_of_mem (a := candidate.itemId)
    apply List.mem_eraseDups.mpr
    exact List.mem_filter.mpr ⟨List.mem_map_of_mem hcandidate, decide_eq_true hid⟩

/-- A merged candidate is merged from the occurrences of its item. -/
theorem accumulate_of_mem_normalizeAndMergeCandidates {request : RankRequest}
    {candidate : CandidateItem} (h : candidate ∈ normalizeAndMergeCandidates request) :
  Keyed.accumulate addOccurrence (request.candidates.filter (·.itemId = candidate.itemId))
    = some candidate
  := by
  have hid : candidate.itemId ≠ 0 := by
    apply ne_zero_of_mem_distinctItems
    rw [← map_itemId_normalizeAndMergeCandidates]
    exact List.mem_map_of_mem h
  rw [dict_normalizeAndMergeCandidates] at h
  obtain ⟨p, hp, rfl⟩ := List.mem_map.mp h
  rw [← (of_mem_collect_addOccurrence hp).2, List.filter_filter]
  congr 1
  apply List.filter_congr
  intro x _
  by_cases hx : x.itemId = p.2.itemId <;> simp [hx, hid]

/-- A merged candidate has the scores of all occurrences of its item. -/
theorem retrieveScore_of_mem_normalizeAndMergeCandidates {request : RankRequest}
    {candidate : CandidateItem} (h : candidate ∈ normalizeAndMergeCandidates request) :
  candidate.retrieveScore
    = ((request.candidates.filter (·.itemId = candidate.itemId)).map occurrenceScore).sum
  := (accumulate_addOccurrence (accumulate_of_mem_normalizeAndMergeCandidates h)).2.2.1

/-! ### The ranking -/

namespace HeuristicRankTask

variable (log1p : ℚ → ℚ)

/-- The score of a candidate is the sum of the contributions of its factors. -/
def Balanced (scored : ScoredCandidate) : Prop :=
  scored.rankScore = (scored.scoreFactors.map (·.contribution)).sum

theorem Balanced.addFactor {scored : ScoredCandidate} (h : Balanced scored)
    (rawValue weight : ℚ) (factorType : RankingScoreFactorType) (name description : String) :
  Balanced (addFactor rawValue weight factorType name description scored)
  := by
  rw [Balanced] at h
  simp [Balanced, HeuristicRankTask.addFactor, h]

theorem balanced_scoreCandidate (task : HeuristicRankTask) (candidate : CandidateItem)
    (itemIndexEntry : Option ItemIndexEntry) :
  Balanced (task.scoreCandidate log1p candidate itemIndexEntry)
  := by
  have hstart : Balanced { candidate := candidate, itemIndexEntry := itemIndexEntry } := rfl
  cases itemIndexEntry with
  | none => exact (hstart.addFactor _ _ _ _ _).addFactor _ _ _ _ _
  | some entry =>
      exact (((hstart.addFactor _ _ _ _ _).addFactor _ _ _ _ _).addFactor _ _ _ _ _).addFactor
        _ _ _ _ _

@[simp]
theorem candidate_scoreCandidate (task : HeuristicRankTask) (candidate : CandidateItem)
    (itemIndexEntry : Option ItemIndexEntry) :
  (task.scoreCandidate log1p candidate itemIndexEntry).candidate = candidate
  := by
  cases itemIndexEntry <;> rfl

/-- The score of a merged candidate is the expected one. -/
theorem rankScore_scoreCandidate {request : RankRequest} (store : Option ItemIndexStore)
    (find : ℕ → Option ItemIndexEntry) {candidate : CandidateItem}
    (h : candidate ∈ normalizeAndMergeCandidates request) :
  ((create request store).scoreCandidate log1p candidate (find candidate.itemId)).rankScore
    = expectedScore log1p find request candidate.itemId
  := by
  have hscore := retrieveScore_of_mem_normalizeAndMergeCandidates h
  have hitem := lookupWeight_buildNegativeItemWeights (request.profile.getD {}) candidate.itemId
  cases hfind : find candidate.itemId with
  | none =>
      simp only [scoreCandidate, addFactor, buildScoreFactor, create, expectedScore, hfind,
        ← hscore, hitem, Option.elim_none, kRetrievalWeight, kNegativeFeedbackWeight]
      ring
  | some entry =>
      simp only [scoreCandidate, addItemFactors, addFactor, buildScoreFactor, create,
        expectedScore, hfind, ← hscore, hitem, Option.elim_some, kRetrievalWeight,
        kNegativeFeedbackWeight, kInterestWeight, kQualityWeight, computeInterestScore,
        computeNegativeFeedbackScore, buildGenreWeights, buildTagWeights,
        buildNegativeGenreWeights, buildNegativeTagWeights, overlapScore_buildWeights]
      ring

/-- The distinct items with their expected scores, in the order of the ranking. -/
def expectedOrder (find : ℕ → Option ItemIndexEntry) (request : RankRequest) : List (ℕ × ℚ) :=
  Ranked.sortBy (Ranked.higherFirst Prod.snd Prod.fst)
    ((distinctItems request).map fun id => (id, expectedScore log1p find request id))

theorem nodup_distinctItems (request : RankRequest) :
  (distinctItems request).Nodup
  := Keyed.nodup_eraseDups _

/-- The items of the expected order are distinct. -/
theorem nodup_map_fst_expected (find : ℕ → Option ItemIndexEntry) (request : RankRequest) :
  (((distinctItems request).map fun id => (id, expectedScore log1p find request id)).map
    Prod.fst).Nodup
  := by
  rw [List.map_map]
  exact (nodup_distinctItems request).map Function.injective_id

/-- The ranks of the expected order are distinct. -/
theorem nodup_ranks (find : ℕ → Option ItemIndexEntry) (request : RankRequest) :
  (((distinctItems request).map fun id => (id, expectedScore log1p find request id)).map
    (Ranked.scoreRank Prod.snd Prod.fst)).Nodup
  := Ranked.nodup_map_scoreRank (nodup_map_fst_expected log1p find request)

/-- The expected order does not depend on the order of the candidates. -/
theorem expectedOrder_eq_of_perm (find : ℕ → Option ItemIndexEntry) {request : RankRequest}
    {candidates : List CandidateItem} (h : request.candidates.Perm candidates) :
  expectedOrder log1p find request
    = expectedOrder log1p find { request with candidates := candidates }
  := by
  have hscore : expectedScore log1p find request
      = expectedScore log1p find { request with candidates := candidates } := by
    funext id
    rw [expectedScore, expectedScore, ((h.filter _).map occurrenceScore).sum_eq]
  have hitems : (distinctItems request).Perm
      (distinctItems { request with candidates := candidates }) :=
    Keyed.eraseDups_perm ((h.map _).filter _)
  rw [expectedOrder, expectedOrder, ← hscore]
  exact Ranked.sortBy_eq_of_perm (Ranked.compares_higherFirst _ _) (nodup_ranks log1p find request)
    (hitems.map _)

/-- Scoring the merged candidates with the entries of a store that looks up each item. -/
theorem scoreCandidates_eq (task : HeuristicRankTask) (find : ℕ → Option ItemIndexEntry)
    (candidates : List CandidateItem) :
  task.scoreCandidates log1p candidates ((candidates.map (·.itemId)).map find)
    = candidates.map fun c => task.scoreCandidate log1p c (find c.itemId)
  := by
  induction candidates with
  | nil => rfl
  | cons c cs ih =>
      rw [scoreCandidates] at ih
      rw [scoreCandidates, List.map_cons, List.map_cons, List.zipWith_cons_cons, ih, List.map_cons]

/-- The items and the scores of the sorted candidates are the expected ones. -/
theorem map_sortBy_scoreCandidates (request : RankRequest) (store : Option ItemIndexStore)
    (find : ℕ → Option ItemIndexEntry) :
  (Ranked.sortBy ranksBefore ((normalizeAndMergeCandidates request).map fun c =>
      (create request store).scoreCandidate log1p c (find c.itemId))).map
        (fun s => (s.candidate.itemId, s.rankScore))
    = expectedOrder log1p find request
  := by
  have hkey : ∀ a b, ranksBefore a b = Ranked.higherFirst Prod.snd Prod.fst
      (a.candidate.itemId, a.rankScore) (b.candidate.itemId, b.rankScore) := fun _ _ => rfl
  rw [Ranked.map_sortBy _ (fun s : ScoredCandidate => (s.candidate.itemId, s.rankScore)) hkey,
    expectedOrder, ← map_itemId_normalizeAndMergeCandidates, List.map_map, List.map_map]
  congr 1
  apply List.map_congr_left
  intro c hc
  simp [rankScore_scoreCandidate log1p store find hc]

theorem take_min_length {α : Type} (l : List α) (n : ℤ) :
  l.take (min n l.length).toNat = l.take n.toNat
  := by
  by_cases h : n ≤ l.length
  · rw [min_eq_left h]
  · rw [min_eq_right (by omega), Int.toNat_natCast, List.take_length,
      List.take_of_length_le (by omega)]

/-- Scoring keeps the candidates, one entry for each. -/
theorem map_candidate_scoreCandidates (task : HeuristicRankTask) {candidates : List CandidateItem}
    {itemIndexEntries : List (Option ItemIndexEntry)}
    (h : itemIndexEntries.length = candidates.length) :
  (task.scoreCandidates log1p candidates itemIndexEntries).map (·.candidate) = candidates
  := by
  induction candidates generalizing itemIndexEntries with
  | nil => rfl
  | cons c cs ih =>
      cases itemIndexEntries with
      | nil => cases h
      | cons e es =>
          have htail := ih (Nat.succ.inj h)
          rw [scoreCandidates] at htail
          rw [scoreCandidates, List.zipWith_cons_cons, List.map_cons, candidate_scoreCandidate,
            htail]

/-- What holds of the ranked candidates of a request whatever the store answers. -/
def RankedFrom (request : RankRequest) (ranked : List RankedCandidateItem) : Prop :=
  (∀ r ∈ ranked, r.candidate.itemId ∈ distinctItems request)
    ∧ (ranked.map (·.candidate.itemId)).Nodup
    ∧ ranked.length ≤ request.maxResults.toNat

theorem rankedFrom_nil (request : RankRequest) :
  RankedFrom request []
  := by
  simp [RankedFrom]

/-- The first of scored candidates of the distinct items are ranked. -/
theorem rankedFrom_take (task : HeuristicRankTask) {scored : List ScoredCandidate}
    (h : (scored.map (·.candidate.itemId)).Perm (distinctItems task.request)) :
  RankedFrom task.request ((scored.take task.request.maxResults.toNat).mapIdx fun index s =>
    task.fillRankedCandidate s (index + 1))
  := by
  have hids : ((scored.take task.request.maxResults.toNat).mapIdx fun index s =>
        task.fillRankedCandidate s (index + 1)).map (·.candidate.itemId)
      = (scored.map (·.candidate.itemId)).take task.request.maxResults.toNat := by
    rw [← List.map_take]
    apply List.ext_getElem
    · simp
    · intro i hi hi'
      simp [fillRankedCandidate]
  refine ⟨?_, ?_, ?_⟩
  · intro r hr
    have hid := List.mem_map_of_mem (f := fun r : RankedCandidateItem => r.candidate.itemId) hr
    rw [hids] at hid
    exact h.mem_iff.mp (List.mem_of_mem_take hid)
  · rw [hids]
    exact (h.nodup_iff.mpr (nodup_distinctItems _)).sublist (List.take_sublist _ _)
  · rw [List.length_mapIdx]
    exact List.length_take_le _ _

/-- Whatever the store answers, the ranked candidates are at most as many as are asked for, and
are distinct items of the request. -/
theorem rankedFrom_of_run_eq_ok {task : HeuristicRankTask} {response result : RankResponse}
    {status : Status} (hresponse : response.rankedCandidates = [])
    (h : task.run log1p response = .ok (status, result)) :
  RankedFrom task.request result.rankedCandidates
  := by
  have hnil : RankedFrom task.request response.rankedCandidates := by
    rw [hresponse]
    apply rankedFrom_nil
  simp only [run] at h
  split at h
  · cases h
    exact hnil
  next store _ =>
    split at h
    · cases h
      exact hnil
    · cases hentries : store.findByItemIds
          ((normalizeAndMergeCandidates task.request).map (·.itemId)) with
      | error message =>
          rw [hentries] at h
          cases h
      | ok entries =>
          rw [hentries, Except.map] at h
          split at h
          · cases h
            exact hnil
          next hlength =>
            cases h
            rw [hresponse, List.nil_append, take_min_length]
            apply rankedFrom_take
            apply ((Ranked.sortBy_perm _ _).map _).trans
            apply List.Perm.of_eq
            rw [← map_itemId_normalizeAndMergeCandidates]
            conv_rhs => rw [← map_candidate_scoreCandidates log1p task (not_not.mp hlength)]
            rw [List.map_map]
            rfl

/-- The sorted candidates a request asks for, when `find` looks up the index. -/
def sortedCandidates (task : HeuristicRankTask) (find : ℕ → Option ItemIndexEntry) :
    List ScoredCandidate :=
  (Ranked.sortBy ranksBefore ((normalizeAndMergeCandidates task.request).map fun c =>
    task.scoreCandidate log1p c (find c.itemId))).take task.request.maxResults.toNat

/-- What the task returns with a store that looks up each item. -/
theorem run_eq (request : RankRequest) {find : ℕ → Option ItemIndexEntry}
    {store : ItemIndexStore} (hstore : ∀ ids, store.findByItemIds ids = .ok (ids.map find))
    (count : ℤ) :
  (create request (some store)).run log1p { inputCandidateCount := count }
    = .ok (.OK,
        if distinctItems request = [] then
          { inputCandidateCount := count
            status := .emptyCandidates
            msg := "No candidates available for ranking." }
        else
          let ranked := ((create request (some store)).sortedCandidates log1p find).mapIdx
            fun index s => (create request (some store)).fillRankedCandidate s (index + 1)
          { inputCandidateCount := count
            status := .success
            rankedCandidates := ranked
            rankedCandidateCount := ranked.length })
  := by
  rw [← map_itemId_normalizeAndMergeCandidates]
  have hrequest : (create request (some store)).request = request := rfl
  have hindex : (create request (some store)).itemIndexStore = some store := rfl
  cases hcandidates : normalizeAndMergeCandidates request with
  | nil =>
      simp only [run, hindex, hrequest, hcandidates]
      rfl
  | cons c cs =>
      simp only [run, hindex, hrequest, hcandidates, hstore, Except.map, List.isEmpty_cons,
        scoreCandidates_eq, take_min_length, sortedCandidates, List.length_map,
        List.map_eq_nil_iff, List.nil_append, ne_eq, not_true, if_false, Bool.false_eq_true, reduceCtorEq]

/-- The items and the scores of the sorted candidates. -/
theorem map_sortedCandidates (request : RankRequest) (store : Option ItemIndexStore)
    (find : ℕ → Option ItemIndexEntry) :
  ((create request store).sortedCandidates log1p find).map
      (fun s => (s.candidate.itemId, s.rankScore))
    = (expectedOrder log1p find request).take request.maxResults.toNat
  := by
  rw [sortedCandidates, List.map_take, ← map_sortBy_scoreCandidates log1p request store find]
  rfl

theorem balanced_of_mem_sortedCandidates {task : HeuristicRankTask}
    {find : ℕ → Option ItemIndexEntry} {s : ScoredCandidate}
    (h : s ∈ task.sortedCandidates log1p find) :
  Balanced s
  := by
  obtain ⟨c, _, rfl⟩ := List.mem_map.mp (Ranked.mem_sortBy.mp (List.mem_of_mem_take h))
  apply balanced_scoreCandidate

/-- The ranked candidates of a task with a store that looks up each item. -/
theorem rankedCandidates_run (request : RankRequest) {find : ℕ → Option ItemIndexEntry}
    {store : ItemIndexStore} (hstore : ∀ ids, store.findByItemIds ids = .ok (ids.map find))
    (count : ℤ) :
  ∃ result : RankResponse,
    (create request (some store)).run log1p { inputCandidateCount := count } = .ok (.OK, result)
    ∧ result.status = (if distinctItems request = [] then .emptyCandidates else .success)
    ∧ result.rankedCandidates = ((create request (some store)).sortedCandidates log1p find).mapIdx
        fun index s => (create request (some store)).fillRankedCandidate s (index + 1)
  := by
  rw [run_eq log1p request hstore count]
  refine ⟨_, rfl, ?_, ?_⟩
  · split <;> rfl
  · split
    next h =>
      have hnil : (create request (some store)).sortedCandidates log1p find = [] := by
        have hmap := map_sortedCandidates log1p request (some store) find
        rw [expectedOrder, h] at hmap
        simpa using hmap
      rw [hnil]
      rfl
    next h => rfl

/-- The item, the score and the position of a ranked candidate. -/
def placement (r : RankedCandidateItem) : ℕ × ℚ × ℤ :=
  (r.candidate.itemId, r.rankScore, r.rankPosition)

/-- The ranked candidates are placed as in the expected order. -/
theorem map_placement (request : RankRequest) (store : Option ItemIndexStore)
    (find : ℕ → Option ItemIndexEntry) :
  (((create request store).sortedCandidates log1p find).mapIdx fun index s =>
      (create request store).fillRankedCandidate s (index + 1)).map placement
    = ((expectedOrder log1p find request).take request.maxResults.toNat).mapIdx
        fun index p => (p.1, p.2, (index : ℤ) + 1)
  := by
  rw [← map_sortedCandidates log1p request store find]
  apply List.ext_getElem
  · simp
  · intro i h h'
    simp [placement, fillRankedCandidate]

/-- The expected order is strict: greater scores first, then smaller items. -/
theorem pairwise_expectedOrder (find : ℕ → Option ItemIndexEntry) (request : RankRequest) :
  (expectedOrder log1p find request).Pairwise
    (fun a b => b.2 < a.2 ∨ (a.2 = b.2 ∧ a.1 < b.1))
  := Ranked.pairwise_higherFirst Prod.snd (nodup_map_fst_expected log1p find request)

theorem mem_expectedOrder {find : ℕ → Option ItemIndexEntry} {request : RankRequest}
    {p : ℕ × ℚ} :
  p ∈ expectedOrder log1p find request
    ↔ p.1 ∈ distinctItems request ∧ p.2 = expectedScore log1p find request p.1
  := by
  rw [expectedOrder, Ranked.mem_sortBy, List.mem_map]
  constructor
  · rintro ⟨id, hid, rfl⟩
    exact ⟨hid, rfl⟩
  · rintro ⟨hid, hscore⟩
    exact ⟨p.1, hid, by rw [← hscore]⟩

theorem length_expectedOrder (find : ℕ → Option ItemIndexEntry) (request : RankRequest) :
  (expectedOrder log1p find request).length = (distinctItems request).length
  := by
  rw [expectedOrder, Ranked.length_sortBy, List.length_map]

theorem nodup_map_fst_expectedOrder (find : ℕ → Option ItemIndexEntry) (request : RankRequest) :
  ((expectedOrder log1p find request).map Prod.fst).Nodup
  := by
  apply ((Ranked.sortBy_perm _ _).map Prod.fst).nodup_iff.mpr
  exact nodup_map_fst_expected log1p find request

/-- An item left out of the first places goes after those that have them. -/
theorem goes_after_of_not_mem_take {find : ℕ → Option ItemIndexEntry} {request : RankRequest}
    {n : ℕ} {p : ℕ × ℚ} (hp : p ∈ (expectedOrder log1p find request).take n) {id : ℕ}
    (hid : id ∈ distinctItems request)
    (hdrop : id ∉ ((expectedOrder log1p find request).take n).map Prod.fst) :
  expectedScore log1p find request id < p.2
    ∨ (p.2 = expectedScore log1p find request id ∧ p.1 < id)
  := by
  have hmem : (id, expectedScore log1p find request id)
      ∈ (distinctItems request).map fun id => (id, expectedScore log1p find request id) :=
    List.mem_map_of_mem hid
  have hlt := Ranked.rank_lt_of_not_mem_take (Ranked.compares_higherFirst Prod.snd Prod.fst)
    (nodup_ranks log1p find request) hp hmem (fun h => hdrop (List.mem_map_of_mem h))
  exact Ranked.scoreRank_lt.mp hlt

/-- The items and the scores of candidates placed as in a list of them. -/
theorem keys_of_placed {ranked : List RankedCandidateItem} {l : List (ℕ × ℚ)}
    (h : ranked.map placement = l.mapIdx fun index p => (p.1, p.2, (index : ℤ) + 1)) :
  ranked.map (fun r => (r.candidate.itemId, r.rankScore)) = l
  := by
  have hmap := congrArg (List.map fun t : ℕ × ℚ × ℤ => (t.1, t.2.1)) h
  rw [List.map_map] at hmap
  apply hmap.trans
  apply List.ext_getElem <;> simp

/-- The positions of candidates placed as in a list of them. -/
theorem positions_of_placed {ranked : List RankedCandidateItem} {l : List (ℕ × ℚ)}
    (h : ranked.map placement = l.mapIdx fun index p => (p.1, p.2, (index : ℤ) + 1)) :
  ranked.map (·.rankPosition) = (List.range ranked.length).map (fun i : ℕ => (i : ℤ) + 1)
  := by
  have hlen : ranked.length = l.length := by simpa using congrArg List.length h
  have hmap := congrArg (List.map fun t : ℕ × ℚ × ℤ => t.2.2) h
  rw [List.map_map] at hmap
  apply hmap.trans
  apply List.ext_getElem
  · simp [hlen]
  · intro i h h'
    simp only [List.getElem_map, List.getElem_mapIdx, List.getElem_range]

/-- With a store that looks up each item, the ranked candidates are as many of the distinct items
as are asked for, at positions 1, 2, ..., in the order of score and item.  Every item left out
goes after them.  Each score is the expected one and is the sum of the contributions of its
factors.  The placements do not depend on the order of the candidates. -/
theorem run_ranks (request : RankRequest) {find : ℕ → Option ItemIndexEntry}
    {store : ItemIndexStore} (hstore : ∀ ids, store.findByItemIds ids = .ok (ids.map find))
    (hmax : 0 < request.maxResults) (count : ℤ) :
  ∃ result : RankResponse,
    (create request (some store)).run log1p { inputCandidateCount := count } = .ok (.OK, result)
    ∧ (result.rankedCandidates.length : ℤ)
        = min request.maxResults (distinctItems request).length
    ∧ (result.rankedCandidates.map (·.candidate.itemId)).Nodup
    ∧ (∀ r ∈ result.rankedCandidates, r.candidate.itemId ∈ distinctItems request)
    ∧ result.rankedCandidates.map (·.rankPosition)
        = (List.range result.rankedCandidates.length).map (fun i : ℕ => (i : ℤ) + 1)
    ∧ result.rankedCandidates.Pairwise (fun a b =>
        b.rankScore < a.rankScore
          ∨ (a.rankScore = b.rankScore ∧ a.candidate.itemId < b.candidate.itemId))
    ∧ (∀ id ∈ distinctItems request, id ∉ result.rankedCandidates.map (·.candidate.itemId) →
        ∀ r ∈ result.rankedCandidates,
          expectedScore log1p find request id < r.rankScore
            ∨ (r.rankScore = expectedScore log1p find request id ∧ r.candidate.itemId < id))
    ∧ (∀ r ∈ result.rankedCandidates,
        r.rankScore = expectedScore log1p find request r.candidate.itemId
          ∧ ∃ scored, r = (create request (some store)).fillRankedCandidate scored r.rankPosition
            ∧ r.rankScore = (scored.scoreFactors.map (·.contribution)).sum)
    ∧ (∀ candidates, request.candidates.Perm candidates →
        ∃ result' : RankResponse,
          (create { request with candidates := candidates } (some store)).run log1p
              { inputCandidateCount := count } = .ok (.OK, result')
            ∧ result'.rankedCandidates.map placement = result.rankedCandidates.map placement)
  := by
  obtain ⟨result, hrun, -, hranked⟩ := rankedCandidates_run log1p request hstore count
  have hplaced := map_placement log1p request (some store) find
  rw [← hranked] at hplaced
  have hkeys := keys_of_placed hplaced
  have hids : result.rankedCandidates.map (·.candidate.itemId)
      = ((expectedOrder log1p find request).take request.maxResults.toNat).map Prod.fst := by
    rw [← hkeys, List.map_map]
    rfl
  have hmem : ∀ r ∈ result.rankedCandidates, (r.candidate.itemId, r.rankScore)
      ∈ (expectedOrder log1p find request).take request.maxResults.toNat := by
    intro r hr
    rw [← hkeys]
    exact List.mem_map_of_mem hr
  refine ⟨result, hrun, ?_, ?_, ?_, ?_, ?_, ?_, ?_, ?_⟩
  · have hlen := congrArg List.length hkeys
    rw [List.length_map, List.length_take, length_expectedOrder] at hlen
    omega
  · rw [hids]
    exact (nodup_map_fst_expectedOrder log1p find request).sublist
      ((List.take_sublist _ _).map _)
  · intro r hr
    exact ((mem_expectedOrder log1p).mp (List.mem_of_mem_take (hmem r hr))).1
  · exact positions_of_placed hplaced
  · have hpair := (pairwise_expectedOrder log1p find request).sublist
      (List.take_sublist request.maxResults.toNat _)
    rw [← hkeys] at hpair
    exact List.pairwise_map.mp hpair
  · intro id hid hdrop r hr
    rw [hids] at hdrop
    exact goes_after_of_not_mem_take log1p (hmem r hr) hid hdrop
  · intro r hr
    use ((mem_expectedOrder log1p).mp (List.mem_of_mem_take (hmem r hr))).2
    rw [hranked] at hr
    obtain ⟨i, hi, rfl⟩ := List.mem_mapIdx.mp hr
    exact ⟨_, rfl, balanced_of_mem_sortedCandidates log1p (List.getElem_mem hi)⟩
  · intro candidates hperm
    obtain ⟨result', hrun', -, hranked'⟩ :=
      rankedCandidates_run log1p { request with candidates := candidates } hstore count
    use result', hrun'
    rw [hranked', map_placement, hplaced, expectedOrder_eq_of_perm log1p find hperm]

/-- Of two candidates that are not in the index, one is asked for. -/
theorem run_ranks_one_of_two :
  ∃ result : RankResponse,
    (create
      { userId := 42
        candidates := [{ itemId := 1, retrieveScore := 1 / 2 }, { itemId := 2, retrieveScore := 1 }]
        maxResults := 1 }
      (some ⟨fun ids => .ok (ids.map fun _ => none)⟩)).run (fun _ => 0) { inputCandidateCount := 2 }
      = .ok (.OK, result)
    ∧ result.rankedCandidates.length = 1
  := by
  obtain ⟨result, hrun, hlen, -⟩ := run_ranks (fun _ => 0)
    { userId := 42
      candidates := [{ itemId := 1, retrieveScore := 1 / 2 }, { itemId := 2, retrieveScore := 1 }]
      maxResults := 1 }
    (fun ids => (rfl : (ItemIndexStore.mk fun ids => .ok (ids.map fun _ => none)).findByItemIds ids
      = .ok (ids.map fun _ => none)))
    (by decide) 2
  use result, hrun
  change (result.rankedCandidates.length : ℤ) = min 1 ((2 : ℕ) : ℤ) at hlen
  omega

end HeuristicRankTask

end RecommendationEngine
