import ShootingStar.Ranking.HeuristicRanker

/-!
# The ranking service

The service checks a request, picks the ranker it names, or the default one, and reports what the
ranker did.  The rankers are registered under distinct names.
-/

namespace RecommendationEngine

/-- A ranker.  `rank` creates a task and runs it on the response filled in so far: the message of
an exception, nothing if the task is null, or the status and the response. -/
structure Ranker where
  name : String
  rank : RankRequest → RankResponse → Except String (Option (Status × RankResponse))

/-- The ranker that runs a `HeuristicRankTask`. -/
def heuristicRanker (log1p : ℚ → ℚ) (itemIndexStore : Option ItemIndexStore) : Ranker where
  name := HeuristicRankTask.kName
  rank request response :=
    ((HeuristicRankTask.create request itemIndexStore).run log1p response).map some

/-- The registered rankers. -/
structure RankerRegistry where
  rankers : List Ranker := []
  names_nodup : (rankers.map (·.name)).Nodup := by simp
  names_ne_empty : ∀ ranker ∈ rankers, ranker.name ≠ "" := by simp

namespace RankerRegistry

/-- `RegisterRanker`; a null ranker is `none`. -/
def register (registry : RankerRegistry) : Option Ranker → Except String RankerRegistry
  | none => .error "RankingServiceImpl ranker is null."
  | some ranker =>
    if hname : ranker.name = "" then .error "RankingServiceImpl ranker name is empty."
    else if hdup : ranker.name ∈ registry.rankers.map (·.name) then
      .error s!"Duplicated ranker name {ranker.name}."
    else
      .ok {
        rankers := registry.rankers ++ [ranker]
        names_nodup := by
          rw [List.map_append, List.map_singleton, List.nodup_append]
          refine ⟨registry.names_nodup, List.nodup_singleton _, ?_⟩
          rintro name hmem _ hnew rfl
          exact hdup (List.mem_singleton.mp hnew ▸ hmem)
        names_ne_empty := by
          intro other hother
          rcases List.mem_append.mp hother with hother | hother
          · exact registry.names_ne_empty other hother
          · rwa [List.mem_singleton.mp hother] }

/-- The ranker of a name. -/
def findRanker (registry : RankerRegistry) (rankerName : String) : Option Ranker :=
  registry.rankers.find? (·.name = rankerName)

end RankerRegistry

/-- The rankers, and the name of the one that ranks a request that names none. -/
structure RankingService extends RankerRegistry where
  defaultRankerName : String
  default_ne_empty : defaultRankerName ≠ ""
  default_registered : (toRankerRegistry.findRanker defaultRankerName).isSome

namespace RankingService

/-- The constructor, with the message of the exception it throws; a null pointer is `none`. -/
def create (itemIndexStore : Option ItemIndexStore) (rankers : List (Option Ranker))
    (defaultRankerName : String) : Except String RankingService :=
  if itemIndexStore.isNone then .error "RankingServiceImpl item_index_store must not be null."
  else if rankers.isEmpty then .error "RankingServiceImpl rankers is empty."
  else
    match rankers.foldlM RankerRegistry.register {} with
    | .error message => .error message
    | .ok registry =>
      if hempty : defaultRankerName = "" then
        .error "ranking.default_ranker must not be empty."
      else if hdefault : (registry.findRanker defaultRankerName).isSome then
        .ok {
          registry with
          defaultRankerName := defaultRankerName
          default_ne_empty := hempty
          default_registered := hdefault }
      else .error s!"Default ranker {defaultRankerName} is not registered."

/-- The message of an invalid request. -/
def requestProblem (request : RankRequest) : Option String :=
  match request.profile with
  | none =>
    if request.userId ≤ 0 then some s!"Invalid user_id {request.userId}."
    else some s!"Profile is required for user {request.userId}."
  | some profile =>
    if request.userId ≤ 0 then some s!"Invalid user_id {request.userId}."
    else if profile.userId ≠ 0 ∧ profile.userId ≠ request.userId then
      some (s!"Profile user_id {profile.userId}"
        ++ s!" does not match request user_id {request.userId}.")
    else if request.maxResults ≤ 0 then some s!"Invalid max_results {request.maxResults}."
    else none

/-- The ranker that a request names, or else the default. -/
def resolveRankerName (s : RankingService) (request : RankRequest) : String :=
  if request.options.ranker ≠ "" then request.options.ranker else s.defaultRankerName

/-- What the service makes of the result of a task. -/
def finishTask (rankerName : String) (response : RankResponse) :
    Except String (Option (Status × RankResponse)) → Status × RankResponse
  | .error message =>
    (⟨.internal, message⟩, { response with status := .systemError, msg := message })
  | .ok none =>
    let message := s!"Ranker {rankerName} created a null task."
    (⟨.internal, message⟩, { response with status := .systemError, msg := message })
  | .ok (some (status, response)) =>
    if !status.isOk then
      (status, if response.msg = "" then { response with msg := status.message } else response)
    else if response.status = .success then (status, { response with msg := "" })
    else if response.msg = "" then
      (status, { response with
        msg := s!"Ranking finished with status {response.status.toInt}." })
    else (status, response)

/-- `Rank`. -/
def rank (s : RankingService) : Stub RankRequest RankResponse := fun request =>
  let response : RankResponse := { inputCandidateCount := request.candidates.length }
  match requestProblem request with
  | some message =>
    (⟨.invalidArgument, message⟩, { response with status := .invalidRequest, msg := message })
  | none =>
    let rankerName := s.resolveRankerName request
    match s.findRanker rankerName with
    | none =>
      let message := s!"Unknown ranker {rankerName}."
      (⟨.invalidArgument, message⟩, { response with status := .invalidRequest, msg := message })
    | some ranker => finishTask rankerName response (ranker.rank request response)

/-! ### The heuristic ranker -/

/-- The service with the heuristic ranker only. -/
def heuristic (log1p : ℚ → ℚ) (itemIndexStore : ItemIndexStore) : RankingService where
  rankers := [heuristicRanker log1p (some itemIndexStore)]
  names_ne_empty := by simp [heuristicRanker, HeuristicRankTask.kName]
  defaultRankerName := HeuristicRankTask.kName
  default_ne_empty := by simp [HeuristicRankTask.kName]
  default_registered := by simp [RankerRegistry.findRanker, heuristicRanker]

/-- The constructor accepts the heuristic ranker as the default. -/
theorem create_heuristic (log1p : ℚ → ℚ) (itemIndexStore : ItemIndexStore) :
  create (some itemIndexStore) [some (heuristicRanker log1p (some itemIndexStore))]
      HeuristicRankTask.kName
    = .ok (heuristic log1p itemIndexStore)
  := rfl

theorem findRanker_heuristic {log1p : ℚ → ℚ} {itemIndexStore : ItemIndexStore}
    {rankerName : String} {ranker : Ranker}
    (h : (heuristic log1p itemIndexStore).findRanker rankerName = some ranker) :
  ranker = heuristicRanker log1p (some itemIndexStore)
  := List.mem_singleton.mp (List.mem_of_find?_eq_some h)

/-- The candidates of a finished task are those of its response. -/
theorem rankedFrom_finishTask {request : RankRequest} {rankerName : String}
    {response : RankResponse} {result : Except String (Option (Status × RankResponse))}
    (hresponse : response.rankedCandidates = [])
    (hresult : ∀ status result', result = .ok (some (status, result')) →
      HeuristicRankTask.RankedFrom request result'.rankedCandidates) :
  HeuristicRankTask.RankedFrom request
    (finishTask rankerName response result).2.rankedCandidates
  := by
  have hnil : HeuristicRankTask.RankedFrom request response.rankedCandidates := by
    rw [hresponse]
    apply HeuristicRankTask.rankedFrom_nil
  rcases result with message | _ | ⟨status, result'⟩
  · exact hnil
  · exact hnil
  · have h := hresult status result' rfl
    rw [finishTask]
    repeat' split
    all_goals exact h

/-- Whatever the store answers, the ranked candidates are at most as many as are asked for, and
are distinct items of the request. -/
theorem rankedFrom_rank (log1p : ℚ → ℚ) (itemIndexStore : ItemIndexStore)
    (request : RankRequest) :
  HeuristicRankTask.RankedFrom request
    ((heuristic log1p itemIndexStore).rank request).2.rankedCandidates
  := by
  simp only [rank]
  split
  · apply HeuristicRankTask.rankedFrom_nil
  · split
    · apply HeuristicRankTask.rankedFrom_nil
    next ranker hranker =>
      rw [findRanker_heuristic hranker]
      apply rankedFrom_finishTask rfl
      intro status result h
      simp only [heuristicRanker] at h
      cases hrun : (HeuristicRankTask.create request (some itemIndexStore)).run log1p
          { inputCandidateCount := request.candidates.length } with
      | error message =>
          rw [hrun] at h
          cases h
      | ok p =>
          rw [hrun] at h
          cases h
          exact HeuristicRankTask.rankedFrom_of_run_eq_ok log1p rfl hrun

/-- A valid request that names no ranker is answered by the heuristic ranker: it succeeds if there
is an item to rank, and reports that there is none otherwise. -/
theorem rank_heuristic (log1p : ℚ → ℚ) {itemIndexStore : ItemIndexStore}
    {find : ℕ → Option ItemIndexEntry}
    (hstore : ∀ ids, itemIndexStore.findByItemIds ids = .ok (ids.map find))
    {request : RankRequest} (hproblem : requestProblem request = none)
    (hranker : request.options.ranker = "") :
  ((heuristic log1p itemIndexStore).rank request).1 = .OK
    ∧ ((heuristic log1p itemIndexStore).rank request).2.status
      = (if distinctItems request = [] then .emptyCandidates else .success)
  := by
  obtain ⟨result, hrun, hstatus, -⟩ :=
    HeuristicRankTask.rankedCandidates_run log1p request hstore request.candidates.length
  have hfind : (heuristic log1p itemIndexStore).findRanker
        ((heuristic log1p itemIndexStore).resolveRankerName request)
      = some (heuristicRanker log1p (some itemIndexStore)) := by
    simp [resolveRankerName, hranker, heuristic, RankerRegistry.findRanker, heuristicRanker]
  simp only [rank, hproblem, hfind, heuristicRanker, hrun, Except.map, finishTask]
  rw [← hstatus]
  repeat' split
  all_goals exact ⟨rfl, rfl⟩

end RankingService

end RecommendationEngine
