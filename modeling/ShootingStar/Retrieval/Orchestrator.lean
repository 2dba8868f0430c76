import Mathlib.Data.Rat.Floor
import ShootingStar.Lib.Rounding
import ShootingStar.Lib.RoundRobin
import ShootingStar.Lib.Table
import ShootingStar.Retrieval.Candidate

/-!
# The retrieval orchestrator

The orchestrator calls every retriever and interleaves the candidates of the responses it
accepts: round after round it takes one candidate from every response that is not exhausted,
merges the occurrences of an item, and keeps the first items that fit.

Its candidates are the first distinct items of the interleaving, each with the scores and the
reasons of all its occurrences (`dispatchToRetrievers_candidates`).  The retrievers are asked for
more candidates than are returned, as long as their number is an `int`
(`retrieverMaxCandidateCount_iff`).
-/

namespace RecommendationEngine

/-- The client of a retriever. -/
abbrev RetrieverStub := Stub RetrieverRequest RetrieverResponse

namespace RetrievalOrchestrator

/-- What the constructor reports about a retriever; a null stub is `none`. -/
def stubProblem (retriever : String × Option RetrieverStub) : Option String :=
  if retriever.1 = "" then some "RetrievalOrchestrator retriever name must not be empty."
  else if retriever.2.isNone then
    some s!"RetrievalOrchestrator {retriever.1} retriever_stub must not be null."
  else none

end RetrievalOrchestrator

/-- The retrievers in the order they are called, and the ratio by which they are asked for more
candidates than are returned. -/
structure RetrievalOrchestrator where
  retrieverStubs : List (String × Option RetrieverStub)
  recallCandidateExpandRatio : ℚ
  stubs_ne_nil : retrieverStubs ≠ []
  ratio_pos : 0 < recallCandidateExpandRatio
  stubs_valid : ∀ retriever ∈ retrieverStubs, RetrievalOrchestrator.stubProblem retriever = none

namespace RetrievalOrchestrator

/-- The constructor, with the message of the exception it throws. -/
def create (stubs : List (String × Option RetrieverStub)) (ratio : ℚ) :
    Except String RetrievalOrchestrator :=
  if hstubs : stubs = [] then
    .error "RetrievalOrchestrator retriever_stubs must not be empty."
  else if hratio : ratio ≤ 0 then
    .error "RetrievalOrchestrator recall_candidate_expand_ratio must be positive."
  else
    match hvalid : stubs.findSome? stubProblem with
    | some message => .error message
    | none =>
      .ok {
        retrieverStubs := stubs
        recallCandidateExpandRatio := ratio
        stubs_ne_nil := hstubs
        ratio_pos := lt_of_not_ge hratio
        stubs_valid := List.findSome?_eq_none_iff.mp hvalid }

/-! ### Calling the retrievers -/

/-- The response counts. -/
def isRetrieverResponseStatusAccepted (status : RetrieverServiceStatus) : Bool :=
  status = .success || status = .emptyTriggerSeeds

/-- The number of candidates that a retriever is asked for. -/
def computeRetrieverMaxCandidateCount (maxResults : ℤ) (expandRatio : ℚ) : ℤ :=
  if maxResults ≤ 0 then maxResults else max maxResults ⌈(maxResults : ℚ) * expandRatio⌉

/-- The request sent to every retriever. -/
def retrieverRequest (o : RetrievalOrchestrator) (request : RetrieveRequest) :
    RetrieverRequest where
  userId := request.userId
  profile := some (request.profile.getD {})
  maxCandidateCount :=
    computeRetrieverMaxCandidateCount request.maxCandidateCount o.recallCandidateExpandRatio

/-- Calling one retriever; its response counts only if the status is OK. -/
def fetchCandidatesFromRetriever (retrieverName : String) (retrieverStub : Option RetrieverStub)
    (request : RetrieverRequest) : Status × RetrieverResponse :=
  match retrieverStub with
  | none => (⟨.internal, s!"{retrieverName} retriever client is not initialized."⟩, {})
  | some retrieve =>
    let (status, response) := retrieve request
    if !status.isOk then
      (⟨.internal, s!"Failed to retrieve candidates from {retrieverName}: {status.message}"⟩,
        response)
    else if !isRetrieverResponseStatusAccepted response.status then
      let message :=
        s!"{retrieverName} retriever returned non-success status {response.status.toInt}."
      let reason := if response.msg = "" then "" else s!" reason: {response.msg}"
      (⟨.internal, message ++ reason⟩, response)
    else (.OK, response)

/-- The outcomes of the calls, in the order of the retrievers. -/
def outcomes (o : RetrievalOrchestrator) (request : RetrieveRequest) :
    List (String × Status × RetrieverResponse) :=
  o.retrieverStubs.map fun retriever =>
    (retriever.1,
      fetchCandidatesFromRetriever retriever.1 retriever.2 (o.retrieverRequest request))

/-- The accepted responses. -/
def retrieverResponses (o : RetrievalOrchestrator) (request : RetrieveRequest) :
    List RetrieverResponse :=
  (o.outcomes request).filterMap fun (_, status, response) =>
    if status.isOk then some response else none

/-- The messages of the failed calls. -/
def failureMessages (o : RetrievalOrchestrator) (request : RetrieveRequest) : List String :=
  (o.outcomes request).filterMap fun (name, status, _) =>
    if status.isOk then none else some s!"{name}: {status.message}"

/-! ### Merging the responses -/

/-- One candidate in turn: it is merged into the candidate of its item, or added if there is
room. -/
def visitCandidate (maxCandidateCount : ℤ) (t : Table ℕ CandidateItem)
    (candidate : CandidateItem) : Table ℕ CandidateItem :=
  if candidate.itemId = 0 then t
  else
    t.visit (decide ((t.entries.length : ℤ) < maxCandidateCount)) candidate.itemId
      (addOccurrence candidate)

/-- The loop over the responses, with a cursor into each.  It makes at most one round more than
the longest response has candidates. -/
def mergeResponses (maxCandidateCount : ℤ) (responses : List RetrieverResponse) :
    Option (Table ℕ CandidateItem) :=
  let candidates := responses.map (·.candidates)
  RoundRobin.cursorLoop (visitCandidate maxCandidateCount) (fun _ => false) candidates
    (RoundRobin.rounds candidates + 1) (candidates.map fun _ => 0) {}

/-- The merged candidates, in order. -/
def mergedCandidates (maxCandidateCount : ℤ) (responses : List RetrieverResponse) :
    List CandidateItem :=
  ((mergeResponses maxCandidateCount responses).getD {}).entries

/-- `DispatchToRetrievers`. -/
def dispatchToRetrievers (o : RetrievalOrchestrator) (request : RetrieveRequest) :
    Status × RetrieveResponse :=
  let responses := o.retrieverResponses request
  let failures := o.failureMessages request
  if responses.isEmpty then
    let message :=
      if failures.isEmpty then "No retrievers configured."
      else
        failures.foldl (fun message failure => message ++ " " ++ failure)
          "Failed to retrieve candidates from all retrievers."
    (⟨.internal, message⟩, { status := .systemError, msg := message })
  else
    let candidates := mergedCandidates request.maxCandidateCount responses
    (.OK, {
      status := .success
      msg := ""
      candidateCount := candidates.length
      candidates := candidates })

/-- `Retrieve`. -/
def retrieve (o : RetrievalOrchestrator) : Stub RetrieveRequest RetrieveResponse := fun request =>
  if request.userId ≤ 0 then
    let message := s!"Invalid user_id {request.userId}."
    (⟨.invalidArgument, message⟩, { status := .invalidRequest, msg := message })
  else if request.profile.isNone then
    let message := s!"Profile is required for user {request.userId}."
    (⟨.invalidArgument, message⟩, { status := .invalidRequest, msg := message })
  else
    let (status, response) := o.dispatchToRetrievers request
    if !status.isOk && response.msg = "" then (status, { response with msg := status.message })
    else (status, response)

/-! ### The merged candidates -/

/-- The candidates in the order of the turns, without those of item 0. -/
def occurrences (responses : List RetrieverResponse) : List CandidateItem :=
  (RoundRobin.interleave (responses.map (·.candidates))).filter (·.itemId ≠ 0)

theorem foldl_visitCandidate (maxCandidateCount : ℤ) (candidates : List CandidateItem) :
  candidates.foldl (visitCandidate maxCandidateCount) {}
    = Table.visitAll (fun t => decide ((t.entries.length : ℤ) < maxCandidateCount))
        CandidateItem.itemId addOccurrence (candidates.filter (·.itemId ≠ 0))
  := by
  rw [Table.visitAll, List.foldl_filter]
  congr 1
  funext t candidate
  by_cases h : candidate.itemId = 0 <;> simp [visitCandidate, h]

/-- The loop ends, having visited the occurrences in order. -/
theorem mergeResponses_eq (maxCandidateCount : ℤ) (responses : List RetrieverResponse) :
  mergeResponses maxCandidateCount responses
    = some (Table.visitAll (fun t => decide ((t.entries.length : ℤ) < maxCandidateCount))
        CandidateItem.itemId addOccurrence (occurrences responses))
  := by
  rw [mergeResponses, RoundRobin.cursorLoop_eq _ _ _ _ _ (Nat.lt_succ_self _),
    RoundRobin.visitUntil_never, foldl_visitCandidate, occurrences]

/-- The merged candidates by item: the first items, each with all its occurrences. -/
theorem dict_mergeResponses (maxCandidateCount : ℤ) (responses : List RetrieverResponse) :
  (((mergeResponses maxCandidateCount responses).getD {}).dict
    = (Keyed.collect CandidateItem.itemId addOccurrence (occurrences responses)).take
        maxCandidateCount.toNat)
  := by
  rw [mergeResponses_eq, Option.getD_some]
  apply Table.visitAll_dict_take
  intro t
  rw [decide_eq_true_eq]
  omega

/-- A merged candidate is merged from the occurrences of its item. -/
theorem of_mem_dict_mergeResponses {maxCandidateCount : ℤ}
    {responses : List RetrieverResponse} {p : ℕ × CandidateItem}
    (h : p ∈ ((mergeResponses maxCandidateCount responses).getD {}).dict) :
  p.1 = p.2.itemId
    ∧ Keyed.accumulate addOccurrence ((occurrences responses).filter (·.itemId = p.2.itemId))
      = some p.2
  := by
  rw [dict_mergeResponses] at h
  exact of_mem_collect_addOccurrence (List.mem_of_mem_take h)

theorem mergedCandidates_eq (maxCandidateCount : ℤ) (responses : List RetrieverResponse) :
  mergedCandidates maxCandidateCount responses
    = ((mergeResponses maxCandidateCount responses).getD {}).dict.map Prod.snd
  := by
  rw [mergedCandidates, mergeResponses_eq, Option.getD_some,
    (Table.wf_visitAll _ _ _ _).map_snd_dict]

/-- The items of the merged candidates are the first distinct items of the occurrences. -/
theorem map_itemId_mergedCandidates (maxCandidateCount : ℤ)
    (responses : List RetrieverResponse) :
  (mergedCandidates maxCandidateCount responses).map (·.itemId)
    = ((occurrences responses).map (·.itemId)).eraseDups.take maxCandidateCount.toNat
  := by
  rw [mergedCandidates_eq, List.map_map]
  calc ((mergeResponses maxCandidateCount responses).getD {}).dict.map (·.2.itemId)
      = ((mergeResponses maxCandidateCount responses).getD {}).dict.map Prod.fst := by
        apply List.map_congr_left
        intro p hp
        exact (of_mem_dict_mergeResponses hp).1.symm
    _ = ((occurrences responses).map (·.itemId)).eraseDups.take maxCandidateCount.toNat := by
        rw [dict_mergeResponses, List.map_take, Keyed.map_fst_collect]

/-- A merged candidate is merged from the occurrences of its item. -/
theorem accumulate_of_mem_mergedCandidates {maxCandidateCount : ℤ}
    {responses : List RetrieverResponse} {candidate : CandidateItem}
    (h : candidate ∈ mergedCandidates maxCandidateCount responses) :
  Keyed.accumulate addOccurrence ((occurrences responses).filter (·.itemId = candidate.itemId))
    = some candidate
  := by
  rw [mergedCandidates_eq] at h
  obtain ⟨p, hp, rfl⟩ := List.mem_map.mp h
  exact (of_mem_dict_mergeResponses hp).2

/-- A merged candidate has the scores and the reasons of all occurrences of its item. -/
theorem of_mem_mergedCandidates {maxCandidateCount : ℤ} {responses : List RetrieverResponse}
    {candidate : CandidateItem} (h : candidate ∈ mergedCandidates maxCandidateCount responses) :
  candidate.retrieveScore
      = (((occurrences responses).filter (·.itemId = candidate.itemId)).map occurrenceScore).sum
    ∧ candidate.reasons.Perm
      (((occurrences responses).filter (·.itemId = candidate.itemId)).flatMap occurrenceReasons)
  := (accumulate_addOccurrence (accumulate_of_mem_mergedCandidates h)).2.2

theorem itemId_ne_zero_of_mem_mergedCandidates {maxCandidateCount : ℤ}
    {responses : List RetrieverResponse} {candidate : CandidateItem}
    (h : candidate ∈ mergedCandidates maxCandidateCount responses) :
  candidate.itemId ≠ 0
  := by
  have hid : candidate.itemId ∈ (mergedCandidates maxCandidateCount responses).map (·.itemId) :=
    List.mem_map_of_mem h
  rw [map_itemId_mergedCandidates] at hid
  obtain ⟨x, hx, he⟩ := List.mem_map.mp (List.mem_eraseDups.mp (List.mem_of_mem_take hid))
  rw [← he]
  simpa using (List.mem_filter.mp hx).2

/-- The occurrences of an item are those in the responses, in another order. -/
theorem occurrences_filter_perm (responses : List RetrieverResponse) {id : ℕ} (hid : id ≠ 0) :
  ((occurrences responses).filter (·.itemId = id)).Perm
    ((responses.flatMap (·.candidates)).filter (·.itemId = id))
  := by
  have hfilter : (occurrences responses).filter (·.itemId = id)
      = (RoundRobin.interleave (responses.map (·.candidates))).filter (·.itemId = id) := by
    rw [occurrences, List.filter_filter]
    apply List.filter_congr
    intro x _
    by_cases hx : x.itemId = id <;> simp [hx, hid]
  rw [hfilter, List.flatMap_def]
  exact (RoundRobin.interleave_perm_flatten _).filter _

/-- The turns of all responses. -/
theorem mem_occurrences {responses : List RetrieverResponse} {candidate : CandidateItem} :
  candidate ∈ occurrences responses
    ↔ (∃ response ∈ responses, candidate ∈ response.candidates) ∧ candidate.itemId ≠ 0
  := by
  rw [occurrences, List.mem_filter, (RoundRobin.interleave_perm_flatten _).mem_iff,
    ← List.flatMap_def, List.mem_flatMap, decide_eq_true_eq]

/-- The item of a merged candidate is that of a candidate of some response. -/
theorem exists_of_mem_mergedCandidates {maxCandidateCount : ℤ}
    {responses : List RetrieverResponse} {candidate : CandidateItem}
    (h : candidate ∈ mergedCandidates maxCandidateCount responses) :
  ∃ response ∈ responses, ∃ c ∈ response.candidates, c.itemId = candidate.itemId
  := by
  have hid : candidate.itemId ∈ (mergedCandidates maxCandidateCount responses).map (·.itemId) :=
    List.mem_map_of_mem h
  rw [map_itemId_mergedCandidates] at hid
  obtain ⟨c, hc, he⟩ := List.mem_map.mp (List.mem_eraseDups.mp (List.mem_of_mem_take hid))
  obtain ⟨⟨response, hresponse, hmem⟩, -⟩ := mem_occurrences.mp hc
  exact ⟨response, hresponse, c, hmem, he⟩

/-- There are merged candidates when a response has a candidate. -/
theorem mergedCandidates_ne_nil {maxCandidateCount : ℤ} (hmax : 0 < maxCandidateCount)
    {responses : List RetrieverResponse} :
  mergedCandidates maxCandidateCount responses ≠ []
    ↔ ∃ response ∈ responses, ∃ candidate ∈ response.candidates, candidate.itemId ≠ 0
  := by
  constructor
  · intro h
    obtain ⟨candidate, hcandidate⟩ := List.exists_mem_of_ne_nil _ h
    obtain ⟨response, hresponse, c, hc, he⟩ := exists_of_mem_mergedCandidates hcandidate
    refine ⟨response, hresponse, c, hc, ?_⟩
    rw [he]
    exact itemId_ne_zero_of_mem_mergedCandidates hcandidate
  · rintro ⟨response, hresponse, candidate, hcandidate, hid⟩ hnil
    have hmem : candidate.itemId ∈ ((occurrences responses).map (·.itemId)).eraseDups :=
      List.mem_eraseDups.mpr (List.mem_map_of_mem
        (mem_occurrences.mpr ⟨⟨response, hresponse, hcandidate⟩, hid⟩))
    have hlength := congrArg List.length (map_itemId_mergedCandidates maxCandidateCount responses)
    rw [hnil, List.map_nil, List.length_nil, List.length_take] at hlength
    have hpos := List.length_pos_of_mem hmem
    omega

theorem candidates_dispatchToRetrievers (o : RetrievalOrchestrator) (request : RetrieveRequest) :
  (o.dispatchToRetrievers request).2.candidates
    = mergedCandidates request.maxCandidateCount (o.retrieverResponses request)
  := by
  rw [dispatchToRetrievers]
  split
  next h =>
    rw [List.isEmpty_iff.mp h]
    rfl
  next h => rfl

/-- An accepted response is that of a retriever. -/
theorem of_mem_retrieverResponses {o : RetrievalOrchestrator} {request : RetrieveRequest}
    {response : RetrieverResponse} (h : response ∈ o.retrieverResponses request) :
  ∃ retriever ∈ o.retrieverStubs, ∃ stub, retriever.2 = some stub
    ∧ response = (stub (o.retrieverRequest request)).2
  := by
  obtain ⟨⟨name, status, answer⟩, houtcome, haccepted⟩ := List.mem_filterMap.mp h
  obtain ⟨retriever, hretriever, he⟩ := List.mem_map.mp houtcome
  obtain ⟨-, hfetch⟩ := Prod.mk.inj he
  have hanswer : status.isOk ∧ answer = response := by simpa using haccepted
  obtain ⟨hok, rfl⟩ := hanswer
  use retriever, hretriever
  cases hstub : retriever.2 with
  | none =>
      rw [hstub, fetchCandidatesFromRetriever] at hfetch
      cases hfetch
      cases hok
  | some stub =>
      use stub, rfl
      rw [hstub] at hfetch
      simp only [fetchCandidatesFromRetriever] at hfetch
      repeat' split at hfetch
      all_goals exact (Prod.mk.inj hfetch).2.symm

/-- The item of a retrieved candidate is that of a candidate of some retriever. -/
theorem of_mem_candidates_retrieve {o : RetrievalOrchestrator} {request : RetrieveRequest}
    {candidate : CandidateItem} (h : candidate ∈ (o.retrieve request).2.candidates) :
  candidate.itemId ≠ 0 ∧ ∃ retriever ∈ o.retrieverStubs, ∃ stub, retriever.2 = some stub
    ∧ ∃ c ∈ (stub (o.retrieverRequest request)).2.candidates, c.itemId = candidate.itemId
  := by
  have hmerged : candidate ∈ (o.dispatchToRetrievers request).2.candidates := by
    simp only [retrieve] at h
    repeat' split at h
    · simp at h
    · simp at h
    · exact h
    · exact h
  rw [candidates_dispatchToRetrievers] at hmerged
  refine ⟨itemId_ne_zero_of_mem_mergedCandidates hmerged, ?_⟩
  obtain ⟨response, hresponse, c, hc, he⟩ := exists_of_mem_mergedCandidates hmerged
  obtain ⟨retriever, hretriever, stub, hstub, rfl⟩ := of_mem_retrieverResponses hresponse
  exact ⟨retriever, hretriever, stub, hstub, c, hc, he⟩

theorem computeRetrieverMaxCandidateCount_pos {maxResults : ℤ} (h : 0 < maxResults)
    (expandRatio : ℚ) :
  0 < computeRetrieverMaxCandidateCount maxResults expandRatio
  := by
  rw [computeRetrieverMaxCandidateCount, if_neg (not_le.mpr h)]
  exact lt_max_of_lt_left h

/-- A retriever that succeeds with an accepted status. -/
theorem fetchCandidatesFromRetriever_of_accepted {name : String} {stub : RetrieverStub}
    {request : RetrieverRequest} (hok : (stub request).1 = .OK)
    (haccepted : isRetrieverResponseStatusAccepted (stub request).2.status) :
  fetchCandidatesFromRetriever name (some stub) request = (.OK, (stub request).2)
  := by
  simp only [fetchCandidatesFromRetriever, hok, haccepted, Status.isOk_OK, Bool.not_true,
    Bool.false_eq_true, if_false]

/-- What a valid request is answered depends only on the accepted responses, if there are any. -/
theorem retrieve_eq_of_retrieverResponses {o : RetrievalOrchestrator} {request : RetrieveRequest}
    (huser : 0 < request.userId) (hprofile : request.profile.isSome)
    (hresponses : o.retrieverResponses request ≠ []) :
  o.retrieve request
    = (.OK, {
        status := .success
        msg := ""
        candidateCount :=
          (mergedCandidates request.maxCandidateCount (o.retrieverResponses request)).length
        candidates := mergedCandidates request.maxCandidateCount (o.retrieverResponses request) })
  := by
  have hnone : request.profile.isNone = false := by
    rw [← Option.not_isSome, hprofile]
    rfl
  have hempty : (o.retrieverResponses request).isEmpty = false := by
    rw [List.isEmpty_eq_false_iff]
    exact hresponses
  simp only [retrieve, not_le.mpr huser, if_false, hnone, Bool.false_eq_true, dispatchToRetrievers,
    hempty, Status.isOk_OK, Bool.not_true, Bool.false_and]

/-- A valid request with an accepted response succeeds with the merged candidates. -/
theorem retrieve_of_retrieverResponses {o : RetrievalOrchestrator} {request : RetrieveRequest}
    (huser : 0 < request.userId) (hprofile : request.profile.isSome)
    (hresponses : o.retrieverResponses request ≠ []) :
  (o.retrieve request).1 = .OK ∧ (o.retrieve request).2.status = .success
    ∧ (o.retrieve request).2.candidates
      = mergedCandidates request.maxCandidateCount (o.retrieverResponses request)
  := by
  rw [retrieve_eq_of_retrieverResponses huser hprofile hresponses]
  exact ⟨rfl, rfl, rfl⟩

/-- The candidates are the first distinct items of the interleaving of the accepted responses,
in the order first seen.  Each has the sum of the scores and the reasons of all occurrences of
its item.  The call succeeds when some response is accepted. -/
theorem dispatchToRetrievers_candidates (o : RetrievalOrchestrator) (request : RetrieveRequest) :
  (o.dispatchToRetrievers request).2.candidates.map (·.itemId)
      = (((RoundRobin.interleave ((o.retrieverResponses request).map (·.candidates))).map
          (·.itemId)).filter (· ≠ 0)).eraseDups.take (max 0 request.maxCandidateCount).toNat
    ∧ (∀ candidate ∈ (o.dispatchToRetrievers request).2.candidates,
        candidate.retrieveScore
            = ((((o.retrieverResponses request).flatMap (·.candidates)).filter
                (·.itemId = candidate.itemId)).map occurrenceScore).sum
          ∧ candidate.reasons.Perm
            ((((o.retrieverResponses request).flatMap (·.candidates)).filter
                (·.itemId = candidate.itemId)).flatMap occurrenceReasons))
    ∧ ((o.dispatchToRetrievers request).1 = .OK ↔ o.retrieverResponses request ≠ [])
  := by
  rw [candidates_dispatchToRetrievers]
  refine ⟨?_, ?_, ?_⟩
  · rw [map_itemId_mergedCandidates, occurrences, List.filter_map]
    congr 1
    omega
  · intro candidate hcandidate
    have hperm := occurrences_filter_perm (o.retrieverResponses request)
      (itemId_ne_zero_of_mem_mergedCandidates hcandidate)
    obtain ⟨hscore, hreasons⟩ := of_mem_mergedCandidates hcandidate
    exact ⟨hscore.trans (hperm.map _).sum_eq, hreasons.trans (hperm.flatMap_right _)⟩
  · rw [dispatchToRetrievers]
    split
    next h => simp [List.isEmpty_iff.mp h, Status.OK]
    next h => simpa using h

/-! ### Failing retrievers -/

/-- The call of a retriever succeeds with an accepted response. -/
def accepts (o : RetrievalOrchestrator) (request : RetrieveRequest)
    (retriever : String × Option RetrieverStub) : Bool :=
  (fetchCandidatesFromRetriever retriever.1 retriever.2 (o.retrieverRequest request)).1.isOk

/-- The orchestrator with only the retrievers whose calls succeed. -/
def withoutFailing (o : RetrievalOrchestrator) (request : RetrieveRequest)
    (h : ∃ retriever ∈ o.retrieverStubs, o.accepts request retriever) :
    RetrievalOrchestrator where
  retrieverStubs := o.retrieverStubs.filter (o.accepts request)
  recallCandidateExpandRatio := o.recallCandidateExpandRatio
  stubs_ne_nil := by
    obtain ⟨retriever, hretriever, haccepts⟩ := h
    exact List.ne_nil_of_mem (List.mem_filter.mpr ⟨hretriever, haccepts⟩)
  ratio_pos := o.ratio_pos
  stubs_valid := fun retriever hretriever =>
    o.stubs_valid retriever (List.mem_of_mem_filter hretriever)

/-- The accepted responses are those of the retrievers whose calls succeed. -/
theorem retrieverResponses_eq_map_filter (o : RetrievalOrchestrator) (request : RetrieveRequest) :
  o.retrieverResponses request
    = (o.retrieverStubs.filter (o.accepts request)).map fun retriever =>
      (fetchCandidatesFromRetriever retriever.1 retriever.2 (o.retrieverRequest request)).2
  := by
  rw [retrieverResponses, outcomes, List.filterMap_map, ← List.filterMap_eq_map,
    List.filterMap_filter]
  rfl

theorem retrieverResponses_eq_nil {o : RetrievalOrchestrator} {request : RetrieveRequest} :
  o.retrieverResponses request = []
    ↔ ∀ retriever ∈ o.retrieverStubs, ¬o.accepts request retriever
  := by
  rw [retrieverResponses_eq_map_filter, List.map_eq_nil_iff, List.filter_eq_nil_iff]

/-- Leaving out failing retrievers leaves the accepted responses. -/
theorem retrieverResponses_withoutFailing (o : RetrievalOrchestrator) (request : RetrieveRequest)
    (h : ∃ retriever ∈ o.retrieverStubs, o.accepts request retriever) :
  (o.withoutFailing request h).retrieverResponses request = o.retrieverResponses request
  := by
  rw [retrieverResponses_eq_map_filter, retrieverResponses_eq_map_filter]
  have hfilter : (o.withoutFailing request h).retrieverStubs.filter
      ((o.withoutFailing request h).accepts request)
      = o.retrieverStubs.filter (o.accepts request) := by
    apply List.filter_eq_self.mpr
    intro retriever hretriever
    exact (List.mem_filter.mp hretriever).2
  rw [hfilter]
  rfl

/-- With no accepted response a valid request fails. -/
theorem retrieve_of_retrieverResponses_eq_nil {o : RetrievalOrchestrator}
    {request : RetrieveRequest} (huser : 0 < request.userId)
    (hprofile : request.profile.isSome) (hresponses : o.retrieverResponses request = []) :
  (o.retrieve request).1.code = .internal
    ∧ (o.retrieve request).2.status = .systemError
    ∧ (o.retrieve request).2.candidates = []
  := by
  have hnone : request.profile.isNone = false := by
    rw [← Option.not_isSome, hprofile]
    rfl
  simp only [retrieve, not_le.mpr huser, if_false, hnone, Bool.false_eq_true, dispatchToRetrievers,
    hresponses, List.isEmpty_nil, if_true]
  repeat' split
  all_goals exact ⟨rfl, rfl, rfl⟩

/-- A valid request is answered as if the failing retrievers were not configured, and fails
exactly when all of them fail. -/
theorem retrieve_withoutFailing (o : RetrievalOrchestrator) (request : RetrieveRequest)
    (huser : 0 < request.userId) (hprofile : request.profile.isSome) :
  (∀ h : ∃ retriever ∈ o.retrieverStubs, o.accepts request retriever,
      (o.withoutFailing request h).retrieve request = o.retrieve request)
    ∧ ((o.retrieve request).1.isOk = false
      ↔ ∀ retriever ∈ o.retrieverStubs, ¬o.accepts request retriever)
    ∧ ((o.retrieve request).1.isOk = false →
      (o.retrieve request).1.code = .internal
        ∧ (o.retrieve request).2.status = .systemError
        ∧ (o.retrieve request).2.candidates = [])
  := by
  have hfails : (o.retrieve request).1.isOk = false ↔ o.retrieverResponses request = [] := by
    constructor
    · intro h
      by_contra hresponses
      rw [retrieve_eq_of_retrieverResponses huser hprofile hresponses] at h
      cases h
    · intro h
      rw [Status.isOk, (retrieve_of_retrieverResponses_eq_nil huser hprofile h).1]
      rfl
  constructor
  · intro h
    have hresponses : o.retrieverResponses request ≠ [] := by
      rw [ne_eq, retrieverResponses_eq_nil]
      push Not
      exact h
    have hresponses' : (o.withoutFailing request h).retrieverResponses request ≠ [] := by
      rwa [retrieverResponses_withoutFailing]
    rw [retrieve_eq_of_retrieverResponses huser hprofile hresponses,
      retrieve_eq_of_retrieverResponses huser hprofile hresponses',
      retrieverResponses_withoutFailing]
  · constructor
    · rw [hfails, retrieverResponses_eq_nil]
    · intro h
      exact retrieve_of_retrieverResponses_eq_nil huser hprofile (hfails.mp h)

/-- A retriever that fails with a candidate in its reply is as good as none. -/
theorem retrieve_withoutFailing_one_of_two :
  ∃ o : RetrievalOrchestrator,
    (o.retrieve { userId := 7, profile := some {}, maxCandidateCount := 5 }).2.candidates.map
      (·.itemId) = [30]
  := by
  use {
    retrieverStubs := [
      ("a", some fun _ => (.OK, { status := .systemError, candidates := [{ itemId := 31 }] })),
      ("b", some fun _ => (.OK, { status := .success, candidates := [{ itemId := 30 }] }))]
    recallCandidateExpandRatio := 1
    stubs_ne_nil := by simp
    ratio_pos := by decide
    stubs_valid := by simp [stubProblem] }
  rw [← (retrieve_withoutFailing _ _ (by decide) rfl).1 ⟨_, List.mem_cons_of_mem _
    (List.mem_cons_self), by decide⟩]
  decide +kernel

/-! ### How many candidates the retrievers are asked for -/

/-- The least `int`. -/
def minInt : ℤ := -2 ^ 31

/-- The largest `int`. -/
def maxInt : ℤ := 2 ^ 31 - 1

/-- The number of candidates where its conversion to `int` is defined; `none` where the conversion is
out of the range. -/
def convertRetrieverMaxCandidateCount (maxResults : ℤ) (expandRatio : ℚ) : Option ℤ :=
  if maxResults ≤ 0
      ∨ (Rounding.toInteger minInt maxInt (⌈(maxResults : ℚ) * expandRatio⌉ : ℚ)).isSome then
    some (computeRetrieverMaxCandidateCount maxResults expandRatio)
  else none

/-- The conversion is defined when the expanded count is an `int`. -/
theorem convertRetrieverMaxCandidateCount_iff {maxResults : ℤ} (hpos : 0 < maxResults)
    {expandRatio : ℚ} (hratio : 0 < expandRatio) :
  convertRetrieverMaxCandidateCount maxResults expandRatio
      = some (computeRetrieverMaxCandidateCount maxResults expandRatio)
    ↔ ⌈(maxResults : ℚ) * expandRatio⌉ ≤ maxInt
  := by
  have hexpanded : 0 < ⌈(maxResults : ℚ) * expandRatio⌉ := by
    apply Int.ceil_pos.mpr
    apply mul_pos _ hratio
    exact_mod_cast hpos
  have hlow : minInt ≤ ⌈(maxResults : ℚ) * expandRatio⌉ := by
    rw [minInt]
    omega
  rw [convertRetrieverMaxCandidateCount, Rounding.toInteger, Rounding.truncate_intCast]
  constructor
  · intro h
    by_contra hhigh
    have hundefined : ¬ (minInt ≤ ⌈(maxResults : ℚ) * expandRatio⌉
        ∧ ⌈(maxResults : ℚ) * expandRatio⌉ ≤ maxInt) := fun hrange => hhigh hrange.2
    rw [if_neg hundefined, if_neg (by simpa using hpos)] at h
    cases h
  · intro h
    apply if_pos
    rw [if_pos ⟨hlow, h⟩]
    exact .inr rfl

/-- More results and a larger ratio ask for more candidates. -/
theorem computeRetrieverMaxCandidateCount_mono {m m' : ℤ} (hpos : 0 < m) (hm : m ≤ m') {r r' : ℚ}
    (hratio : 0 < r) (hr : r ≤ r') :
  ⌈(m : ℚ) * r⌉ ≤ ⌈(m' : ℚ) * r'⌉
    ∧ computeRetrieverMaxCandidateCount m r ≤ computeRetrieverMaxCandidateCount m' r'
  := by
  have hm' : (m : ℚ) ≤ m' := by exact_mod_cast hm
  have hnonneg : (0 : ℚ) ≤ m' := by exact_mod_cast (hpos.trans_le hm).le
  have hceil : ⌈(m : ℚ) * r⌉ ≤ ⌈(m' : ℚ) * r'⌉ :=
    Int.ceil_le_ceil (mul_le_mul hm' hr hratio.le hnonneg)
  refine ⟨hceil, ?_⟩
  rw [computeRetrieverMaxCandidateCount, computeRetrieverMaxCandidateCount,
    if_neg (not_le.mpr hpos), if_neg (not_le.mpr (hpos.trans_le hm))]
  exact max_le_max hm hceil

/-- The count sent to the retrievers is the larger of the results asked for and their expanded
number exactly when that number is an `int`.  It is then an `int` that is no smaller than the
results asked for, and fewer results or a smaller ratio ask for no more. -/
theorem retrieverMaxCandidateCount_iff (o : RetrievalOrchestrator) {request : RetrieveRequest}
    (hpos : 0 < request.maxCandidateCount) (hint : request.maxCandidateCount ≤ maxInt) :
  (convertRetrieverMaxCandidateCount request.maxCandidateCount o.recallCandidateExpandRatio
        = some (max request.maxCandidateCount
            ⌈(request.maxCandidateCount : ℚ) * o.recallCandidateExpandRatio⌉)
      ↔ ⌈(request.maxCandidateCount : ℚ) * o.recallCandidateExpandRatio⌉ ≤ maxInt)
    ∧ (⌈(request.maxCandidateCount : ℚ) * o.recallCandidateExpandRatio⌉ ≤ maxInt →
      convertRetrieverMaxCandidateCount request.maxCandidateCount o.recallCandidateExpandRatio
          = some (o.retrieverRequest request).maxCandidateCount
        ∧ request.maxCandidateCount ≤ (o.retrieverRequest request).maxCandidateCount
        ∧ (o.retrieverRequest request).maxCandidateCount ≤ maxInt
        ∧ ∀ (o' : RetrievalOrchestrator) (request' : RetrieveRequest),
            0 < request'.maxCandidateCount →
            request'.maxCandidateCount ≤ request.maxCandidateCount →
            o'.recallCandidateExpandRatio ≤ o.recallCandidateExpandRatio →
            convertRetrieverMaxCandidateCount request'.maxCandidateCount
                o'.recallCandidateExpandRatio
              = some (o'.retrieverRequest request').maxCandidateCount
            ∧ (o'.retrieverRequest request').maxCandidateCount
              ≤ (o.retrieverRequest request).maxCandidateCount)
  := by
  have hcount : (o.retrieverRequest request).maxCandidateCount
      = max request.maxCandidateCount
          ⌈(request.maxCandidateCount : ℚ) * o.recallCandidateExpandRatio⌉ := by
    rw [retrieverRequest, computeRetrieverMaxCandidateCount, if_neg (not_le.mpr hpos)]
  have hiff := convertRetrieverMaxCandidateCount_iff hpos o.ratio_pos
  rw [← hcount]
  refine ⟨hiff, fun hexpanded => ⟨hiff.mpr hexpanded, ?_, ?_, ?_⟩⟩
  · rw [hcount]
    exact le_max_left _ _
  · rw [hcount]
    exact max_le hint hexpanded
  · intro o' request' hpos' hle hratio
    obtain ⟨hceil, hmono⟩ := computeRetrieverMaxCandidateCount_mono hpos' hle o'.ratio_pos hratio
    exact ⟨(convertRetrieverMaxCandidateCount_iff hpos' o'.ratio_pos).mpr (hceil.trans hexpanded),
      hmono⟩

/-- An orchestrator of one retriever, with the ratio of the configuration. -/
def sampleOrchestrator : RetrievalOrchestrator where
  retrieverStubs := [("item_cf", some fun _ => (.OK, {}))]
  recallCandidateExpandRatio := 2
  stubs_ne_nil := by simp
  ratio_pos := by decide
  stubs_valid := by simp [stubProblem]

/-- Ten results ask for twenty candidates. -/
theorem retrieverMaxCandidateCount_iff_ten :
  10 ≤ (sampleOrchestrator.retrieverRequest { maxCandidateCount := 10 }).maxCandidateCount
    ∧ convertRetrieverMaxCandidateCount 10 2 = some 20
  := by
  have h := @retrieverMaxCandidateCount_iff sampleOrchestrator { maxCandidateCount := 10 }
    (by decide) (by decide)
  refine ⟨(h.2 (by decide +kernel)).2.1, (h.2 (by decide +kernel)).1.trans ?_⟩
  decide +kernel

/-- The largest request is expanded out of the range. -/
theorem convertRetrieverMaxCandidateCount_maxInt :
  convertRetrieverMaxCandidateCount maxInt 2 = none
    ∧ ¬ ∀ (o : RetrievalOrchestrator) (request : RetrieveRequest),
        0 < request.maxCandidateCount → request.maxCandidateCount ≤ maxInt →
        convertRetrieverMaxCandidateCount request.maxCandidateCount o.recallCandidateExpandRatio
          = some (max request.maxCandidateCount
              ⌈(request.maxCandidateCount : ℚ) * o.recallCandidateExpandRatio⌉)
  := by
  have hnone : convertRetrieverMaxCandidateCount maxInt 2 = none := by decide +kernel
  refine ⟨hnone, fun h => ?_⟩
  have hsome := h sampleOrchestrator { maxCandidateCount := maxInt } (by decide) le_rfl
  change convertRetrieverMaxCandidateCount maxInt 2 = _ at hsome
  rw [hnone] at hsome
  cases hsome

end RetrievalOrchestrator

end RecommendationEngine
