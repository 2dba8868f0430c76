import ShootingStar.Ranking.HeuristicRanker
import ShootingStar.Retrieval.Orchestrator

/-!
# Provenance

The orchestrator merges the occurrences of an item, and the ranker merges what it is sent once
more.  When no occurrence has two signals of one retriever, a merged candidate has one signal for
every retriever of its occurrences, with the scores and the reasons of that retriever
(`provenance_of_mem`).

A merged candidate is normal: normalizing it changes nothing.  Merging distinct normal candidates
therefore returns them, so that merging twice is merging once, and the ranker leaves the
candidates of the orchestrator as they are (`merge_again`).
-/

namespace RecommendationEngine

/-! ### Signals by retriever -/

/-- A signal merged into what is known of its retriever. -/
def addSignal (source : RetrievalSignal) : Option RetrievalSignal → RetrievalSignal
  | none => source
  | some target =>
    { target with
      retrieveScore := target.retrieveScore + source.retrieveScore
      reasons := target.reasons ++ source.reasons }

/-- The signals under the names of their retrievers. -/
def byRetriever (signals : List RetrievalSignal) : List (String × RetrievalSignal) :=
  signals.map fun signal => (signal.retriever, signal)

/-- Merging a signal updates that of its retriever. -/
theorem byRetriever_mergeRetrievalSignal (source : RetrievalSignal)
    (signals : List RetrievalSignal) :
  byRetriever (mergeRetrievalSignal source signals)
    = Keyed.upsert source.retriever (addSignal source) (byRetriever signals)
  := by
  induction signals with
  | nil => rfl
  | cons target rest ih =>
      rw [mergeRetrievalSignal]
      by_cases h : target.retriever = source.retriever
      · simp [byRetriever, Keyed.upsert, h, addSignal]
      · simp only [byRetriever] at ih
        simp [byRetriever, Keyed.upsert, h, ih]

/-- Merging signals updates those of their retrievers in turn. -/
theorem byRetriever_foldl_mergeRetrievalSignal (sources signals : List RetrievalSignal) :
  byRetriever (sources.foldl (fun signals signal => mergeRetrievalSignal signal signals) signals)
    = sources.foldl (fun d source => Keyed.upsert source.retriever (addSignal source) d)
      (byRetriever signals)
  := by
  induction sources generalizing signals with
  | nil => rfl
  | cons source sources ih =>
      rw [List.foldl_cons, ih, byRetriever_mergeRetrievalSignal, List.foldl_cons]

/-- The signal accumulated from the signals of a retriever has their scores and reasons. -/
theorem accumulate_addSignal {name : String} {signals : List RetrievalSignal}
    (hname : ∀ signal ∈ signals, signal.retriever = name) {merged : RetrievalSignal}
    (h : Keyed.accumulate addSignal signals = some merged) :
  merged.retriever = name
    ∧ merged.retrieveScore = (signals.map (·.retrieveScore)).sum
    ∧ merged.reasons = signals.flatMap (·.reasons)
  := by
  induction signals using List.reverseRecOn generalizing merged with
  | nil => cases h
  | append_singleton signals signal ih =>
      rw [Keyed.accumulate_concat] at h
      obtain rfl := Option.some.inj h
      cases hprev : Keyed.accumulate addSignal signals with
      | none =>
          rw [Keyed.accumulate_eq_none.mp hprev]
          simpa [addSignal] using hname signal (by simp)
      | some target =>
          obtain ⟨hretriever, hscore, hreasons⟩ :=
            ih (fun other hother => hname other (List.mem_append_left _ hother)) hprev
          simp [addSignal, hretriever, hscore, hreasons]

/-! ### The signals of merged occurrences -/

/-- The signals of an occurrence; without signals it counts as one signal of its own fields. -/
def signalsOf (candidate : CandidateItem) : List RetrievalSignal :=
  (ensureRetrievalSignals candidate).retrievalSignals

/-- No two signals are of one retriever. -/
def OneSignalPerRetriever (candidate : CandidateItem) : Prop :=
  (candidate.retrievalSignals.map (·.retriever)).Nodup

theorem OneSignalPerRetriever.signalsOf {candidate : CandidateItem}
    (h : OneSignalPerRetriever candidate) :
  ((signalsOf candidate).map (·.retriever)).Nodup
  := by
  rw [RecommendationEngine.signalsOf, ensureRetrievalSignals]
  split
  · apply List.nodup_singleton
  · exact h

/-- The signals of a merged candidate collect those of its occurrences by retriever. -/
theorem byRetriever_of_accumulate {occurrences : List CandidateItem} {candidate : CandidateItem}
    (hone : ∀ x ∈ occurrences, OneSignalPerRetriever x)
    (h : Keyed.accumulate addOccurrence occurrences = some candidate) :
  byRetriever candidate.retrievalSignals
    = Keyed.collect RetrievalSignal.retriever addSignal (occurrences.flatMap signalsOf)
  := by
  induction occurrences using List.reverseRecOn generalizing candidate with
  | nil => cases h
  | append_singleton occurrences x ih =>
      rw [Keyed.accumulate_concat] at h
      obtain rfl := Option.some.inj h
      rw [List.flatMap_append, List.flatMap_singleton]
      cases hprev : Keyed.accumulate addOccurrence occurrences with
      | none =>
          rw [Keyed.accumulate_eq_none.mp hprev, List.flatMap_nil, List.nil_append,
            Keyed.collect_of_nodup (hone x (by simp)).signalsOf]
          rfl
      | some target =>
          have htarget := ih (fun y hy => hone y (List.mem_append_left _ hy)) hprev
          rw [Keyed.collect_append, ← htarget, ← byRetriever_foldl_mergeRetrievalSignal]
          rfl

/-! ### Names -/

theorem joinRetrieverNames_concat (names : List String) {name : String} (hname : name ≠ "") :
  joinRetrieverNames (names ++ [name])
    = if joinRetrieverNames names = "" then name else joinRetrieverNames names ++ "," ++ name
  := by
  rw [joinRetrieverNames, List.foldl_append, List.foldl_cons, if_neg hname]
  rfl

theorem joinRetrieverNames_ne_empty {names : List String} (hnames : ∀ name ∈ names, name ≠ "")
    (h : names ≠ []) :
  joinRetrieverNames names ≠ ""
  := by
  induction names using List.reverseRecOn with
  | nil => exact absurd rfl h
  | append_singleton names name _ =>
      have hname := hnames name (by simp)
      rw [joinRetrieverNames_concat names hname]
      split
      · exact hname
      · simp [hname]

/-- Names that are not empty are joined by commas. -/
theorem joinRetrieverNames_eq {names : List String} (hnames : ∀ name ∈ names, name ≠ "") :
  joinRetrieverNames names = String.intercalate "," names
  := by
  induction names using List.reverseRecOn with
  | nil => simp [joinRetrieverNames]
  | append_singleton names name ih =>
      have hprevious : ∀ other ∈ names, other ≠ "" := by
        intro other hother
        exact hnames other (List.mem_append_left _ hother)
      rw [joinRetrieverNames_concat names (hnames name (by simp))]
      by_cases h : names = []
      · simp [h, joinRetrieverNames]
      · rw [if_neg (joinRetrieverNames_ne_empty hprevious h), ih hprevious,
          String.intercalate_append_of_ne_nil h (List.cons_ne_nil name []),
          String.intercalate_singleton]

/-! ### Provenance -/

/-- The candidate has one signal for every retriever of the occurrences, in the order first seen,
with the scores and the reasons of that retriever; the other fields are derived from the
signals. -/
structure Provenance (occurrences : List CandidateItem) (candidate : CandidateItem) : Prop where
  retrievers : candidate.retrievalSignals.map (·.retriever)
    = ((occurrences.flatMap signalsOf).map (·.retriever)).eraseDups
  signal_retrieveScore : ∀ signal ∈ candidate.retrievalSignals, signal.retrieveScore
    = (((occurrences.flatMap signalsOf).filter (·.retriever = signal.retriever)).map
        (·.retrieveScore)).sum
  signal_reasons : ∀ signal ∈ candidate.retrievalSignals, signal.reasons
    = ((occurrences.flatMap signalsOf).filter (·.retriever = signal.retriever)).flatMap (·.reasons)
  retrieveScore : candidate.retrieveScore = (candidate.retrievalSignals.map (·.retrieveScore)).sum
  reasons : candidate.reasons = candidate.retrievalSignals.flatMap (·.reasons)
  retriever : candidate.retriever
    = String.intercalate "," ((candidate.retrievalSignals.map (·.retriever)).filter (· ≠ ""))

theorem map_retriever_eq (signals : List RetrievalSignal) :
  signals.map (·.retriever) = (byRetriever signals).map Prod.fst
  := by
  rw [byRetriever, List.map_map]
  rfl

/-- The retriever of a merged candidate joins the names of its signals. -/
theorem retriever_of_accumulate {occurrences : List CandidateItem} {candidate : CandidateItem}
    (h : Keyed.accumulate addOccurrence occurrences = some candidate) :
  candidate.retriever
    = joinRetrieverNames ((candidate.retrievalSignals.map (·.retriever)).filter (· ≠ "")).eraseDups
  := by
  cases occurrences using List.reverseRecOn with
  | nil => cases h
  | append_singleton occurrences x =>
      rw [Keyed.accumulate_concat] at h
      obtain rfl := Option.some.inj h
      cases Keyed.accumulate addOccurrence occurrences <;> rfl

/-- A candidate merged from occurrences keeps their provenance. -/
theorem provenance_of_accumulate {occurrences : List CandidateItem} {candidate : CandidateItem}
    (hone : ∀ x ∈ occurrences, OneSignalPerRetriever x)
    (h : Keyed.accumulate addOccurrence occurrences = some candidate) :
  Provenance occurrences candidate
  := by
  have hsignals := byRetriever_of_accumulate hone h
  obtain ⟨hrebuilt, -, -, -⟩ := accumulate_addOccurrence h
  have hretrievers : candidate.retrievalSignals.map (·.retriever)
      = ((occurrences.flatMap signalsOf).map (·.retriever)).eraseDups := by
    rw [map_retriever_eq, hsignals, Keyed.map_fst_collect]
  have hsignal : ∀ signal ∈ candidate.retrievalSignals,
      signal.retrieveScore
          = (((occurrences.flatMap signalsOf).filter (·.retriever = signal.retriever)).map
              (·.retrieveScore)).sum
        ∧ signal.reasons
          = ((occurrences.flatMap signalsOf).filter
              (·.retriever = signal.retriever)).flatMap (·.reasons) := by
    intro signal hmem
    have hpair : (signal.retriever, signal)
        ∈ Keyed.collect RetrievalSignal.retriever addSignal (occurrences.flatMap signalsOf) := by
      rw [← hsignals]
      exact List.mem_map_of_mem hmem
    have hretriever : ∀ other ∈ (occurrences.flatMap signalsOf).filter
        (·.retriever = signal.retriever), other.retriever = signal.retriever := by
      intro other hother
      exact of_decide_eq_true (List.mem_filter.mp hother).2
    exact (accumulate_addSignal hretriever (Keyed.accumulate_of_mem_collect hpair)).2
  constructor
  · exact hretrievers
  · intro signal hmem
    exact (hsignal signal hmem).1
  · intro signal hmem
    exact (hsignal signal hmem).2
  · exact hrebuilt.retrieveScore
  · exact hrebuilt.reasons
  · have hnames : ((candidate.retrievalSignals.map (·.retriever)).filter (· ≠ "")).Nodup := by
      rw [hretrievers]
      exact (Keyed.nodup_eraseDups _).filter _
    rw [retriever_of_accumulate h, Keyed.eraseDups_of_nodup hnames, joinRetrieverNames_eq]
    intro name hname
    exact of_decide_eq_true (List.mem_filter.mp hname).2

/-- The merge loops of the orchestrator and of the ranker produce one candidate for every item, in
the order first seen and in the orchestrator up to the maximum, and it keeps the provenance of the
occurrences of the item. -/
theorem provenance_of_mem :
  (∀ (maxCandidateCount : ℤ) (responses : List RetrieverResponse),
    (RetrievalOrchestrator.mergedCandidates maxCandidateCount responses).map (·.itemId)
      = ((RetrievalOrchestrator.occurrences responses).map (·.itemId)).eraseDups.take
          maxCandidateCount.toNat
    ∧ ∀ candidate ∈ RetrievalOrchestrator.mergedCandidates maxCandidateCount responses,
      (∀ x ∈ (RetrievalOrchestrator.occurrences responses).filter (·.itemId = candidate.itemId),
        OneSignalPerRetriever x) →
      Provenance
        ((RetrievalOrchestrator.occurrences responses).filter (·.itemId = candidate.itemId))
        candidate)
  ∧ ∀ (request : RankRequest),
    (normalizeAndMergeCandidates request).map (·.itemId)
      = ((request.candidates.map (·.itemId)).filter (· ≠ 0)).eraseDups
    ∧ ∀ candidate ∈ normalizeAndMergeCandidates request,
      (∀ x ∈ request.candidates.filter (·.itemId = candidate.itemId), OneSignalPerRetriever x) →
      Provenance (request.candidates.filter (·.itemId = candidate.itemId)) candidate
  := by
  constructor
  · intro maxCandidateCount responses
    use RetrievalOrchestrator.map_itemId_mergedCandidates maxCandidateCount responses
    intro candidate hcandidate hone
    exact provenance_of_accumulate hone
      (RetrievalOrchestrator.accumulate_of_mem_mergedCandidates hcandidate)
  · intro request
    use map_itemId_normalizeAndMergeCandidates request
    intro candidate hcandidate hone
    exact provenance_of_accumulate hone (accumulate_of_mem_normalizeAndMergeCandidates hcandidate)

/-- Two retrievers find an item, and the one candidate either loop produces has the signals of
both. -/
theorem provenance_of_mem_two :
  (∃ candidate : CandidateItem,
    RetrievalOrchestrator.mergedCandidates 2
        [{ candidates := [{ itemId := 5, retriever := "a", retrieveScore := 1 }] },
          { candidates := [{ itemId := 5, retriever := "b", retrieveScore := 2 }] }] = [candidate]
      ∧ candidate.retrievalSignals.map (·.retriever) = ["a", "b"] ∧ candidate.retrieveScore = 3)
  ∧ ∃ candidate : CandidateItem,
    normalizeAndMergeCandidates
        { candidates := [{ itemId := 5, retriever := "a", retrieveScore := 1 },
          { itemId := 5, retriever := "b", retrieveScore := 2 }] } = [candidate]
      ∧ candidate.retrievalSignals.map (·.retriever) = ["a", "b"] ∧ candidate.retrieveScore = 3
  := by
  obtain ⟨horchestrator, hranker⟩ := provenance_of_mem
  have hone : ∀ x ∈ ([{ itemId := 5, retriever := "a", retrieveScore := 1 },
      { itemId := 5, retriever := "b", retrieveScore := 2 }] : List CandidateItem),
      OneSignalPerRetriever x := by
    simp [OneSignalPerRetriever]
  constructor
  · refine ⟨{ itemId := 5, retriever := "a,b", retrieveScore := 3,
              retrievalSignals := [⟨"a", 1, []⟩, ⟨"b", 2, []⟩] }, by decide +kernel, ?_⟩
    have h := (horchestrator 2
      [{ candidates := [{ itemId := 5, retriever := "a", retrieveScore := 1 }] },
        { candidates := [{ itemId := 5, retriever := "b", retrieveScore := 2 }] }]).2
      { itemId := 5, retriever := "a,b", retrieveScore := 3,
        retrievalSignals := [⟨"a", 1, []⟩, ⟨"b", 2, []⟩] } (by decide +kernel) hone
    exact ⟨h.retrievers.trans (by decide +kernel), h.retrieveScore.trans (by decide +kernel)⟩
  · refine ⟨{ itemId := 5, retriever := "a,b", retrieveScore := 3,
              retrievalSignals := [⟨"a", 1, []⟩, ⟨"b", 2, []⟩] }, by decide +kernel, ?_⟩
    have h := (hranker { candidates := [{ itemId := 5, retriever := "a", retrieveScore := 1 },
        { itemId := 5, retriever := "b", retrieveScore := 2 }] }).2
      { itemId := 5, retriever := "a,b", retrieveScore := 3,
        retrievalSignals := [⟨"a", 1, []⟩, ⟨"b", 2, []⟩] } (by decide +kernel) hone
    exact ⟨h.retrievers.trans (by decide +kernel), h.retrieveScore.trans (by decide +kernel)⟩

/-! ### Merging again -/

theorem signalsOf_ne_nil (candidate : CandidateItem) :
  signalsOf candidate ≠ []
  := by
  rw [signalsOf, ensureRetrievalSignals]
  split
  · simp
  next h => simpa using h

theorem mergeRetrievalSignal_ne_nil (source : RetrievalSignal) (signals : List RetrievalSignal) :
  mergeRetrievalSignal source signals ≠ []
  := by
  cases signals with
  | nil => simp [mergeRetrievalSignal]
  | cons target rest =>
      rw [mergeRetrievalSignal]
      split <;> simp

theorem foldl_mergeRetrievalSignal_ne_nil {sources : List RetrievalSignal} (h : sources ≠ [])
    (signals : List RetrievalSignal) :
  sources.foldl (fun signals signal => mergeRetrievalSignal signal signals) signals ≠ []
  := by
  cases sources using List.reverseRecOn with
  | nil => exact absurd rfl h
  | append_singleton sources source =>
      rw [List.foldl_append]
      apply mergeRetrievalSignal_ne_nil

/-- A candidate is normal when normalizing it changes nothing. -/
def Normal (candidate : CandidateItem) : Prop :=
  normalizeCandidate candidate = candidate

theorem normal_rebuildLegacyCandidateFields {candidate : CandidateItem}
    (h : candidate.retrievalSignals ≠ []) :
  Normal (rebuildLegacyCandidateFields candidate)
  := by
  have hsignals : (rebuildLegacyCandidateFields candidate).retrievalSignals.isEmpty = false :=
    List.isEmpty_eq_false_iff.mpr h
  rw [Normal, normalizeCandidate, ensureRetrievalSignals, hsignals]
  rfl

/-- A merged candidate is normal. -/
theorem normal_addOccurrence (x : CandidateItem) (o : Option CandidateItem) :
  Normal (addOccurrence x o)
  := by
  cases o with
  | none =>
      apply normal_rebuildLegacyCandidateFields
      exact signalsOf_ne_nil x
  | some target =>
      apply normal_rebuildLegacyCandidateFields
      exact foldl_mergeRetrievalSignal_ne_nil (signalsOf_ne_nil x) target.retrievalSignals

theorem normal_of_accumulate {occurrences : List CandidateItem} {candidate : CandidateItem}
    (h : Keyed.accumulate addOccurrence occurrences = some candidate) :
  Normal candidate
  := by
  cases occurrences using List.reverseRecOn with
  | nil => cases h
  | append_singleton occurrences x =>
      rw [Keyed.accumulate_concat] at h
      obtain rfl := Option.some.inj h
      apply normal_addOccurrence

/-- Distinct normal candidates are merged into themselves. -/
theorem normalizeAndMergeCandidates_of_normal {request : RankRequest}
    (hdistinct : (request.candidates.map (·.itemId)).Nodup)
    (hnormal : ∀ candidate ∈ request.candidates, candidate.itemId ≠ 0 ∧ Normal candidate) :
  normalizeAndMergeCandidates request = request.candidates
  := by
  have hall : request.candidates.filter (·.itemId ≠ 0) = request.candidates := by
    apply List.filter_eq_self.mpr
    intro candidate hcandidate
    exact decide_eq_true (hnormal candidate hcandidate).1
  rw [dict_normalizeAndMergeCandidates, hall, Keyed.collect_of_nodup hdistinct,
    List.map_map]
  apply (List.map_congr_left _).trans (List.map_id _)
  intro candidate hcandidate
  exact (hnormal candidate hcandidate).2

/-- The ranker leaves the candidates of the orchestrator as they are, and merging twice is merging
once. -/
theorem merge_again :
  (∀ (maxCandidateCount : ℤ) (responses : List RetrieverResponse) (request : RankRequest),
    normalizeAndMergeCandidates { request with
        candidates := RetrievalOrchestrator.mergedCandidates maxCandidateCount responses }
      = RetrievalOrchestrator.mergedCandidates maxCandidateCount responses)
  ∧ ∀ request : RankRequest,
    normalizeAndMergeCandidates { request with
        candidates := normalizeAndMergeCandidates request }
      = normalizeAndMergeCandidates request
  := by
  constructor
  · intro maxCandidateCount responses request
    apply normalizeAndMergeCandidates_of_normal
    · simp only
      rw [RetrievalOrchestrator.map_itemId_mergedCandidates]
      exact (Keyed.nodup_eraseDups _).sublist (List.take_sublist _ _)
    · intro candidate hcandidate
      constructor
      · exact RetrievalOrchestrator.itemId_ne_zero_of_mem_mergedCandidates hcandidate
      · exact normal_of_accumulate (RetrievalOrchestrator.accumulate_of_mem_mergedCandidates hcandidate)
  · intro request
    apply normalizeAndMergeCandidates_of_normal
    · simp only
      rw [map_itemId_normalizeAndMergeCandidates]
      exact HeuristicRankTask.nodup_distinctItems request
    · intro candidate hcandidate
      constructor
      · apply ne_zero_of_mem_distinctItems
        rw [← map_itemId_normalizeAndMergeCandidates]
        exact List.mem_map_of_mem hcandidate
      · exact normal_of_accumulate (accumulate_of_mem_normalizeAndMergeCandidates hcandidate)

end RecommendationEngine
