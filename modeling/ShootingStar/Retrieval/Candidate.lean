import Mathlib.Algebra.BigOperators.Group.List.Basic
import Mathlib.Algebra.Order.Field.Rat
import Mathlib.Data.List.Perm.Basic
import ShootingStar.Lib.Keyed
import ShootingStar.Messages

/-!
# Merging candidates

The orchestrator and the ranker merge the occurrences of an item with the same functions, each
in its own copy.  A merged candidate has the scores and the reasons of all the signals of its
occurrences (`accumulate_addOccurrence`).
-/

namespace RecommendationEngine

/-! ### The functions -/

/-- The names that are not empty, separated by commas. -/
def joinRetrieverNames (names : List String) : String :=
  names.foldl
    (fun joined name =>
      if name = "" then joined else if joined = "" then name else joined ++ "," ++ name) ""

/-- A candidate without signals gets one from its own retriever, score and reasons. -/
def ensureRetrievalSignals (candidate : CandidateItem) : CandidateItem :=
  if candidate.retrievalSignals.isEmpty then
    { candidate with
      retrievalSignals := [{
        retriever := candidate.retriever
        retrieveScore := candidate.retrieveScore
        reasons := candidate.reasons }] }
  else candidate

/-- The retriever, the score and the reasons of a candidate, derived from its signals. -/
def rebuildLegacyCandidateFields (candidate : CandidateItem) : CandidateItem :=
  let names := candidate.retrievalSignals.map (·.retriever)
  { candidate with
    retriever := joinRetrieverNames (names.filter (· ≠ "")).eraseDups
    retrieveScore := (candidate.retrievalSignals.map (·.retrieveScore)).sum
    reasons := candidate.retrievalSignals.flatMap (·.reasons) }

/-- A candidate with signals, and the other fields derived from them. -/
def normalizeCandidate (candidate : CandidateItem) : CandidateItem :=
  rebuildLegacyCandidateFields (ensureRetrievalSignals candidate)

/-- A signal is added to the first signal of its retriever, or at the end. -/
def mergeRetrievalSignal (source : RetrievalSignal) : List RetrievalSignal → List RetrievalSignal
  | [] => [source]
  | target :: rest =>
    if target.retriever ≠ source.retriever then target :: mergeRetrievalSignal source rest
    else
      { target with
        retrieveScore := target.retrieveScore + source.retrieveScore
        reasons := target.reasons ++ source.reasons } :: rest

/-- The signals of a candidate merged into another one, which keeps its type and author unless
they are unknown. -/
def mergeCandidate (source target : CandidateItem) : CandidateItem :=
  let source := normalizeCandidate source
  rebuildLegacyCandidateFields
    { target with
      itemType :=
        if target.itemType = .unspecified ∧ source.itemType ≠ .unspecified then source.itemType
        else target.itemType
      authorId :=
        if target.authorId = 0 ∧ source.authorId ≠ 0 then source.authorId else target.authorId
      retrievalSignals :=
        source.retrievalSignals.foldl (fun signals signal => mergeRetrievalSignal signal signals)
          target.retrievalSignals }

/-- An occurrence of an item: the first is normalized, a later one is merged into it. -/
def addOccurrence (candidate : CandidateItem) : Option CandidateItem → CandidateItem
  | none => normalizeCandidate candidate
  | some target => mergeCandidate candidate target

/-! ### What is conserved -/

/-- The score an occurrence brings: that of its signals, or its own when it has none. -/
def occurrenceScore (candidate : CandidateItem) : ℚ :=
  if candidate.retrievalSignals = [] then candidate.retrieveScore
  else (candidate.retrievalSignals.map (·.retrieveScore)).sum

/-- The reasons an occurrence brings: those of its signals, or its own when it has none. -/
def occurrenceReasons (candidate : CandidateItem) : List RetrievalReason :=
  if candidate.retrievalSignals = [] then candidate.reasons
  else candidate.retrievalSignals.flatMap (·.reasons)

theorem sum_ensureRetrievalSignals (candidate : CandidateItem) :
  ((ensureRetrievalSignals candidate).retrievalSignals.map (·.retrieveScore)).sum
    = occurrenceScore candidate
  := by
  cases h : candidate.retrievalSignals <;> simp [ensureRetrievalSignals, occurrenceScore, h]

theorem flatMap_ensureRetrievalSignals (candidate : CandidateItem) :
  (ensureRetrievalSignals candidate).retrievalSignals.flatMap (·.reasons)
    = occurrenceReasons candidate
  := by
  cases h : candidate.retrievalSignals <;> simp [ensureRetrievalSignals, occurrenceReasons, h]

@[simp]
theorem itemId_normalizeCandidate (candidate : CandidateItem) :
  (normalizeCandidate candidate).itemId = candidate.itemId
  := by
  rw [normalizeCandidate, rebuildLegacyCandidateFields, ensureRetrievalSignals]
  split <;> rfl

@[simp]
theorem itemId_mergeCandidate (source target : CandidateItem) :
  (mergeCandidate source target).itemId = target.itemId
  := rfl

@[simp]
theorem retrievalSignals_normalizeCandidate (candidate : CandidateItem) :
  (normalizeCandidate candidate).retrievalSignals
    = (ensureRetrievalSignals candidate).retrievalSignals
  := rfl

/-- Merging a signal adds its score. -/
theorem sum_mergeRetrievalSignal (source : RetrievalSignal) (signals : List RetrievalSignal) :
  ((mergeRetrievalSignal source signals).map (·.retrieveScore)).sum
    = (signals.map (·.retrieveScore)).sum + source.retrieveScore
  := by
  induction signals with
  | nil => simp [mergeRetrievalSignal]
  | cons target rest ih =>
      rw [mergeRetrievalSignal]
      split
      · rw [List.map_cons, List.sum_cons, ih, List.map_cons, List.sum_cons, add_assoc]
      · simp only [List.map_cons, List.sum_cons]
        apply add_right_comm

/-- Merging a signal adds its reasons. -/
theorem flatMap_mergeRetrievalSignal (source : RetrievalSignal)
    (signals : List RetrievalSignal) :
  ((mergeRetrievalSignal source signals).flatMap (·.reasons)).Perm
    (signals.flatMap (·.reasons) ++ source.reasons)
  := by
  induction signals with
  | nil => simp [mergeRetrievalSignal]
  | cons target rest ih =>
      rw [mergeRetrievalSignal]
      split
      · rw [List.flatMap_cons, List.flatMap_cons, List.append_assoc]
        exact ih.append_left _
      · simp only [List.flatMap_cons, List.append_assoc]
        exact List.perm_append_comm.append_left _

/-- Merging signals adds their scores. -/
theorem sum_foldl_mergeRetrievalSignal (sources signals : List RetrievalSignal) :
  ((sources.foldl (fun signals signal => mergeRetrievalSignal signal signals) signals).map
      (·.retrieveScore)).sum
    = (signals.map (·.retrieveScore)).sum + (sources.map (·.retrieveScore)).sum
  := by
  induction sources generalizing signals with
  | nil => simp
  | cons source sources ih =>
      rw [List.foldl_cons, ih, sum_mergeRetrievalSignal, List.map_cons, List.sum_cons, add_assoc]

/-- Merging signals adds their reasons. -/
theorem flatMap_foldl_mergeRetrievalSignal (sources signals : List RetrievalSignal) :
  ((sources.foldl (fun signals signal => mergeRetrievalSignal signal signals) signals).flatMap
      (·.reasons)).Perm
    (signals.flatMap (·.reasons) ++ sources.flatMap (·.reasons))
  := by
  induction sources generalizing signals with
  | nil => simp
  | cons source sources ih =>
      rw [List.foldl_cons, List.flatMap_cons, ← List.append_assoc]
      exact (ih _).trans ((flatMap_mergeRetrievalSignal source signals).append_right _)

/-- The derived fields of a candidate are those of its signals. -/
structure Rebuilt (candidate : CandidateItem) : Prop where
  retrieveScore : candidate.retrieveScore
    = (candidate.retrievalSignals.map (·.retrieveScore)).sum
  reasons : candidate.reasons = candidate.retrievalSignals.flatMap (·.reasons)

theorem rebuilt_addOccurrence (candidate : CandidateItem) (o : Option CandidateItem) :
  Rebuilt (addOccurrence candidate o)
  := by
  cases o <;> exact ⟨rfl, rfl⟩

/-- The occurrences of an item merge into a candidate of that item, with the scores and the
reasons of all of them. -/
theorem accumulate_addOccurrence {occurrences : List CandidateItem} {candidate : CandidateItem}
    (h : Keyed.accumulate addOccurrence occurrences = some candidate) :
  Rebuilt candidate
    ∧ (∀ id, (∀ x ∈ occurrences, x.itemId = id) → candidate.itemId = id)
    ∧ candidate.retrieveScore = (occurrences.map occurrenceScore).sum
    ∧ candidate.reasons.Perm (occurrences.flatMap occurrenceReasons)
  := by
  induction occurrences using List.reverseRecOn generalizing candidate with
  | nil => cases h
  | append_singleton occurrences x ih =>
      rw [Keyed.accumulate_concat] at h
      obtain rfl := Option.some.inj h
      use rebuilt_addOccurrence x _
      cases hprev : Keyed.accumulate addOccurrence occurrences with
      | none =>
          obtain rfl := Keyed.accumulate_eq_none.mp hprev
          refine ⟨fun id hid => ?_, ?_, ?_⟩
          · rw [addOccurrence, itemId_normalizeCandidate]
            exact hid x (by simp)
          · rw [(rebuilt_addOccurrence x none).retrieveScore, addOccurrence,
              retrievalSignals_normalizeCandidate, sum_ensureRetrievalSignals]
            simp
          · rw [(rebuilt_addOccurrence x none).reasons, addOccurrence,
              retrievalSignals_normalizeCandidate, flatMap_ensureRetrievalSignals]
            simp
      | some target =>
          obtain ⟨hrebuilt, hid, hscore, hreasons⟩ := ih hprev
          refine ⟨fun id hall => ?_, ?_, ?_⟩
          · exact hid id (fun y hy => hall y (List.mem_append_left _ hy))
          · rw [(rebuilt_addOccurrence x _).retrieveScore, addOccurrence, mergeCandidate,
              rebuildLegacyCandidateFields, sum_foldl_mergeRetrievalSignal,
              ← hrebuilt.retrieveScore, hscore, retrievalSignals_normalizeCandidate,
              sum_ensureRetrievalSignals]
            simp
          · rw [(rebuilt_addOccurrence x _).reasons, addOccurrence, mergeCandidate,
              rebuildLegacyCandidateFields]
            apply (flatMap_foldl_mergeRetrievalSignal _ _).trans
            rw [← hrebuilt.reasons, retrievalSignals_normalizeCandidate,
              flatMap_ensureRetrievalSignals, List.flatMap_append]
            simpa using hreasons.append_right (occurrenceReasons x)

/-- The candidates merged by item: each is of its item and is merged from the occurrences of
that item. -/
theorem of_mem_collect_addOccurrence {occurrences : List CandidateItem}
    {p : ℕ × CandidateItem}
    (h : p ∈ Keyed.collect CandidateItem.itemId addOccurrence occurrences) :
  p.1 = p.2.itemId
    ∧ Keyed.accumulate addOccurrence (occurrences.filter (·.itemId = p.2.itemId)) = some p.2
  := by
  have hacc := Keyed.accumulate_of_mem_collect h
  have hid : p.1 = p.2.itemId := by
    symm
    apply (accumulate_addOccurrence hacc).2.1
    intro x hx
    simpa using (List.mem_filter.mp hx).2
  exact ⟨hid, hid ▸ hacc⟩

end RecommendationEngine
