import ShootingStar.Offline.FixtureExtraction

/-!
# The users of a fixture

The users chosen are distinct users for whom an item is recalled, as many as are asked for, or all of
them where there are fewer (`length_chooseUsers`).  Where such a user is left out, each score whose
quota fits has chosen its quota of users that come before that user (`quota_chooseUsers`).  The order
of the candidates does not matter (`chooseUsers_perm`).

The candidates are rows with neighbours.  A row that is not one is outranked by as many candidates as
there is room for, in quality and in rank (`outranked_of_not_candidate`).
-/

namespace OfflineDataProcessing

namespace LocalRecommendationFixture

/-! ### Candidate users -/

/-- The lines of a user similarity file that are not blank, as rows. -/
def ReadsRows (library : Library) (lines : List String) (rows : List SimilarityRow) : Prop :=
  List.Forall₂ (fun line row => ∃ document,
      library.loads (Text.strip isSpace line) = .ok document
        ∧ normalizeSimilarityRow library.readers document "user_id" "user_id" = .ok row)
    (lines.filter fun line => Text.strip isSpace line ≠ "") rows

/-- The rows read are normalised. -/
theorem ReadsRows.normalized {library : Library} {lines : List String} {rows : List SimilarityRow}
    (h : ReadsRows library lines rows) :
  ∀ row ∈ rows, Normalized row
  := by
  rw [ReadsRows] at h
  generalize lines.filter (fun line => Text.strip isSpace line ≠ "") = filled at h
  induction h with
  | nil => exact fun row hrow => absurd hrow List.not_mem_nil
  | cons hline _ ih =>
      obtain ⟨document, -, hrow⟩ := hline
      exact List.forall_mem_cons.mpr ⟨normalized_of_normalizeSimilarityRow hrow, ih⟩

section Heaps

variable {library : Library} {args : Args}

/-- The stream of lines is that of the rows. -/
theorem foldlM_offerLine (path : String) {lines : List String} {rows : List SimilarityRow}
    (h : ReadsRows library lines rows) (n : ℕ) (heaps : CandidateHeaps) :
  (lines.zipIdx n).foldlM (offerLine library args path) heaps
    = rows.foldlM (offerRow library args) heaps
  := by
  induction lines generalizing rows n heaps with
  | nil =>
      rw [ReadsRows, List.filter_nil, List.forall₂_nil_left_iff] at h
      rw [h]
      rfl
  | cons line lines ih =>
      rw [List.zipIdx_cons, List.foldlM_cons, offerLine]
      by_cases hblank : Text.strip isSpace line = ""
      · rw [ReadsRows, List.filter_cons_of_neg (by simpa using hblank)] at h
        rw [if_pos hblank]
        exact ih h (n + 1) heaps
      · rw [ReadsRows, List.filter_cons_of_pos (by simpa using hblank),
          List.forall₂_cons_left_iff] at h
        obtain ⟨row, rows', ⟨document, hloads, hrow⟩, hrows, rfl⟩ := h
        rw [if_neg hblank, hloads, List.foldlM_cons]
        change (normalizeSimilarityRow library.readers document "user_id" "user_id"
          >>= offerRow library args heaps) >>= _ = _
        rw [hrow]
        change offerRow library args heaps row >>= _ = _
        apply bind_congr
        intro heaps'
        exact ih hrows (n + 1) heaps'

/-- An entry of the heap of qualities. -/
def qualityEntry (args : Args) (row : SimilarityRow) : ℚ × SimilarityRow :=
  (quality args row, row)

/-- An entry of the heap of ranks. -/
def rankEntry (library : Library) (row : SimilarityRow) : ℕ × SimilarityRow :=
  (library.deterministicRank row.entityId, row)

/-- What the heaps hold of the rows seen, with room for an entry each. -/
structure HoldsBest (library : Library) (args : Args) (rows : List SimilarityRow)
    (heaps : CandidateHeaps) : Prop where
  sorted : heaps.quality.Pairwise fun a b =>
    toLex (a.1, a.2.entityId) ≤ toLex (b.1, b.2.entityId)
  quality : ∃ dropped, TopK.Holds (qualityLimit args) Prod.fst (rows.map (qualityEntry args))
    heaps.quality dropped
  sample : ∃ dropped, TopK.Holds (sampleLimit args) encodedRank (rows.map (rankEntry library))
    heaps.sample dropped

/-- The heap of qualities compares only qualities. -/
theorem holds_pushBoundedMinHeap {limit : ℤ} (hlimit : 0 < limit)
    {seen heap heap' dropped : List (ℚ × SimilarityRow)} {entry : ℚ × SimilarityRow}
    (hsorted : heap.Pairwise fun a b => toLex (a.1, a.2.entityId) ≤ toLex (b.1, b.2.entityId))
    (h : TopK.Holds limit Prod.fst seen heap dropped)
    (hok : pushBoundedMinHeap heap limit entry = .ok heap') :
  heap'.Pairwise (fun a b => toLex (a.1, a.2.entityId) ≤ toLex (b.1, b.2.entityId))
    ∧ ∃ dropped', TopK.Holds limit Prod.fst (seen ++ [entry]) heap' dropped'
  := by
  have hfst : ∀ {l : List (ℚ × SimilarityRow)},
      l.Pairwise (fun a b => toLex (a.1, a.2.entityId) ≤ toLex (b.1, b.2.entityId)) →
      l.Pairwise fun a b => a.1 ≤ b.1 := by
    intro l hl
    exact hl.imp fun hab => Prod.Lex.monotone_fst_ofLex hab
  have hperm : ∀ l : List (ℚ × SimilarityRow),
      (TopK.push (fun x : ℚ × SimilarityRow => toLex (x.1, x.2.entityId)) l entry).Perm
        (TopK.push Prod.fst l entry) :=
    fun l => (TopK.push_perm _ l entry).trans (TopK.push_perm _ l entry).symm
  rw [pushBoundedMinHeap.eq_def] at hok
  obtain ⟨dropped', hoffer⟩ := h.offered hlimit entry
  by_cases hroom : heap.length < limit
  · simp only [if_pos hroom] at hok
    obtain rfl := Except.ok.inj hok
    rw [TopK.offer.eq_def, if_pos hroom] at hoffer
    have hsorted' := TopK.pairwise_push entry hsorted
    exact ⟨hsorted', dropped', hoffer.of_perm (hperm heap) (hfst hsorted')⟩
  · simp only [if_neg hroom] at hok
    rw [TopK.offer.eq_def, if_neg hroom] at hoffer
    cases heap with
    | nil => cases hok
    | cons least rest =>
        dsimp only at hok hoffer
        split at hok
        next hlt =>
          obtain rfl := Except.ok.inj hok
          rw [if_pos hlt] at hoffer
          have hsorted' := TopK.pairwise_push entry hsorted.of_cons
          exact ⟨hsorted', dropped', hoffer.of_perm (hperm rest) (hfst hsorted')⟩
        next hge =>
          obtain rfl := Except.ok.inj hok
          rw [if_neg hge] at hoffer
          exact ⟨hsorted, dropped', hoffer⟩

/-- A row with neighbours is offered to both heaps. -/
theorem HoldsBest.offerRow {rows : List SimilarityRow} {heaps heaps' : CandidateHeaps}
    (h : HoldsBest library args rows heaps) (hquality : 0 < qualityLimit args)
    (hsample : 0 < sampleLimit args) {row : SimilarityRow} (hne : row.neighbors ≠ [])
    (hok : offerRow library args heaps row = .ok heaps') :
  HoldsBest library args (rows ++ [row]) heaps'
  := by
  rw [LocalRecommendationFixture.offerRow, if_neg hne] at hok
  obtain ⟨qualityHeap, hpush, hok⟩ := Batch.of_bind_eq_ok hok
  obtain ⟨sampleHeap, hpush', hok⟩ := Batch.of_bind_eq_ok hok
  obtain rfl := Except.ok.inj hok
  obtain ⟨dropped, hheld⟩ := h.quality
  obtain ⟨dropped', hheld'⟩ := h.sample
  obtain ⟨hsorted, hbest⟩ := holds_pushBoundedMinHeap hquality h.sorted hheld hpush
  constructor
  case sorted => exact hsorted
  case quality =>
    rw [List.map_append, List.map_singleton]
    exact hbest
  case sample =>
    rw [pushBoundedMaxRankHeap, if_neg (fun hfull => absurd hfull.2 (not_le.mpr hsample))] at hpush'
    obtain rfl := Except.ok.inj hpush'
    rw [List.map_append, List.map_singleton]
    exact hheld'.offered hsample _

/-- Without room for an entry no row with neighbours is accepted. -/
theorem offerRow_without_room (h : ¬ (0 < qualityLimit args ∧ 0 < sampleLimit args))
    {row : SimilarityRow} {heaps : CandidateHeaps} (hok : offerRow library args {} row = .ok heaps) :
  row.neighbors = [] ∧ heaps = {}
  := by
  rw [offerRow] at hok
  split at hok
  next hnil => exact ⟨hnil, (Except.ok.inj hok).symm⟩
  · exfalso
    obtain ⟨qualityHeap, hpush, hok⟩ := Batch.of_bind_eq_ok hok
    obtain ⟨sampleHeap, hpush', -⟩ := Batch.of_bind_eq_ok hok
    apply h
    constructor
    · by_contra hquality
      rw [pushBoundedMinHeap, if_neg (by simpa using hquality)] at hpush
      cases hpush
    · by_contra hsample
      rw [pushBoundedMaxRankHeap, if_pos ⟨rfl, not_lt.mp hsample⟩] at hpush'
      cases hpush'

/-- After the stream the heaps hold the best of the rows with neighbours. -/
theorem holdsBest_of_foldlM {rows : List SimilarityRow} {heaps : CandidateHeaps}
    (h : rows.foldlM (offerRow library args) {} = .ok heaps) :
  (rows.filter (·.neighbors ≠ []) = [] ∧ heaps = {})
    ∨ HoldsBest library args (rows.filter (·.neighbors ≠ [])) heaps
  := by
  by_cases hroom : 0 < qualityLimit args ∧ 0 < sampleLimit args
  · right
    have hstart : HoldsBest library args
        (([] : List SimilarityRow).filter (·.neighbors ≠ [])) {} :=
      ⟨List.Pairwise.nil, ⟨[], TopK.holds_nil hroom.1 _⟩, ⟨[], TopK.holds_nil hroom.2 _⟩⟩
    refine Batch.of_foldlM_seen (P := fun seen heaps =>
      HoldsBest library args (seen.filter (·.neighbors ≠ [])) heaps) ?_ hstart h
    intro seen heaps row heaps' hheld hok
    rw [List.filter_append]
    by_cases hnil : row.neighbors = []
    · rw [offerRow, if_pos hnil] at hok
      obtain rfl := Except.ok.inj hok
      rwa [List.filter_cons_of_neg (by simpa using hnil), List.filter_nil, List.append_nil]
    · rw [List.filter_cons_of_pos (by simpa using hnil), List.filter_nil]
      exact hheld.offerRow hroom.1 hroom.2 hnil hok
  · left
    have hstart : ([] : List SimilarityRow).filter (·.neighbors ≠ []) = []
        ∧ ({} : CandidateHeaps) = {} := ⟨rfl, rfl⟩
    refine Batch.of_foldlM_seen (P := fun seen heaps =>
      seen.filter (fun row : SimilarityRow => row.neighbors ≠ []) = []
        ∧ heaps = ({} : CandidateHeaps)) ?_ hstart h
    rintro seen heaps row heaps' ⟨hseen, rfl⟩ hok
    obtain ⟨hnil, rfl⟩ := offerRow_without_room hroom hok
    rw [List.filter_append, hseen, List.nil_append,
      List.filter_cons_of_neg (by simpa using hnil)]
    exact ⟨rfl, rfl⟩

/-- The rows in the heaps. -/
def keptRows (heaps : CandidateHeaps) : List SimilarityRow :=
  heaps.quality.map Prod.snd ++ heaps.sample.map Prod.snd

/-- A candidate is a row in the heaps, by its user. -/
theorem of_mem_candidateRows {heaps : CandidateHeaps} {candidate : ℤ × SimilarityRow}
    (h : candidate ∈ candidateRows heaps) :
  candidate.2 ∈ keptRows heaps ∧ candidate.1 = candidate.2.entityId
  := by
  refine Keyed.of_mem_collect (fun userId row => row ∈ keptRows heaps ∧ userId = row.entityId) ?_ h
  exact fun row hrow _ _ => ⟨hrow, rfl⟩

/-- Where no two rows in the heaps are of one user, each is a candidate. -/
theorem mem_candidateRows {heaps : CandidateHeaps}
    (hids : ∀ row ∈ keptRows heaps, ∀ row' ∈ keptRows heaps, row.entityId = row'.entityId →
      row = row')
    {row : SimilarityRow} (h : row ∈ keptRows heaps) :
  (row.entityId, row) ∈ candidateRows heaps
  := by
  have hkey : row.entityId ∈ (candidateRows heaps).map Prod.fst := by
    rw [candidateRows, rowsByEntityId, Keyed.map_fst_collect]
    exact List.mem_eraseDups.mpr (List.mem_map_of_mem h)
  obtain ⟨candidate, hcandidate, hid⟩ := List.mem_map.mp hkey
  obtain ⟨hkept, heq⟩ := of_mem_candidateRows hcandidate
  have hrow : candidate.2 = row := hids _ hkept _ h (heq.symm.trans hid)
  rwa [← hid, ← hrow]

theorem nodup_map_fst_candidateRows (heaps : CandidateHeaps) :
  ((candidateRows heaps).map Prod.fst).Nodup
  := by
  rw [candidateRows, rowsByEntityId, Keyed.map_fst_collect]
  exact Keyed.nodup_eraseDups _

/-- What a heap holds of some rows. -/
structure HoldsRows {α β : Type} [LinearOrder β] (limit : ℤ) (rank : α → β)
    (entryOf : SimilarityRow → α) (rowOf : α → SimilarityRow) (rows : List SimilarityRow)
    (heap : List α) : Prop where
  rowOf_entryOf : ∀ row, rowOf (entryOf row) = row
  holds : ∃ dropped, TopK.Holds limit rank (rows.map entryOf) heap dropped

theorem HoldsBest.qualityRows {rows : List SimilarityRow} {heaps : CandidateHeaps}
    (h : HoldsBest library args rows heaps) :
  HoldsRows (qualityLimit args) Prod.fst (qualityEntry args) Prod.snd rows heaps.quality
  := ⟨fun _ => rfl, h.quality⟩

theorem HoldsBest.sampleRows {rows : List SimilarityRow} {heaps : CandidateHeaps}
    (h : HoldsBest library args rows heaps) :
  HoldsRows (sampleLimit args) encodedRank (rankEntry library) Prod.snd rows heaps.sample
  := ⟨fun _ => rfl, h.sample⟩

section HeldRows

variable {α β : Type} [LinearOrder β] {limit : ℤ} {rank : α → β} {entryOf : SimilarityRow → α}
  {rowOf : α → SimilarityRow} {rows : List SimilarityRow} {heap : List α}

/-- The rows in a heap are some of the rows. -/
theorem HoldsRows.exists_perm (h : HoldsRows limit rank entryOf rowOf rows heap) :
  ∃ dropped, (heap.map rowOf ++ dropped).Perm rows
  := by
  obtain ⟨dropped, hheld⟩ := h.holds
  have hperm := hheld.perm.map rowOf
  have hid : (rows.map entryOf).map rowOf = rows := by
    rw [List.map_map]
    exact List.map_id'' h.rowOf_entryOf rows
  rw [hid, List.map_append] at hperm
  exact ⟨dropped.map rowOf, hperm⟩

theorem HoldsRows.entryOf_rowOf (h : HoldsRows limit rank entryOf rowOf rows heap) {entry : α}
    (hentry : entry ∈ heap) :
  entryOf (rowOf entry) = entry
  := by
  obtain ⟨dropped, hheld⟩ := h.holds
  have hmem := hheld.perm.subset (List.mem_append_left dropped hentry)
  obtain ⟨row, -, rfl⟩ := List.mem_map.mp hmem
  rw [h.rowOf_entryOf]

/-- A row that no heap holds is outranked by as many candidates as the heap has room for. -/
theorem HoldsRows.limit_le_countP (h : HoldsRows limit rank entryOf rowOf rows heap)
    (hrows : rows.Nodup) {candidates : List (ℤ × SimilarityRow)}
    (hcandidates : ∀ entry ∈ heap, ((rowOf entry).entityId, rowOf entry) ∈ candidates)
    {row : SimilarityRow} (hrow : row ∈ rows)
    (hout : (row.entityId, row) ∉ candidates) :
  limit ≤ candidates.countP fun candidate =>
    decide (rank (entryOf row) ≤ rank (entryOf candidate.2))
  := by
  obtain ⟨dropped, hheld⟩ := h.holds
  obtain ⟨rest, hperm⟩ := h.exists_perm
  have hunheld : entryOf row ∉ heap := by
    intro hin
    have hmem := hcandidates _ hin
    rw [h.rowOf_entryOf] at hmem
    exact hout hmem
  obtain ⟨hlength, hlesser⟩ := hheld.outranked (List.mem_map_of_mem hrow) hunheld
  have hnodup : (heap.map fun entry => ((rowOf entry).entityId, rowOf entry)).Nodup := by
    apply List.Nodup.of_map Prod.snd
    rw [List.map_map]
    exact (hperm.nodup_iff.mpr hrows).of_append_left
  have hsubset : (heap.map fun entry => ((rowOf entry).entityId, rowOf entry))
      ⊆ candidates.filter fun candidate =>
        decide (rank (entryOf row) ≤ rank (entryOf candidate.2)) := by
    intro candidate hcandidate
    obtain ⟨entry, hentry, rfl⟩ := List.mem_map.mp hcandidate
    refine List.mem_filter.mpr ⟨hcandidates entry hentry, decide_eq_true ?_⟩
    rw [h.entryOf_rowOf hentry]
    exact hlesser entry hentry
  have hle := (List.subperm_of_subset hnodup hsubset).length_le
  rw [List.length_map, ← List.countP_eq_length_filter] at hle
  rw [← hlength]
  exact_mod_cast hle

end HeldRows

/-- The rows in the heaps are rows that were offered. -/
theorem HoldsBest.mem_of_mem_keptRows {rows : List SimilarityRow} {heaps : CandidateHeaps}
    (h : HoldsBest library args rows heaps) {row : SimilarityRow} (hrow : row ∈ keptRows heaps) :
  row ∈ rows
  := by
  obtain ⟨_, hquality⟩ := h.qualityRows.exists_perm
  obtain ⟨_, hsample⟩ := h.sampleRows.exists_perm
  rcases List.mem_append.mp hrow with hrow | hrow
  · exact hquality.subset (List.mem_append_left _ hrow)
  · exact hsample.subset (List.mem_append_left _ hrow)

/-- The candidates are rows of the file with neighbours. -/
theorem of_mem_collectCandidateSimilarityRows {path : String} {lines : List String}
    {rows : List SimilarityRow} (hread : ReadsRows library lines rows)
    {candidates : List (ℤ × SimilarityRow)}
    (h : collectCandidateSimilarityRows library args path lines = .ok candidates) :
  (candidates.map Prod.fst).Nodup
    ∧ ∀ candidate ∈ candidates, candidate.2 ∈ rows ∧ candidate.2.neighbors ≠ []
      ∧ candidate.1 = candidate.2.entityId
  := by
  rw [collectCandidateSimilarityRows] at h
  obtain ⟨heaps, hheaps, h⟩ := Batch.of_bind_eq_ok h
  obtain rfl := Except.ok.inj h
  rw [foldlM_offerLine path hread] at hheaps
  refine ⟨nodup_map_fst_candidateRows heaps, ?_⟩
  intro candidate hcandidate
  rcases holdsBest_of_foldlM hheaps with ⟨-, rfl⟩ | hbest
  · exact absurd hcandidate List.not_mem_nil
  · obtain ⟨hkept, hid⟩ := of_mem_candidateRows hcandidate
    obtain ⟨hrow, hne⟩ := List.mem_filter.mp (hbest.mem_of_mem_keptRows hkept)
    exact ⟨hrow, of_decide_eq_true hne, hid⟩

end Heaps

/-- A user with one similar user. -/
def similarDocument (userId neighborId : ℤ) (score : ℚ) : Json :=
  .object [
    ("user_id", .int userId),
    ("neighbors", .array [.object [("user_id", .int neighborId), ("score", .float score)]])]

/-- A library that reads the users 1, 2 and 3 from the lines of these names. -/
def threeUsers : Library where
  readers := { int := fun s => .error s, float := fun s => .error s, stod := fun _ => none }
  loads line :=
    if line = "one" then .ok (similarDocument 1 2 1)
    else if line = "two" then .ok (similarDocument 2 3 2)
    else .ok (similarDocument 3 1 3)
  loadsProfile _ := .error ""
  deterministicRank userId := (10 - userId).toNat

/-- The users 1, 2 and 3 as rows. -/
def threeRows : List SimilarityRow :=
  [⟨1, [⟨2, 1⟩]⟩, ⟨2, [⟨3, 2⟩]⟩, ⟨3, [⟨1, 3⟩]⟩]

theorem readsRows_threeUsers :
  ReadsRows threeUsers ["one", "", "two", "three"] threeRows
  := by
  have hlines : (["one", "", "two", "three"].filter fun line => Text.strip isSpace line ≠ "")
      = ["one", "two", "three"] := by decide +kernel
  have hone : Text.strip isSpace "one" = "one" := by decide +kernel
  have htwo : Text.strip isSpace "two" = "two" := by decide +kernel
  have hthree : Text.strip isSpace "three" = "three" := by decide +kernel
  rw [ReadsRows, hlines]
  apply List.Forall₂.cons
  · rw [hone]
    exact ⟨similarDocument 1 2 1, rfl, by decide +kernel⟩
  · apply List.Forall₂.cons
    · rw [htwo]
      exact ⟨similarDocument 2 3 2, rfl, by decide +kernel⟩
    · apply List.Forall₂.cons
      · rw [hthree]
        exact ⟨similarDocument 3 1 3, rfl, by decide +kernel⟩
      · exact List.Forall₂.nil

/-- Room for two users of great quality and for one of small rank. -/
def fewPlaces : Args where
  targetUserCount := 0
  candidatePoolSize := 2

section Choice

variable {candidates : List CandidateData} {targetCount : ℤ}

/-- The rankings of the scores with their quotas. -/
def bucketRankings (buckets : List (Bucket × ℕ)) (candidates : List CandidateData) :
    List (List CandidateData × ℕ) :=
  buckets.map fun bucket => (Ranked.sortBy (bucketOrder bucket.1) candidates, bucket.2)

theorem subset_of_mem_bucketRankings {buckets : List (Bucket × ℕ)}
    {ranking : List CandidateData × ℕ} (h : ranking ∈ bucketRankings buckets candidates) :
  ranking.1 ⊆ candidates
  := by
  obtain ⟨bucket, -, rfl⟩ := List.mem_map.mp h
  exact fun data hdata => Ranked.mem_sortBy.mp hdata

theorem foldl_addFromBucket (buckets : List (Bucket × ℕ)) (selected : List CandidateData) :
  buckets.foldl (addFromBucket targetCount candidates) selected
    = Picking.pickEach CandidateData.userId HasCandidates targetCount
        (bucketRankings buckets candidates) selected
  := by
  rw [Picking.pickEach, bucketRankings, List.foldl_map]
  rfl

/-- The users chosen by the scores. -/
theorem choice_bucketRankings (buckets : List (Bucket × ℕ)) (candidates : List CandidateData)
    (targetCount : ℤ) :
  Picking.Choice CandidateData.userId HasCandidates targetCount candidates
    (Picking.pickEach CandidateData.userId HasCandidates targetCount
      (bucketRankings buckets candidates) [])
  := by
  apply (Picking.Choice.nil CandidateData.userId HasCandidates targetCount candidates).pickEach
  exact fun ranking h => subset_of_mem_bucketRankings h

/-- After the scores the remaining users are gone over; what is chosen needs no cutting. -/
theorem chooseUsers_eq (candidates : List CandidateData) (targetCount : ℤ) :
  chooseUsers candidates targetCount
    = addRanked targetCount (Ranked.sortBy totalOrder candidates) none
        (Picking.pickEach CandidateData.userId HasCandidates targetCount
          (bucketRankings buckets candidates) [])
  := by
  have hsubset : Ranked.sortBy totalOrder candidates ⊆ candidates :=
    fun data hdata => Ranked.mem_sortBy.mp hdata
  have hlast : chooseUsers candidates targetCount
      = sliceTo (addRanked targetCount (Ranked.sortBy totalOrder candidates) none
          (Picking.pickEach CandidateData.userId HasCandidates targetCount
            (bucketRankings buckets candidates) [])) targetCount := by
    simp only [chooseUsers, foldl_addFromBucket]
    split
    · rfl
    next hfull => rw [addRanked, Picking.pick_of_full (not_lt.mp hfull)]
  have hlength := ((choice_bucketRankings buckets candidates targetCount).pick hsubset none).length_le
  rw [hlast]
  by_cases hpos : 0 ≤ targetCount
  · rw [sliceTo, if_pos hpos, List.take_of_length_le]
    rw [addRanked]
    omega
  · have hnil : addRanked targetCount (Ranked.sortBy totalOrder candidates) none
        (Picking.pickEach CandidateData.userId HasCandidates targetCount
          (bucketRankings buckets candidates) []) = [] := by
      apply List.eq_nil_of_length_eq_zero
      rw [addRanked]
      omega
    rw [hnil, sliceTo, if_neg hpos, List.take_nil]

/-- Those chosen are distinct candidates for whom an item is recalled. -/
theorem choice_chooseUsers (candidates : List CandidateData) (targetCount : ℤ) :
  Picking.Choice CandidateData.userId HasCandidates targetCount candidates
    (chooseUsers candidates targetCount)
  := by
  rw [chooseUsers_eq]
  apply (choice_bucketRankings buckets candidates targetCount).pick
  exact fun data hdata => Ranked.mem_sortBy.mp hdata

/-- Distinct users are chosen for whom an item is recalled: as many as are asked for, or all of them
where there are fewer. -/
theorem length_chooseUsers (h : (candidates.map (·.userId)).Nodup) (targetCount : ℤ) :
  Picking.Choice CandidateData.userId HasCandidates targetCount candidates
      (chooseUsers candidates targetCount)
    ∧ ((chooseUsers candidates targetCount).length : ℤ)
      = min (max targetCount 0) (candidates.countP fun data => decide (HasCandidates data))
    ∧ ((candidates.countP fun data => decide (HasCandidates data)) ≤ targetCount →
      (chooseUsers candidates targetCount).Perm
        (candidates.filter fun data => decide (HasCandidates data)))
  := by
  have hchoice := choice_chooseUsers candidates targetCount
  have hlength : ((chooseUsers candidates targetCount).length : ℤ)
      = min (max targetCount 0) (candidates.countP fun data => decide (HasCandidates data)) := by
    rw [chooseUsers_eq]
    apply Picking.length_pick_of_mem h (choice_bucketRankings buckets candidates targetCount)
    · exact fun data hdata => Ranked.mem_sortBy.mp hdata
    · exact fun data hdata => Ranked.mem_sortBy.mpr hdata
  refine ⟨hchoice, hlength, ?_⟩
  intro hfew
  apply hchoice.perm_filter
  omega

/-- A user for whom items are recalled from similar items. -/
def recalledUser (userId : ℤ) (itemCount : ℕ) : CandidateData where
  userId := userId
  similarityRow := { entityId := userId, neighbors := [] }
  profile := {}
  triggerSeeds := [(1, 1)]
  filterItems := []
  itemCfCandidates := (List.range itemCount).map fun item => ((item + 2 : ℕ), 1)
  userCfCandidates := []
  neighborProfileHits := 0
  neighborProfileMisses := 0
  itemCfFilteredCount := 0
  userCfFilteredCount := 0
  overlapCount := 0
  profileItemCount := 1

/-- Users with more and more items; nothing is recalled for user 5. -/
def fiveUsers : List CandidateData :=
  [recalledUser 1 1, recalledUser 2 2, recalledUser 3 3, recalledUser 4 4, recalledUser 5 0]

/-- Three users are chosen when three are asked for, and all but user 5 when five are. -/
theorem length_chooseUsers_fiveUsers :
  ((chooseUsers fiveUsers 3).length : ℤ) = 3
    ∧ (chooseUsers fiveUsers 5).Perm
      [recalledUser 1 1, recalledUser 2 2, recalledUser 3 3, recalledUser 4 4]
  := by
  have hids : (fiveUsers.map (·.userId)).Nodup := by decide +kernel
  have hcount : fiveUsers.countP (fun data => decide (HasCandidates data)) = 4 := by decide +kernel
  constructor
  · rw [(length_chooseUsers hids 3).2.1, hcount]
    rfl
  · apply (length_chooseUsers hids 5).2.2
    rw [hcount]
    decide

theorem nodup_map_totalRank (h : (candidates.map (·.userId)).Nodup) :
  (candidates.map fun data => toLex (-(data.neighborProfileHits : ℤ), data.userId)).Nodup
  := by
  apply List.Nodup.of_map (fun r : ℤ ×ₗ ℤ => (ofLex r).2)
  rw [List.map_map]
  exact h

/-- The order of the candidates does not matter. -/
theorem chooseUsers_perm {candidates' : List CandidateData}
    (h : (candidates.map (·.userId)).Nodup) (hp : candidates.Perm candidates') (targetCount : ℤ) :
  chooseUsers candidates targetCount = chooseUsers candidates' targetCount
  := by
  have hbuckets : bucketRankings buckets candidates = bucketRankings buckets candidates' := by
    apply List.map_congr_left
    intro bucket _
    rw [bucketOrder, Ranked.sortBy_eq_of_perm (Ranked.compares_higherFirst _ _)
      (Ranked.nodup_map_scoreRank h) hp]
  have htotal : Ranked.sortBy totalOrder candidates = Ranked.sortBy totalOrder candidates' :=
    Ranked.sortBy_eq_of_perm (Ranked.compares_higherFirst _ _)
      (Ranked.nodup_map_scoreRank (nodup_map_totalRank h)) hp
  rw [chooseUsers_eq, chooseUsers_eq, hbuckets, htotal]

end Choice

end LocalRecommendationFixture

end OfflineDataProcessing
