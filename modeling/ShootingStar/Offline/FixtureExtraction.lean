import ShootingStar.Lib.Picking
import ShootingStar.Lib.TopK
import ShootingStar.Offline.LocalRecommendationFixture

/-!
# Choosing the users of a fixture

The tool streams the similar users of all users and keeps the rows of the best users and of a
sample of the others in two heaps.  It recalls items for the users it has kept, chooses some of them
by several scores, and writes the rows that these users need.

The loop that collects rows from a file ends as soon as it has a row of each identifier.  It then
has the rows that the whole file would give (`collectRows_eq`).
-/

namespace OfflineDataProcessing

namespace LocalRecommendationFixture

open RecommendationEngine (Profile)

/-- The options that the extraction reads. -/
structure Args where
  targetUserCount : ℤ := 10
  candidatePoolSize : ℤ := 2500
  maxUserNeighbors : ℤ := 10
  maxTriggerSeeds : ℤ := 24
  maxCandidates : ℤ := 20
  deriving DecidableEq, Repr

/-- What the tool uses: the readers of numbers, `json.loads` of a row and of a profile with the
message of the exception it throws, and the rank of a user by a hash. -/
structure Library where
  readers : NumberReaders
  loads : String → Except String Json
  loadsProfile : String → Except String Profile
  deterministicRank : ℤ → ℕ

/-! ### Lines -/

/-- The text after the first occurrence of a marker. -/
def textAfter (marker : List Char) : List Char → Option (List Char)
  | [] => if marker = [] then some [] else none
  | c :: cs =>
    if marker <+: c :: cs then some ((c :: cs).drop marker.length) else textAfter marker cs

/-- The zeros of the decimal digits of Unicode, each with the other nine after it. -/
def decimalZeros : List ℕ :=
  [0x30, 0x660, 0x6f0, 0x7c0, 0x966, 0x9e6, 0xa66, 0xae6, 0xb66, 0xbe6, 0xc66, 0xce6, 0xd66, 0xde6,
    0xe50, 0xed0, 0xf20, 0x1040, 0x1090, 0x17e0, 0x1810, 0x1946, 0x19d0, 0x1a80, 0x1a90, 0x1b50,
    0x1bb0, 0x1c40, 0x1c50, 0xa620, 0xa8d0, 0xa900, 0xa9d0, 0xa9f0, 0xaa50, 0xabf0, 0xff10, 0x104a0,
    0x10d30, 0x11066, 0x110f0, 0x11136, 0x111d0, 0x112f0, 0x11450, 0x114d0, 0x11650, 0x116c0,
    0x11730, 0x118e0, 0x11950, 0x11c50, 0x11d50, 0x11da0, 0x16a60, 0x16ac0, 0x16b50, 0x1d7ce,
    0x1d7d8, 0x1d7e2, 0x1d7ec, 0x1d7f6, 0x1e140, 0x1e2f0, 0x1e950, 0x1fbf0]

/-- The ranges of the other digits of Unicode, such as superscripts. -/
def otherDigits : List (ℕ × ℕ) :=
  [(0xb2, 0xb3), (0xb9, 0xb9), (0x1369, 0x1371), (0x19da, 0x19da), (0x2070, 0x2070),
    (0x2074, 0x2079), (0x2080, 0x2089), (0x2460, 0x2468), (0x2474, 0x247c), (0x2488, 0x2490),
    (0x24ea, 0x24ea), (0x24f5, 0x24fd), (0x24ff, 0x24ff), (0x2776, 0x277e), (0x2780, 0x2788),
    (0x278a, 0x2792), (0x10a40, 0x10a43), (0x10e60, 0x10e68), (0x11052, 0x1105a),
    (0x1f100, 0x1f10a)]

/-- The value of a decimal digit. -/
def decimalValue (c : Char) : Option ℕ :=
  (decimalZeros.find? fun z => z ≤ c.toNat ∧ c.toNat < z + 10).map (c.toNat - ·)

/-- `str.isdigit` of a character. -/
def isDigit (c : Char) : Bool :=
  (decimalValue c).isSome
    || otherDigits.any fun range => range.1 ≤ c.toNat ∧ c.toNat ≤ range.2

/-- `int` of digits, with the message of the exception it throws when one is not decimal. -/
def intOfDigits (digits : List Char) : Except String ℤ :=
  match digits.mapM decimalValue with
  | none => .error ("invalid literal for int() with base 10: '" ++ String.ofList digits ++ "'")
  | some values => .ok (values.foldl (fun n value => 10 * n + value) 0)

/-- The number at the start of a text. -/
def leadingInt (text : List Char) : Except String (Option ℤ) :=
  let number := text.dropWhile isSpace
  let negative := number.head? = some '-'
  let digits := (if negative then number.tail else number).takeWhile isDigit
  if digits = [] then .ok none
  else (intOfDigits digits).map fun value => some (if negative then -value else value)

/-- The number after the first name of a field in a line, wherever the field is. -/
def extractTopLevelInt (line fieldName : String) : Except String (Option ℤ) :=
  match textAfter ("\"" ++ fieldName ++ "\":").toList line.toList with
  | none => .ok none
  | some text => leadingInt text

/-- The loop that collects the rows of some identifiers; it ends when all have been found. -/
def collectRows {α : Type} (fieldName : String) (load : String → Except String α) (ids : List ℤ) :
    List String → List (ℤ × α) → Except String (List (ℤ × α))
  | [], rows => .ok rows
  | line :: lines, rows =>
    match extractTopLevelInt line fieldName with
    | .error message => .error message
    | .ok none => collectRows fieldName load ids lines rows
    | .ok (some id) =>
      if id ∉ ids then collectRows fieldName load ids lines rows
      else
        match load line with
        | .error message => .error message
        | .ok row =>
          let rows := Keyed.upsert id (fun _ => row) rows
          if rows.length = ids.eraseDups.length then .ok rows
          else collectRows fieldName load ids lines rows

/-- Where a row of each identifier has been collected, none of the other rows is asked for. -/
theorem filter_eq_nil_of_length_eq {α : Type} {ids : List ℤ} {rows entries : List (ℤ × α)}
    (hnodup : ((rows ++ entries).map Prod.fst).Nodup) (hrows : ∀ row ∈ rows, row.1 ∈ ids)
    (hall : rows.length = ids.eraseDups.length) :
  entries.filter (·.1 ∈ ids) = []
  := by
  rw [List.map_append] at hnodup
  have hsubset : rows.map Prod.fst ⊆ ids.eraseDups := by
    intro id hid
    obtain ⟨row, hrow, rfl⟩ := List.mem_map.mp hid
    exact List.mem_eraseDups.mpr (hrows row hrow)
  have hperm : (rows.map Prod.fst).Perm ids.eraseDups := by
    apply (List.subperm_of_subset hnodup.of_append_left hsubset).perm_of_length_le
    rw [List.length_map, hall]
  apply List.filter_eq_nil_iff.mpr
  intro entry hentry hid
  have hmem : entry.1 ∈ rows.map Prod.fst :=
    hperm.mem_iff.mpr (List.mem_eraseDups.mpr (of_decide_eq_true hid))
  exact List.disjoint_of_nodup_append hnodup hmem (List.mem_map_of_mem hentry)

/-- Of a file with one row for an identifier, the rows asked for are collected. -/
theorem collectRows_eq {α : Type} {fieldName : String} {load : String → Except String α}
    {ids : List ℤ} {lines : List String} {entries : List (ℤ × α)}
    (hlines : List.Forall₂ (fun line entry => extractTopLevelInt line fieldName = .ok (some entry.1)
      ∧ load line = .ok entry.2) lines entries)
    (hentries : (entries.map Prod.fst).Nodup) :
  collectRows fieldName load ids lines [] = .ok (entries.filter (·.1 ∈ ids))
  := by
  -- what has been collected has distinct identifiers, all asked for, and none of them follows
  have hloop : ∀ rows : List (ℤ × α), ((rows ++ entries).map Prod.fst).Nodup →
      (∀ row ∈ rows, row.1 ∈ ids) →
      collectRows fieldName load ids lines rows = .ok (rows ++ entries.filter (·.1 ∈ ids)) := by
    clear hentries
    induction hlines with
    | nil =>
        intro rows _ _
        rw [collectRows, List.filter_nil, List.append_nil]
    | @cons line entry lines entries hline hlines ih =>
        intro rows hnodup hrows
        have hnext : (((rows ++ [entry]) ++ entries).map Prod.fst).Nodup := by
          rwa [List.append_assoc, List.singleton_append]
        rw [collectRows, hline.1]
        dsimp only
        by_cases hid : entry.1 ∈ ids
        · have hfresh : entry.1 ∉ rows.map Prod.fst := by
            intro hmem
            rw [List.map_append, List.map_cons] at hnodup
            exact (List.disjoint_of_nodup_append hnodup) hmem List.mem_cons_self
          have hadded : ∀ row ∈ rows ++ [entry], row.1 ∈ ids := by
            intro row hrow
            rcases List.mem_append.mp hrow with hrow | hrow
            · exact hrows row hrow
            · rwa [List.mem_singleton.mp hrow]
          rw [if_neg (not_not.mpr hid), hline.2]
          dsimp only
          rw [Keyed.upsert_of_not_mem _ hfresh, List.filter_cons_of_pos (by simpa using hid)]
          split
          next hall =>
            have hnone : entries.filter (·.1 ∈ ids) = [] :=
              filter_eq_nil_of_length_eq hnext hadded hall
            rw [hnone]
          · rw [ih _ hnext hadded, List.append_assoc, List.singleton_append]
        · have hshort : ((rows ++ entries).map Prod.fst).Nodup := by
            apply List.Nodup.sublist _ hnodup
            exact ((List.sublist_cons_self entry entries).append_left rows).map Prod.fst
          rw [if_pos hid, List.filter_cons_of_neg (by simpa using hid), ih rows hshort hrows]
  exact hloop [] hentries (fun row hrow => absurd hrow List.not_mem_nil)

/-- The profiles of some users. -/
def collectProfiles (library : Library) (userProfiles : List String) (userIds : List ℤ) :
    Except String (List (ℤ × Profile)) :=
  collectRows "user_id" library.loadsProfile userIds userProfiles []

/-- The similarity rows of some items. -/
def collectItemSimilarityRows (library : Library) (itemSimilarity : List String)
    (itemIds : List ℤ) : Except String (List (ℤ × SimilarityRow)) :=
  collectRows "item_id"
    (fun line => do
      let document ← library.loads line
      normalizeSimilarityRow library.readers document "item_id" "item_id")
    itemIds itemSimilarity []

/-- The index entries of some items. -/
def collectItemIndexRows (library : Library) (itemIndex : List String) (itemIds : List ℤ) :
    Except String (List (ℤ × Json)) :=
  collectRows "item_id" library.loads itemIds itemIndex []

/-! ### Candidate users -/

/-- The heap with an entry, or the exception that an empty heap without room throws.  The entries
are ordered by their key, then by their user; an entry takes the place of the least one when its key
is greater. -/
def pushBoundedMinHeap (heap : List (ℚ × SimilarityRow)) (limit : ℤ) (entry : ℚ × SimilarityRow) :
    Except String (List (ℚ × SimilarityRow)) :=
  let rank : ℚ × SimilarityRow → ℚ ×ₗ ℤ := fun x => toLex (x.1, x.2.entityId)
  if heap.length < limit then .ok (TopK.push rank heap entry)
  else
    match heap with
    | [] => .error "list index out of range"
    | least :: rest =>
      if least.1 < entry.1 then .ok (TopK.push rank rest entry) else .ok (least :: rest)

/-- The order of the heap of ranks: the greatest rank is least, then the smallest user. -/
def encodedRank (entry : ℕ × SimilarityRow) : ℤ ×ₗ ℤ :=
  toLex (-(entry.1 : ℤ), entry.2.entityId)

/-- The heap with an entry, which keeps the entries of smallest rank. -/
def pushBoundedMaxRankHeap (heap : List (ℕ × SimilarityRow)) (limit : ℤ)
    (entry : ℕ × SimilarityRow) : Except String (List (ℕ × SimilarityRow)) :=
  if heap = [] ∧ limit ≤ 0 then .error "list index out of range"
  else .ok (TopK.offer limit encodedRank heap entry)

/-- The two heaps. -/
structure CandidateHeaps where
  quality : List (ℚ × SimilarityRow) := []
  sample : List (ℕ × SimilarityRow) := []
  deriving DecidableEq, Repr

/-- The number of rows that are kept for their quality. -/
def qualityLimit (args : Args) : ℤ :=
  max args.candidatePoolSize (args.targetUserCount * 50)

/-- The number of rows that are kept as a sample. -/
def sampleLimit (args : Args) : ℤ :=
  max (args.candidatePoolSize / 2) (args.targetUserCount * 25)

/-- The quality of a row: the scores of its first neighbours, and a little for each of them. -/
def quality (args : Args) (row : SimilarityRow) : ℚ :=
  ((sliceTo row.neighbors args.maxUserNeighbors).map SimilarityNeighbor.score).sum
    + (min (row.neighbors.length : ℤ) args.maxUserNeighbors : ℤ) * (1 / 20)

/-- One row of the stream; a row without neighbours is skipped. -/
def offerRow (library : Library) (args : Args) (heaps : CandidateHeaps) (row : SimilarityRow) :
    Except String CandidateHeaps :=
  if row.neighbors = [] then .ok heaps
  else do
    let quality ← pushBoundedMinHeap heaps.quality (qualityLimit args) (quality args row, row)
    let sample ← pushBoundedMaxRankHeap heaps.sample (sampleLimit args)
      (library.deterministicRank row.entityId, row)
    .ok { quality := quality, sample := sample }

/-- One line of the stream with its number; a blank line is skipped.  The identifier that the stream
extracts from a line is not used. -/
def offerLine (library : Library) (args : Args) (path : String) (heaps : CandidateHeaps)
    (line : String × ℕ) : Except String CandidateHeaps :=
  if Text.strip isSpace line.1 = "" then .ok heaps
  else do
    let document ← (library.loads (Text.strip isSpace line.1)).mapError fun exc =>
      "Invalid JSON in " ++ path ++ " line " ++ toString line.2 ++ ": " ++ exc
    let row ← normalizeSimilarityRow library.readers document "user_id" "user_id"
    offerRow library args heaps row

/-- The rows of the heaps by user. -/
def candidateRows (heaps : CandidateHeaps) : List (ℤ × SimilarityRow) :=
  rowsByEntityId (heaps.quality.map Prod.snd ++ heaps.sample.map Prod.snd)

/-- The rows kept of the file of similar users. -/
def collectCandidateSimilarityRows (library : Library) (args : Args) (path : String)
    (userSimilarity : List String) : Except String (List (ℤ × SimilarityRow)) := do
  let heaps ← (userSimilarity.zipIdx 1).foldlM (offerLine library args path) {}
  .ok (candidateRows heaps)

/-- The positive identifiers of the first neighbours of a row. -/
def firstNeighborIds (row : SimilarityRow) (maxUserNeighbors : ℤ) : List ℤ :=
  ((sliceTo row.neighbors maxUserNeighbors).map SimilarityNeighbor.neighborId).filter (0 < ·)

/-- The candidates and their first neighbours. -/
def collectRequiredProfileIds (candidateRows : List (ℤ × SimilarityRow)) (maxUserNeighbors : ℤ) :
    List ℤ :=
  candidateRows.map Prod.fst
    ++ candidateRows.flatMap fun entry => firstNeighborIds entry.2 maxUserNeighbors

/-- The seeds of the candidate users that have a profile and seeds. -/
def collectRequiredTriggerItemIds (args : Args) (candidateRows : List (ℤ × SimilarityRow))
    (profiles : List (ℤ × Profile)) : List (ℤ × List (ℤ × ℚ)) :=
  candidateRows.filterMap fun entry =>
    match profiles.lookup entry.1 with
    | none => none
    | some profile =>
      let seeds := collectTriggerSeeds profile args.maxTriggerSeeds
      if seeds = [] then none else some (entry.1, seeds)

/-- What is known of a user with a profile and seeds. -/
structure CandidateData where
  userId : ℤ
  similarityRow : SimilarityRow
  profile : Profile
  triggerSeeds : List (ℤ × ℚ)
  filterItems : List ℤ
  itemCfCandidates : List (ℤ × ℚ)
  userCfCandidates : List (ℤ × ℚ)
  neighborProfileHits : ℕ
  neighborProfileMisses : ℕ
  itemCfFilteredCount : ℕ
  userCfFilteredCount : ℕ
  overlapCount : ℕ
  profileItemCount : ℕ
  deriving DecidableEq, Repr

/-- The number of items in the behaviours of a profile. -/
def profileBehaviorItemCount (profile : Profile) : ℕ :=
  let behaviors := profile.behaviors
  ([behaviors.recentLikedItems, behaviors.likedItems, behaviors.interestedItems].flatMap
      collectItemIdsFromWeightedItems
    ++ behaviors.ratedItems.filter (0 < ·)).eraseDups.length

/-- What is known of one user. -/
def candidateData (args : Args) (profiles : List (ℤ × Profile))
    (itemSimilarityRows : List (ℤ × SimilarityRow)) (userId : ℤ) (similarityRow : SimilarityRow)
    (profile : Profile) (triggerSeeds : List (ℤ × ℚ)) : CandidateData :=
  let filterItems := collectFilterItems profile
  let itemCf := aggregateItemCf triggerSeeds filterItems itemSimilarityRows args.maxCandidates
  let userCf := aggregateUserCf userId similarityRow profiles filterItems args.maxUserNeighbors
    args.maxCandidates
  let itemCfIds := (itemCf.1.map Prod.fst).eraseDups
  { userId := userId
    similarityRow := similarityRow
    profile := profile
    triggerSeeds := triggerSeeds
    filterItems := filterItems
    itemCfCandidates := itemCf.1
    userCfCandidates := userCf.1
    neighborProfileHits := userCf.2.1
    neighborProfileMisses := userCf.2.2.1
    itemCfFilteredCount := itemCf.2
    userCfFilteredCount := userCf.2.2.2
    overlapCount := (itemCfIds.filter (· ∈ userCf.1.map Prod.fst)).length
    profileItemCount := profileBehaviorItemCount profile }

/-- The candidate users with a profile and seeds. -/
def buildCandidateData (args : Args) (candidateRows : List (ℤ × SimilarityRow))
    (profiles : List (ℤ × Profile)) (triggerSeedsByUser : List (ℤ × List (ℤ × ℚ)))
    (itemSimilarityRows : List (ℤ × SimilarityRow)) : List CandidateData :=
  candidateRows.filterMap fun entry =>
    match profiles.lookup entry.1 with
    | none => none
    | some profile =>
      let triggerSeeds := (triggerSeedsByUser.lookup entry.1).getD []
      if triggerSeeds = [] then none
      else
        some (candidateData args profiles itemSimilarityRows entry.1 entry.2 profile triggerSeeds)

/-! ### Choosing users -/

/-- The scores by which users are chosen. -/
inductive Bucket where
  | dual | itemStrong | userStrong | sparse | overlapFilter | content
  deriving DecidableEq, Repr

/-- The number of items recalled in either way. -/
def totalCount (data : CandidateData) : ℕ :=
  (data.itemCfCandidates.map Prod.fst ++ data.userCfCandidates.map Prod.fst).eraseDups.length

/-- `compute_bucket_scores`. -/
def bucketScore (bucket : Bucket) (data : CandidateData) : ℚ :=
  let itemCount : ℚ := data.itemCfCandidates.length
  let userCount : ℚ := data.userCfCandidates.length
  let total : ℚ := totalCount data
  let filterPressure : ℚ := (data.itemCfFilteredCount + data.userCfFilteredCount : ℕ)
  let hits : ℚ := data.neighborProfileHits
  match bucket with
  | .dual => min itemCount userCount * 10 + total + hits
  | .itemStrong => itemCount * 10 - userCount * 2 + filterPressure
  | .userStrong => userCount * 10 - itemCount * 2 + hits * 2
  | .sparse => 100 / (max data.profileItemCount 1 : ℕ) + total
  | .overlapFilter => data.overlapCount * 8 + filterPressure * 3 + total
  | .content => total * 5 + data.triggerSeeds.length + hits

/-- The scores in the order in which they choose, with the number of users each may choose. -/
def buckets : List (Bucket × ℕ) :=
  [(.dual, 3), (.itemStrong, 2), (.userStrong, 2), (.sparse, 1), (.overlapFilter, 1), (.content, 1)]

/-- An item is recalled for the user. -/
def HasCandidates (data : CandidateData) : Prop :=
  ¬ (data.itemCfCandidates = [] ∧ data.userCfCandidates = [])

instance (data : CandidateData) : Decidable (HasCandidates data) :=
  inferInstanceAs (Decidable (¬ _))

/-- The users chosen in the order of a ranking, each once, if an item is recalled for them; without
a quota only `targetCount` ends the loop. -/
def addRanked (targetCount : ℤ) (ranked : List CandidateData) (quota : Option ℕ)
    (selected : List CandidateData) : List CandidateData :=
  Picking.pick CandidateData.userId HasCandidates targetCount ranked quota selected

/-- The order of a score: greater scores first, then smaller users. -/
def bucketOrder (bucket : Bucket) : CandidateData → CandidateData → Bool :=
  Ranked.higherFirst (bucketScore bucket) CandidateData.userId

/-- The order in which the remaining users are chosen. -/
def totalOrder : CandidateData → CandidateData → Bool :=
  Ranked.higherFirst totalCount fun data => toLex (-(data.neighborProfileHits : ℤ), data.userId)

/-- The choice with users of one score, up to its quota. -/
def addFromBucket (targetCount : ℤ) (candidates : List CandidateData)
    (selected : List CandidateData) (bucket : Bucket × ℕ) : List CandidateData :=
  addRanked targetCount (Ranked.sortBy (bucketOrder bucket.1) candidates) (some bucket.2) selected

/-- The users chosen: by each score in turn, and then by the number of recalled items. -/
def chooseUsers (candidates : List CandidateData) (targetCount : ℤ) : List CandidateData :=
  let selected := buckets.foldl (addFromBucket targetCount candidates) []
  let selected :=
    if selected.length < targetCount then
      addRanked targetCount (Ranked.sortBy totalOrder candidates) none selected
    else selected
  sliceTo selected targetCount

/-! ### Writing the fixture -/

/-- The users chosen and their first neighbours. -/
def collectRelatedUserIds (selected : List CandidateData) (maxUserNeighbors : ℤ) : List ℤ :=
  selected.flatMap fun data =>
    data.userId :: firstNeighborIds data.similarityRow maxUserNeighbors

/-- The items in the behaviours of a profile. -/
def collectProfileRelatedItemIds (profile : Profile) : List ℤ :=
  let behaviors := profile.behaviors
  collectFilterItems profile
    ++ [behaviors.recentLikedItems, behaviors.likedItems, behaviors.interestedItems].flatMap
      collectItemIdsFromWeightedItems

/-- The items of the users chosen and of the profiles written. -/
def collectRelatedItemIds (selected : List CandidateData) (profilesToWrite : List (ℤ × Profile))
    (itemSimilarityRows : List (ℤ × SimilarityRow)) (maxCandidates : ℤ) : List ℤ :=
  (selected.flatMap fun data =>
    data.triggerSeeds.map Prod.fst ++ data.filterItems ++ data.itemCfCandidates.map Prod.fst
      ++ data.userCfCandidates.map Prod.fst
      ++ data.triggerSeeds.flatMap fun seed =>
        match itemSimilarityRows.lookup seed.1 with
        | none => []
        | some row =>
          (sliceTo row.neighbors maxCandidates).map SimilarityNeighbor.neighborId)
    ++ profilesToWrite.flatMap fun entry => collectProfileRelatedItemIds entry.2

/-- `row_to_jsonl`, as a document. -/
def rowToJsonl (row : SimilarityRow) (entityField : String) : Json :=
  .object [
    (entityField, .int row.entityId),
    ("neighbors", .array (row.neighbors.map fun n =>
      .object [(entityField, .int n.neighborId), ("score", .float n.score)]))]

/-- The document that is written of a row lists its neighbours. -/
theorem isRow_rowToJsonl (row : SimilarityRow) {entityField : String}
    (hneighbors : entityField ≠ "neighbors") (hscore : entityField ≠ "score") :
  IsRow entityField row (rowToJsonl row entityField)
  := by
  have hneighbors : ("neighbors" == entityField) = false := beq_eq_false_iff_ne.mpr hneighbors.symm
  have hscore : ("score" == entityField) = false := beq_eq_false_iff_ne.mpr hscore.symm
  refine ⟨_, row.neighbors.map fun n =>
    .object [(entityField, .int n.neighborId), ("score", .float n.score)], rfl, by simp,
    by simp [List.lookup_cons, hneighbors], ?_⟩
  rw [List.forall₂_map_right_iff]
  apply List.forall₂_same.mpr
  intro n _
  exact ⟨_, rfl, by simp, by simp [List.lookup_cons, hscore]⟩

/-- The numbers in the manifest of a fixture. -/
structure Counts where
  profiles : ℕ
  gatewayUsers : ℕ
  userSimilarityRows : ℕ
  itemSimilarityRows : ℕ
  relatedItemIds : ℕ
  itemIndexRows : ℕ
  missingItemIndexRows : ℕ
  deriving DecidableEq, Repr

/-- The files of a fixture, line by line, with the users and the numbers of its manifest. -/
structure Fixture where
  profiles : List (ℤ × Profile)
  userSimilarity : List SimilarityRow
  itemSimilarity : List SimilarityRow
  itemIndex : List (ℤ × Json)
  selectedUserIds : List ℤ
  counts : Counts

/-- Entries by ascending identifier. -/
def sortById {α : Type} (id : α → ℤ) (entries : List α) : List α :=
  Ranked.sortBy (fun a b => decide (id a < id b)) entries

/-- `write_outputs`. -/
def writeOutputs (args : Args) (selected : List CandidateData)
    (profilesToWrite : List (ℤ × Profile)) (itemSimilarityRows : List (ℤ × SimilarityRow))
    (itemIndexRows : List (ℤ × Json)) (relatedItemIds : List ℤ) : Fixture :=
  let triggerItemIds := ((selected.flatMap fun data => data.triggerSeeds.map Prod.fst).filter
    (· ∈ itemSimilarityRows.map Prod.fst)).eraseDups
  { profiles := sortById Prod.fst profilesToWrite
    userSimilarity := (sortById CandidateData.userId selected).map fun data =>
      { entityId := data.userId
        neighbors := sliceTo data.similarityRow.neighbors args.maxUserNeighbors }
    itemSimilarity := (sortById id triggerItemIds).filterMap fun id => itemSimilarityRows.lookup id
    itemIndex := sortById Prod.fst itemIndexRows
    selectedUserIds := sortById id (selected.map (·.userId)).eraseDups
    counts := {
      profiles := profilesToWrite.length
      gatewayUsers := selected.length
      userSimilarityRows := selected.length
      itemSimilarityRows := triggerItemIds.length
      relatedItemIds := relatedItemIds.eraseDups.length
      itemIndexRows := itemIndexRows.length
      missingItemIndexRows :=
        (relatedItemIds.eraseDups.filter (· ∉ itemIndexRows.map Prod.fst)).length } }

/-- The files that the tool reads, line by line. -/
structure SourceFiles where
  itemIndex : List String
  itemSimilarity : List String
  userProfiles : List String
  userSimilarity : List String
  deriving DecidableEq, Repr

/-- The users chosen and the rows collected for the candidate users. -/
structure Selection where
  profiles : List (ℤ × Profile)
  itemSimilarityRows : List (ℤ × SimilarityRow)
  selected : List CandidateData

/-- `main` up to the choice of the users. -/
def select (library : Library) (args : Args) (path : String) (files : SourceFiles) :
    Except String Selection := do
  let candidateRows ← collectCandidateSimilarityRows library args path files.userSimilarity
  let profiles ← collectProfiles library files.userProfiles
    (collectRequiredProfileIds candidateRows args.maxUserNeighbors)
  let triggerSeedsByUser := collectRequiredTriggerItemIds args candidateRows profiles
  let itemSimilarityRows ← collectItemSimilarityRows library files.itemSimilarity
    (triggerSeedsByUser.flatMap fun entry => entry.2.map Prod.fst)
  let candidates := buildCandidateData args candidateRows profiles triggerSeedsByUser
    itemSimilarityRows
  .ok {
    profiles := profiles
    itemSimilarityRows := itemSimilarityRows
    selected := chooseUsers candidates args.targetUserCount }

/-- `main`, where `path` is that of the user similarity file. -/
def main (library : Library) (args : Args) (path : String) (files : SourceFiles) :
    Except String Fixture := do
  let selection ← select library args path files
  if selection.selected.length < args.targetUserCount then
    .error ("Only selected " ++ toString selection.selected.length
      ++ " usable users; requested " ++ toString args.targetUserCount ++ ".")
  else
    let relatedUserIds := collectRelatedUserIds selection.selected args.maxUserNeighbors
    let profilesToWrite := selection.profiles.filter (·.1 ∈ relatedUserIds)
    let relatedItemIds := collectRelatedItemIds selection.selected profilesToWrite
      selection.itemSimilarityRows args.maxCandidates
    let itemIndexRows ← collectItemIndexRows library files.itemIndex relatedItemIds
    .ok (writeOutputs args selection.selected profilesToWrite selection.itemSimilarityRows
      itemIndexRows relatedItemIds)

end LocalRecommendationFixture

end OfflineDataProcessing
