import ShootingStar.Gateway.Locality
import ShootingStar.Offline.FixtureUsers
import ShootingStar.Retrieval.FixtureRecall

/-!
# A fixture serves its users

The fixture that the tool cuts out of the offline files holds what the services read for its users.
Over the stores that are loaded from the fixture and over those loaded from the source, the services
answer the requests of these users alike (`recommend_fixture`), for retrievers that read no more
seeds, similar users and similar items than the tool was told, and source rows that the tool would
normalise to themselves.
-/

namespace RecommendationEngine

open OfflineDataProcessing.LocalRecommendationFixture
open FixtureRecall (itemStore userStore neighborsOf userNeighbor rankedSeeds InRange)

namespace FixtureLocality

/-! ### Rows and stores -/

/-- The rows of the four files. -/
structure Rows where
  profiles : List (ℤ × Profile)
  userSimilarity : List SimilarityRow
  itemSimilarity : List SimilarityRow
  itemIndex : List (ℤ × Json)

/-- The stores of the rows; an index entry is made of the document of its item. -/
def Rows.stores (rows : Rows) (entryOf : Json → Option ItemIndexEntry) : Stores where
  findProfile userId := rows.profiles.lookup userId
  findItems itemId maxNeighborCount :=
    (itemStore rows.itemSimilarity).findNeighborsByItemId itemId maxNeighborCount
  findUsers userId maxNeighborCount :=
    (userStore rows.userSimilarity).findNeighborsByUserId userId maxNeighborCount
  findEntry itemId := (rows.itemIndex.lookup (itemId : ℤ)).bind entryOf

/-- The documents on the lines of the similarity files. -/
structure SimilarityDocuments where
  users : List Json
  items : List Json

/-- The stores that are loaded from similarity files, beside the profiles and the index entries of
the rows. -/
def Rows.load (rows : Rows) (entryOf : Json → Option ItemIndexEntry) (readers : NumberReaders)
    (documents : SimilarityDocuments) : Except String Stores := do
  let users ← LocalFileUserSimilarityStore.loadFromJsonlFile readers "user_similarity.jsonl"
    (some (documents.users.map some))
  let items ← LocalFileItemSimilarityStore.loadFromJsonlFile readers "item_similarity.jsonl"
    (some (documents.items.map some))
  .ok { rows.stores entryOf with
    findItems := items.findNeighborsByItemId
    findUsers := users.findNeighborsByUserId }

/-- The documents list the neighbours of the rows, with identifiers that are doubles. -/
structure Rows.Lists (rows : Rows) (documents : SimilarityDocuments) : Prop where
  users : List.Forall₂ (IsRow "user_id") rows.userSimilarity documents.users
  items : List.Forall₂ (IsRow "item_id") rows.itemSimilarity documents.items
  usersInRange : ∀ row ∈ rows.userSimilarity, InRange row
  itemsInRange : ∀ row ∈ rows.itemSimilarity, InRange row

/-- The loaders read the rows that documents list. -/
theorem Rows.Lists.load_eq {rows : Rows} {documents : SimilarityDocuments}
    (h : rows.Lists documents) (entryOf : Json → Option ItemIndexEntry) (readers : NumberReaders) :
  rows.load entryOf readers documents = .ok (rows.stores entryOf)
  := by
  have husers := FixtureRecall.loadFromJsonlFile_userStore readers "user_similarity.jsonl" h.users
    h.usersInRange
  have hitems := FixtureRecall.loadFromJsonlFile_itemStore readers "item_similarity.jsonl" h.items
    h.itemsInRange
  simp only [Rows.load, husers, hitems, bind, Except.bind]
  rfl

/-- The lines of a file have the entries of distinct identifiers. -/
structure ReadsEntries {α : Type} (fieldName : String) (load : String → Except String α)
    (lines : List String) (entries : List (ℤ × α)) : Prop where
  reads : List.Forall₂ (fun line entry => extractTopLevelInt line fieldName = .ok (some entry.1)
    ∧ load line = .ok entry.2) lines entries
  nodup : (entries.map Prod.fst).Nodup

/-- The rows by identifier. -/
def byId (rows : List SimilarityRow) : List (ℤ × SimilarityRow) :=
  rows.map fun row => (row.entityId, row)

/-- The source files have the rows, each for one user or item. -/
structure Reads (library : Library) (files : SourceFiles) (rows : Rows) : Prop where
  profiles : ReadsEntries "user_id" library.loadsProfile files.userProfiles rows.profiles
  userSimilarity : ReadsRows library files.userSimilarity rows.userSimilarity
  userIds : (rows.userSimilarity.map SimilarityRow.entityId).Nodup
  itemSimilarity : ReadsEntries "item_id"
    (fun line => do
      let document ← library.loads line
      normalizeSimilarityRow library.readers document "item_id" "item_id")
    files.itemSimilarity (byId rows.itemSimilarity)
  itemIndex : ReadsEntries "item_id" library.loads files.itemIndex rows.itemIndex

/-- The documents are those on the lines of the source files, and list their normalised rows. -/
structure HoldsDocuments (library : Library) (files : SourceFiles) (rows : Rows)
    (documents : SimilarityDocuments) : Prop where
  users : List.Forall₂ (fun line document => library.loads line = .ok document)
    files.userSimilarity documents.users
  items : List.Forall₂ (fun line document => library.loads line = .ok document)
    files.itemSimilarity documents.items
  lists : rows.Lists documents

/-- The documents that the tool writes to the similarity files of a fixture. -/
def fixtureDocuments (fixture : Fixture) : SimilarityDocuments where
  users := fixture.userSimilarity.map (rowToJsonl · "user_id")
  items := fixture.itemSimilarity.map (rowToJsonl · "item_id")

/-- The rows of a fixture. -/
def fixtureRows (fixture : Fixture) : Rows where
  profiles := fixture.profiles
  userSimilarity := fixture.userSimilarity
  itemSimilarity := fixture.itemSimilarity
  itemIndex := fixture.itemIndex

theorem map_fst_byId (rows : List SimilarityRow) :
  (byId rows).map Prod.fst = rows.map SimilarityRow.entityId
  := by
  rw [byId, List.map_map]
  rfl

/-- Rows of distinct identifiers are found by them. -/
theorem neighborsOf_of_mem {rows : List SimilarityRow}
    (h : (rows.map SimilarityRow.entityId).Nodup) {row : SimilarityRow} (hrow : row ∈ rows) :
  neighborsOf rows row.entityId = row.neighbors
  := by
  have hlookup : (rowsByEntityId rows).lookup row.entityId = some row := by
    rw [rowsByEntityId, Keyed.collect_of_nodup h]
    apply Keyed.lookup_eq_of_mem
    · rw [List.map_map]
      exact h
    · exact List.mem_map.mpr ⟨row, hrow, rfl⟩
  rw [neighborsOf, hlookup]
  rfl

/-- An entity without a row has no neighbours. -/
theorem neighborsOf_of_not_mem {rows : List SimilarityRow} {entityId : ℤ}
    (h : entityId ∉ rows.map SimilarityRow.entityId) :
  neighborsOf rows entityId = []
  := by
  have hlookup : (rowsByEntityId rows).lookup entityId = none := by
    rw [Keyed.lookup_eq_none, rowsByEntityId, Keyed.map_fst_collect, List.mem_eraseDups]
    exact h
  rw [neighborsOf, hlookup]
  rfl

/-- Stores find the same similar items of an entity whose rows have the same neighbours. -/
theorem findNeighborsByItemId_congr {rows rows' : List SimilarityRow} {id : ℕ} {n : ℤ}
    (h : neighborsOf rows id = neighborsOf rows' id) :
  (itemStore rows).findNeighborsByItemId id n = (itemStore rows').findNeighborsByItemId id n
  := by
  by_cases hnone : id = 0 ∨ n ≤ 0
  · rw [LocalFileItemSimilarityStore.findNeighborsByItemId, if_pos hnone,
      LocalFileItemSimilarityStore.findNeighborsByItemId, if_pos hnone]
  · push Not at hnone
    rw [FixtureRecall.findNeighborsByItemId_itemStore _ hnone.1 hnone.2,
      FixtureRecall.findNeighborsByItemId_itemStore _ hnone.1 hnone.2, h]

/-- The first of the first entries. -/
theorem sliceTo_sliceTo {α : Type} (l : List α) {m n : ℤ} (hn : 0 ≤ n) (h : n ≤ m) :
  sliceTo (sliceTo l m) n = sliceTo l n
  := by
  rw [sliceTo, if_pos hn, sliceTo, if_pos (hn.trans h), sliceTo, if_pos hn, List.take_take]
  congr 1
  omega

theorem mem_sliceTo_of_le {α : Type} {l : List α} {m n : ℤ} (hn : 0 ≤ n) (h : n ≤ m) {x : α}
    (hx : x ∈ sliceTo l n) :
  x ∈ sliceTo l m
  := by
  rw [← sliceTo_sliceTo l hn h] at hx
  exact FixtureRecall.mem_of_mem_sliceTo hx

/-- The similar users that a store finds, of those of a row. -/
theorem of_mem_findNeighborsByUserId {rows : List SimilarityRow} {id : ℕ} {n : ℤ}
    {neighbor : UserNeighbor}
    (h : neighbor ∈ (userStore rows).findNeighborsByUserId id n) :
  id ≠ 0 ∧ 0 < n ∧ ∃ found ∈ sliceTo (neighborsOf rows id) n, neighbor = userNeighbor found
  := by
  by_cases hnone : id = 0 ∨ n ≤ 0
  · rw [LocalFileUserSimilarityStore.findNeighborsByUserId, if_pos hnone] at h
    cases h
  · push Not at hnone
    rw [FixtureRecall.findNeighborsByUserId_userStore _ hnone.1 hnone.2] at h
    obtain ⟨found, hfound, rfl⟩ := List.mem_map.mp h
    exact ⟨hnone.1, hnone.2, found, hfound, rfl⟩

/-- The similar items that a store finds, of those of a row. -/
theorem of_mem_findNeighborsByItemId {rows : List SimilarityRow} {id : ℕ} {n : ℤ}
    {neighbor : ItemNeighbor}
    (h : neighbor ∈ (itemStore rows).findNeighborsByItemId id n) :
  id ≠ 0 ∧ 0 < n ∧ ∃ found ∈ sliceTo (neighborsOf rows id) n, neighbor = FixtureRecall.itemNeighbor found
  := by
  by_cases hnone : id = 0 ∨ n ≤ 0
  · rw [LocalFileItemSimilarityStore.findNeighborsByItemId, if_pos hnone] at h
    cases h
  · push Not at hnone
    rw [FixtureRecall.findNeighborsByItemId_itemStore _ hnone.1 hnone.2] at h
    obtain ⟨found, hfound, rfl⟩ := List.mem_map.mp h
    exact ⟨hnone.1, hnone.2, found, hfound, rfl⟩

/-! ### What the tool selects -/

variable {library : Library} {args : Args} {path : String} {files : SourceFiles} {rows : Rows}

/-- A candidate is a row with a profile and the seeds of the profile. -/
theorem of_mem_buildCandidateData {candidateRows : List (ℤ × SimilarityRow)}
    {profiles : List (ℤ × Profile)} {itemSimilarityRows : List (ℤ × SimilarityRow)}
    {data : CandidateData}
    (h : data ∈ buildCandidateData args candidateRows profiles
      (collectRequiredTriggerItemIds args candidateRows profiles) itemSimilarityRows) :
  (data.userId, data.similarityRow) ∈ candidateRows
    ∧ (data.userId, data.triggerSeeds) ∈ collectRequiredTriggerItemIds args candidateRows profiles
    ∧ ∃ profile, profiles.lookup data.userId = some profile
      ∧ data.triggerSeeds = collectTriggerSeeds profile args.maxTriggerSeeds
  := by
  obtain ⟨entry, hentry, hdata⟩ := List.mem_filterMap.mp h
  cases hprofile : profiles.lookup entry.1 with
  | none =>
      simp only [hprofile] at hdata
      cases hdata
  | some profile =>
      simp only [hprofile] at hdata
      split at hdata
      · cases hdata
      next hne =>
        obtain rfl := Option.some.inj hdata
        cases hseeds : (collectRequiredTriggerItemIds args candidateRows profiles).lookup entry.1 with
        | none =>
            rw [hseeds] at hne
            exact absurd rfl hne
        | some seeds =>
            have hmem := Keyed.mem_of_lookup_eq hseeds
            have hfound : seeds = collectTriggerSeeds profile args.maxTriggerSeeds := by
              obtain ⟨entry', -, hentry'⟩ := List.mem_filterMap.mp hmem
              cases hprofile' : profiles.lookup entry'.1 with
              | none =>
                  simp only [hprofile'] at hentry'
                  cases hentry'
              | some profile' =>
                  simp only [hprofile'] at hentry'
                  split at hentry'
                  · cases hentry'
                  · obtain ⟨hid, rfl⟩ := Prod.mk.inj (Option.some.inj hentry')
                    rw [hid, hprofile] at hprofile'
                    rw [Option.some.inj hprofile']
            exact ⟨hentry, hmem, profile, hprofile, hfound⟩

/-- What the tool has collected when the users are chosen. -/
structure Selected (args : Args) (rows : Rows) (candidateRows : List (ℤ × SimilarityRow))
    (selection : Selection) : Prop where
  profiles : selection.profiles = rows.profiles.filter
    (·.1 ∈ collectRequiredProfileIds candidateRows args.maxUserNeighbors)
  itemSimilarityRows : selection.itemSimilarityRows = (byId rows.itemSimilarity).filter
    (·.1 ∈ (collectRequiredTriggerItemIds args candidateRows selection.profiles).flatMap
      fun entry => entry.2.map Prod.fst)
  selected : ∀ data ∈ selection.selected, data ∈ buildCandidateData args candidateRows
    selection.profiles (collectRequiredTriggerItemIds args candidateRows selection.profiles)
    selection.itemSimilarityRows
  distinct : (selection.selected.map (·.userId)).Nodup
  candidates : ∀ candidate ∈ candidateRows, candidate.2 ∈ rows.userSimilarity
    ∧ candidate.1 = candidate.2.entityId

theorem exists_selected (hreads : Reads library files rows) {selection : Selection}
    (h : select library args path files = .ok selection) :
  ∃ candidateRows, Selected args rows candidateRows selection
  := by
  rw [select] at h
  obtain ⟨candidateRows, hcandidates, h⟩ := Batch.of_bind_eq_ok h
  obtain ⟨profiles, hprofiles, h⟩ := Batch.of_bind_eq_ok h
  obtain ⟨itemSimilarityRows, hitems, h⟩ := Batch.of_bind_eq_ok h
  obtain rfl := Except.ok.inj h
  obtain ⟨-, hmem⟩ := of_mem_collectCandidateSimilarityRows hreads.userSimilarity hcandidates
  rw [collectProfiles, collectRows_eq hreads.profiles.reads hreads.profiles.nodup] at hprofiles
  rw [collectItemSimilarityRows,
    collectRows_eq hreads.itemSimilarity.reads hreads.itemSimilarity.nodup] at hitems
  use candidateRows
  constructor
  case profiles => exact (Except.ok.inj hprofiles).symm
  case itemSimilarityRows => exact (Except.ok.inj hitems).symm
  case selected => exact (choice_chooseUsers _ args.targetUserCount).mem
  case distinct => exact (choice_chooseUsers _ args.targetUserCount).nodup
  case candidates =>
    intro candidate hcandidate
    obtain ⟨hrow, -, hid⟩ := hmem candidate hcandidate
    exact ⟨hrow, hid⟩

/-! ### What the fixture holds -/

/-- A fixture is written of what has been selected. -/
structure Written (args : Args) (rows : Rows) (selection : Selection) (fixture : Fixture) : Prop where
  profiles : fixture.profiles.Perm (selection.profiles.filter
    (·.1 ∈ collectRelatedUserIds selection.selected args.maxUserNeighbors))
  userSimilarity : fixture.userSimilarity.Perm (selection.selected.map fun data =>
    { entityId := data.userId
      neighbors := sliceTo data.similarityRow.neighbors args.maxUserNeighbors })
  itemSimilarity : ∃ ids : List ℤ, ids.Nodup ∧ (∀ id, id ∈ ids ↔
      id ∈ (selection.selected.flatMap fun data => data.triggerSeeds.map Prod.fst)
        ∧ id ∈ selection.itemSimilarityRows.map Prod.fst)
    ∧ fixture.itemSimilarity = ids.filterMap fun id => selection.itemSimilarityRows.lookup id
  itemIndex : fixture.itemIndex.Perm (rows.itemIndex.filter
    (·.1 ∈ collectRelatedItemIds selection.selected
      (selection.profiles.filter
        (·.1 ∈ collectRelatedUserIds selection.selected args.maxUserNeighbors))
      selection.itemSimilarityRows args.maxCandidates))
  selectedUserIds : ∀ userId ∈ fixture.selectedUserIds, ∃ data ∈ selection.selected,
    data.userId = userId

theorem exists_written (hreads : Reads library files rows) {fixture : Fixture}
    (h : main library args path files = .ok fixture) :
  ∃ selection, select library args path files = .ok selection ∧ Written args rows selection fixture
  := by
  rw [main] at h
  obtain ⟨selection, hselect, h⟩ := Batch.of_bind_eq_ok h
  split at h
  · cases h
  obtain ⟨itemIndexRows, hindex, h⟩ := Batch.of_bind_eq_ok h
  obtain rfl := Except.ok.inj h
  rw [collectItemIndexRows, collectRows_eq hreads.itemIndex.reads hreads.itemIndex.nodup] at hindex
  obtain rfl := Except.ok.inj hindex
  refine ⟨selection, hselect, ?_⟩
  constructor
  case profiles => exact Ranked.sortBy_perm _ _
  case userSimilarity => exact (Ranked.sortBy_perm _ _).map _
  case itemSimilarity =>
    refine ⟨_, ?_, ?_, rfl⟩
    · exact (Ranked.sortBy_perm _ _).nodup_iff.mpr (Keyed.nodup_eraseDups _)
    · intro id
      rw [sortById, Ranked.mem_sortBy, List.mem_eraseDups, List.mem_filter, decide_eq_true_iff]
  case itemIndex => exact Ranked.sortBy_perm _ _
  case selectedUserIds =>
    intro userId huser
    have hmem := List.mem_eraseDups.mp (Ranked.mem_sortBy.mp huser)
    exact List.mem_map.mp hmem

/-- The documents of a fixture list its rows. -/
theorem lists_fixtureDocuments {candidateRows : List (ℤ × SimilarityRow)} {selection : Selection}
    {fixture : Fixture} {documents : SimilarityDocuments}
    (hselected : Selected args rows candidateRows selection)
    (hwritten : Written args rows selection fixture) (h : rows.Lists documents) :
  (fixtureRows fixture).Lists (fixtureDocuments fixture)
  := by
  constructor
  case users =>
    apply List.forall₂_map_right_iff.mpr
    apply List.forall₂_same.mpr
    intro row _
    exact isRow_rowToJsonl row (by decide) (by decide)
  case items =>
    apply List.forall₂_map_right_iff.mpr
    apply List.forall₂_same.mpr
    intro row _
    exact isRow_rowToJsonl row (by decide) (by decide)
  case usersInRange =>
    intro row hrow
    obtain ⟨data, hdata, rfl⟩ := List.mem_map.mp (hwritten.userSimilarity.mem_iff.mp hrow)
    obtain ⟨hentry, -, -⟩ := of_mem_buildCandidateData (hselected.selected data hdata)
    obtain ⟨hsource, hid⟩ := hselected.candidates _ hentry
    obtain ⟨hentity, hneighbors⟩ := h.usersInRange _ hsource
    constructor
    · rw [← hid] at hentity
      exact hentity
    · intro n hn
      exact hneighbors n (FixtureRecall.mem_of_mem_sliceTo hn)
  case itemsInRange =>
    intro row hrow
    obtain ⟨ids, -, -, hitems⟩ := hwritten.itemSimilarity
    change row ∈ fixture.itemSimilarity at hrow
    rw [hitems, hselected.itemSimilarityRows] at hrow
    obtain ⟨id, -, hlookup⟩ := List.mem_filterMap.mp hrow
    obtain ⟨source, hsource, heq⟩ :=
      List.mem_map.mp (List.mem_filter.mp (Keyed.mem_of_lookup_eq hlookup)).1
    obtain rfl : source = row := (Prod.mk.inj heq).2
    exact h.itemsInRange source hsource

section Fixture

variable {candidateRows : List (ℤ × SimilarityRow)} {selection : Selection} {fixture : Fixture}
  (hselected : Selected args rows candidateRows selection)
  (hwritten : Written args rows selection fixture)

include hselected

/-- The users whose profiles are written are among those whose profiles are collected. -/
theorem mem_required_of_mem_related {userId : ℤ}
    (h : userId ∈ collectRelatedUserIds selection.selected args.maxUserNeighbors) :
  userId ∈ collectRequiredProfileIds candidateRows args.maxUserNeighbors
  := by
  obtain ⟨data, hdata, hmem⟩ := List.mem_flatMap.mp h
  obtain ⟨hentry, -, -⟩ := of_mem_buildCandidateData (hselected.selected data hdata)
  rw [collectRequiredProfileIds, List.mem_append]
  rcases List.mem_cons.mp hmem with rfl | hneighbor
  · exact Or.inl (List.mem_map_of_mem hentry)
  · exact Or.inr (List.mem_flatMap.mpr ⟨_, hentry, hneighbor⟩)

theorem lookup_selection_profiles {data : CandidateData} (hdata : data ∈ selection.selected) :
  selection.profiles.lookup data.userId = rows.profiles.lookup data.userId
  := by
  have hrelated : data.userId ∈ collectRelatedUserIds selection.selected args.maxUserNeighbors :=
    List.mem_flatMap.mpr ⟨data, hdata, List.mem_cons_self⟩
  rw [hselected.profiles, Keyed.lookup_filter_mem (mem_required_of_mem_related hselected hrelated)]

/-- The rows of the seeds of the users chosen are collected. -/
theorem lookup_itemSimilarityRows {data : CandidateData} (hdata : data ∈ selection.selected)
    {itemId : ℤ} (hseed : itemId ∈ data.triggerSeeds.map Prod.fst) :
  selection.itemSimilarityRows.lookup itemId = (byId rows.itemSimilarity).lookup itemId
  := by
  obtain ⟨-, hseeds, -⟩ := of_mem_buildCandidateData (hselected.selected data hdata)
  have hrequired : itemId ∈ (collectRequiredTriggerItemIds args candidateRows
      selection.profiles).flatMap fun entry => entry.2.map Prod.fst :=
    List.mem_flatMap.mpr ⟨_, hseeds, hseed⟩
  rw [hselected.itemSimilarityRows, Keyed.lookup_filter_mem hrequired]

include hwritten

/-- The profiles of the users chosen and of their first similar users. -/
theorem lookup_profiles (hprofiles : (rows.profiles.map Prod.fst).Nodup) {userId : ℤ}
    (h : userId ∈ collectRelatedUserIds selection.selected args.maxUserNeighbors) :
  fixture.profiles.lookup userId = rows.profiles.lookup userId
  := by
  have hnodup : (fixture.profiles.map Prod.fst).Nodup := by
    apply (hwritten.profiles.map Prod.fst).nodup_iff.mpr
    rw [hselected.profiles]
    exact ((List.filter_sublist.trans List.filter_sublist).map Prod.fst).nodup hprofiles
  rw [Keyed.lookup_perm hnodup hwritten.profiles, Keyed.lookup_filter_mem h,
    hselected.profiles,
    Keyed.lookup_filter_mem (mem_required_of_mem_related hselected h)]

/-- The similar users of the users chosen. -/
theorem neighborsOf_userSimilarity (huserIds : (rows.userSimilarity.map SimilarityRow.entityId).Nodup)
    {data : CandidateData} (hdata : data ∈ selection.selected) :
  neighborsOf rows.userSimilarity data.userId = data.similarityRow.neighbors
    ∧ neighborsOf fixture.userSimilarity data.userId
      = sliceTo data.similarityRow.neighbors args.maxUserNeighbors
  := by
  obtain ⟨hentry, -, -⟩ := of_mem_buildCandidateData (hselected.selected data hdata)
  obtain ⟨hrow, hid⟩ := hselected.candidates _ hentry
  have hid : data.userId = data.similarityRow.entityId := hid
  constructor
  · rw [hid]
    exact neighborsOf_of_mem huserIds hrow
  · have hnodup : (fixture.userSimilarity.map SimilarityRow.entityId).Nodup := by
      apply (hwritten.userSimilarity.map SimilarityRow.entityId).nodup_iff.mpr
      rw [List.map_map]
      exact hselected.distinct
    have hmem := hwritten.userSimilarity.mem_iff.mpr (List.mem_map_of_mem hdata)
    exact neighborsOf_of_mem hnodup hmem

/-- The similar items of the seeds of the users chosen. -/
theorem neighborsOf_itemSimilarity
    (hitemIds : ((byId rows.itemSimilarity).map Prod.fst).Nodup) {data : CandidateData}
    (hdata : data ∈ selection.selected) {itemId : ℤ}
    (hseed : itemId ∈ data.triggerSeeds.map Prod.fst) :
  neighborsOf fixture.itemSimilarity itemId = neighborsOf rows.itemSimilarity itemId
  := by
  have hcollected := lookup_itemSimilarityRows hselected hdata hseed
  have hseed : itemId ∈ selection.selected.flatMap fun data => data.triggerSeeds.map Prod.fst :=
    List.mem_flatMap.mpr ⟨data, hdata, hseed⟩
  have hnodup := (map_fst_byId rows.itemSimilarity).symm ▸ hitemIds
  obtain ⟨ids, hids, hmem, hrows⟩ := hwritten.itemSimilarity
  have hlookup : ∀ id row, selection.itemSimilarityRows.lookup id = some row →
      row ∈ rows.itemSimilarity ∧ row.entityId = id := by
    intro id row hfound
    have hin := Keyed.mem_of_lookup_eq hfound
    rw [hselected.itemSimilarityRows] at hin
    obtain ⟨row', hrow', heq⟩ := List.mem_map.mp (List.mem_filter.mp hin).1
    obtain ⟨rfl, rfl⟩ := Prod.mk.inj heq
    exact ⟨hrow', rfl⟩
  have hfixture : (fixture.itemSimilarity.map SimilarityRow.entityId).Sublist ids := by
    rw [hrows]
    exact Keyed.map_filterMap_sublist (fun id row hfound => (hlookup id row hfound).2) ids
  rw [map_fst_byId] at hitemIds
  cases hfound : selection.itemSimilarityRows.lookup itemId with
  | some row =>
      obtain ⟨hrow, rfl⟩ := hlookup itemId row hfound
      have hid : row.entityId ∈ ids := by
        apply (hmem _).mpr ⟨hseed, _⟩
        exact List.mem_map_of_mem (Keyed.mem_of_lookup_eq hfound)
      have hwrittenRow : row ∈ fixture.itemSimilarity := by
        rw [hrows]
        exact List.mem_filterMap.mpr ⟨_, hid, hfound⟩
      rw [neighborsOf_of_mem (hfixture.nodup hids) hwrittenRow, neighborsOf_of_mem hitemIds hrow]
  | none =>
      have hsource : itemId ∉ rows.itemSimilarity.map SimilarityRow.entityId := by
        rw [hcollected, Keyed.lookup_eq_none, map_fst_byId] at hfound
        exact hfound
      have hout : itemId ∉ fixture.itemSimilarity.map SimilarityRow.entityId := by
        intro hin
        apply Keyed.lookup_eq_none.mp hfound
        exact ((hmem itemId).mp (hfixture.subset hin)).2
      rw [neighborsOf_of_not_mem hout, neighborsOf_of_not_mem hsource]

omit hselected in
/-- The index entries of the items related to the users chosen. -/
theorem lookup_itemIndex (hindex : (rows.itemIndex.map Prod.fst).Nodup) {itemId : ℤ}
    (h : itemId ∈ collectRelatedItemIds selection.selected
      (selection.profiles.filter
        (·.1 ∈ collectRelatedUserIds selection.selected args.maxUserNeighbors))
      selection.itemSimilarityRows args.maxCandidates) :
  fixture.itemIndex.lookup itemId = rows.itemIndex.lookup itemId
  := by
  have hnodup : (fixture.itemIndex.map Prod.fst).Nodup := by
    apply (hwritten.itemIndex.map Prod.fst).nodup_iff.mpr
    exact (List.filter_sublist.map Prod.fst).nodup hindex
  rw [Keyed.lookup_perm hnodup hwritten.itemIndex, Keyed.lookup_filter_mem h]

end Fixture

/-! ### Requests of the users chosen -/

/-- A retriever uses no other seeds than the tool, if the tool takes as many. -/
theorem mem_collectTriggerSeeds {profile : Profile} {m n : ℤ} (hm : 0 < m) (h : m ≤ n)
    {seed : TriggerSeed}
    (hseed : seed ∈ RetrieverItemCf.selectTopTriggerSeeds
      (RetrieverItemCf.collectTriggerSeeds profile) m) :
  (seed.entityId : ℤ) ∈ (collectTriggerSeeds profile n).map Prod.fst
  := by
  have hranked : seed ∈ rankedSeeds profile m :=
    (FixtureRecall.rankedSeeds_perm profile hm).mem_iff.mpr hseed
  have hbegins : rankedSeeds profile m <+: rankedSeeds profile n :=
    List.take_prefix_take_left (Int.toNat_le_toNat h)
  rw [FixtureRecall.collectTriggerSeeds_eq profile (hm.trans_le h), List.map_map]
  exact List.mem_map.mpr ⟨seed, hbegins.subset hranked, rfl⟩

/-- The retrievers read no more than the tool was told. -/
structure ReadsAtMost (p : Pipeline) (request : RecommendRequest) (args : Args) : Prop where
  seeds : p.itemCf.maxTriggerSeedCount ≤ args.maxTriggerSeeds
  users : p.userCfOptions.triggerSeedUserCount ≤ args.maxUserNeighbors
  items : p.similarItemCount request ≤ args.maxCandidates

/-- The rows of similar items are normalised. -/
theorem Reads.normalized (h : Reads library files rows) :
  ∀ row ∈ rows.itemSimilarity, Normalized row
  := by
  have hreads := h.itemSimilarity.reads
  rw [byId, List.forall₂_map_right_iff] at hreads
  generalize files.itemSimilarity = lines at hreads
  generalize rows.itemSimilarity = itemRows at hreads
  induction hreads with
  | nil => exact fun row hrow => absurd hrow List.not_mem_nil
  | cons hline _ ih =>
      obtain ⟨document, -, hrow⟩ := Batch.of_bind_eq_ok hline.2
      exact List.forall_mem_cons.mpr ⟨normalized_of_normalizeSimilarityRow hrow, ih⟩

section Request

variable {p : Pipeline} {request : RecommendRequest} {candidateRows : List (ℤ × SimilarityRow)}
  {selection : Selection} {fixture : Fixture} {entryOf : Json → Option ItemIndexEntry}
  {data : CandidateData}

/-- Similar users of a user chosen are related to them. -/
theorem related_of_mem_similarUsers (hreads : Reads library files rows)
    (hselected : Selected args rows candidateRows selection)
    (hwritten : Written args rows selection fixture) (hatMost : ReadsAtMost p request args)
    (hdata : data ∈ selection.selected) (huser : data.userId = request.userId)
    {neighbor : UserNeighbor} (h : neighbor ∈ p.similarUsers (rows.stores entryOf) request) :
  (neighbor.userId : ℤ) ∈ collectRelatedUserIds selection.selected args.maxUserNeighbors
  := by
  obtain ⟨hid, hpos, found, hfound, rfl⟩ := of_mem_findNeighborsByUserId h
  have huserId : ((request.userId.toNat : ℕ) : ℤ) = data.userId := by omega
  rw [huserId, (neighborsOf_userSimilarity hselected hwritten hreads.userIds hdata).1] at hfound
  have hmem := mem_sliceTo_of_le hpos.le hatMost.users hfound
  have hnormalized : Normalized data.similarityRow := by
    obtain ⟨hentry, -, -⟩ := of_mem_buildCandidateData (hselected.selected data hdata)
    obtain ⟨hrow, -⟩ := hselected.candidates _ hentry
    exact hreads.userSimilarity.normalized _ hrow
  have hneighbor := (hnormalized.positive found (FixtureRecall.mem_of_mem_sliceTo hmem)).1
  have hcast : ((userNeighbor found).userId : ℤ) = found.neighborId :=
    Int.toNat_of_nonneg hneighbor.le
  rw [hcast]
  refine List.mem_flatMap.mpr ⟨data, hdata, List.mem_cons_of_mem _ ?_⟩
  exact List.mem_filter.mpr ⟨List.mem_map_of_mem hmem, decide_eq_true hneighbor⟩

/-- The seeds of a request of a user chosen are those that the tool took for the user. -/
theorem mem_triggerSeeds (hselected : Selected args rows candidateRows selection)
    (hatMost : ReadsAtMost p request args) (hdata : data ∈ selection.selected)
    (huser : data.userId = request.userId) {profile : Profile}
    (hprofile : (rows.stores entryOf).findProfile request.userId = some profile)
    {seed : TriggerSeed} (hseed : seed ∈ p.itemSeeds profile) :
  (seed.entityId : ℤ) ∈ data.triggerSeeds.map Prod.fst
  := by
  obtain ⟨-, -, profile', hprofile', htriggers⟩ :=
    of_mem_buildCandidateData (hselected.selected data hdata)
  rw [lookup_selection_profiles hselected hdata, huser] at hprofile'
  rw [htriggers, Option.some.inj (hprofile'.symm.trans hprofile)]
  exact mem_collectTriggerSeeds p.itemCf.maxTriggerSeedCount_pos hatMost.seeds hseed

/-- An item that is similar to a seed is related to the user of the seed. -/
theorem related_of_similar (hreads : Reads library files rows)
    (hselected : Selected args rows candidateRows selection) (hatMost : ReadsAtMost p request args)
    (hdata : data ∈ selection.selected) {seed : TriggerSeed}
    (htrigger : (seed.entityId : ℤ) ∈ data.triggerSeeds.map Prod.fst) {neighbor : ItemNeighbor}
    (h : neighbor ∈ (rows.stores entryOf).findItems seed.entityId (p.similarItemCount request))
    (profiles : List (ℤ × Profile)) :
  (neighbor.itemId : ℤ) ∈ collectRelatedItemIds selection.selected profiles
    selection.itemSimilarityRows args.maxCandidates
  := by
  obtain ⟨-, hpos, found, hfound, rfl⟩ := of_mem_findNeighborsByItemId h
  have hmem : found ∈ sliceTo (neighborsOf rows.itemSimilarity seed.entityId)
      args.maxCandidates := mem_sliceTo_of_le hpos.le hatMost.items hfound
  have hneighborId := FixtureRecall.pos_of_mem_neighborsOf hreads.normalized
    (FixtureRecall.mem_of_mem_sliceTo hmem)
  obtain ⟨row, hrow, hid⟩ : ∃ row ∈ rows.itemSimilarity, row.entityId = seed.entityId := by
    by_contra hnone
    rw [neighborsOf_of_not_mem (by simpa using hnone)] at hmem
    exact absurd (FixtureRecall.mem_of_mem_sliceTo hmem) List.not_mem_nil
  have hitemIds := hreads.itemSimilarity.nodup
  have hlookup : selection.itemSimilarityRows.lookup (seed.entityId : ℤ) = some row := by
    rw [lookup_itemSimilarityRows hselected hdata htrigger, ← hid]
    exact Keyed.lookup_eq_of_mem hitemIds (List.mem_map.mpr ⟨row, hrow, rfl⟩)
  rw [map_fst_byId] at hitemIds
  rw [← hid, neighborsOf_of_mem hitemIds hrow] at hmem
  have hcast : ((FixtureRecall.itemNeighbor found).itemId : ℤ) = found.neighborId :=
    Int.toNat_of_nonneg hneighborId.le
  rw [hcast]
  apply List.mem_append_left
  refine List.mem_flatMap.mpr ⟨data, hdata, List.mem_append_right _ ?_⟩
  obtain ⟨trigger, htrigger, htriggerId⟩ := List.mem_map.mp htrigger
  refine List.mem_flatMap.mpr ⟨trigger, htrigger, ?_⟩
  rw [htriggerId, hlookup]
  exact List.mem_map_of_mem hmem

/-- An item that a related user likes is related to the users chosen. -/
theorem related_of_liked (hselected : Selected args rows candidateRows selection) {userId : ℤ}
    (hrelated : userId ∈ collectRelatedUserIds selection.selected args.maxUserNeighbors)
    {profile : Profile} (hprofile : rows.profiles.lookup userId = some profile)
    {item : WeightedItem}
    (hitem : item ∈ profile.behaviors.recentLikedItems ++ profile.behaviors.likedItems
      ++ profile.behaviors.interestedItems)
    (hpositive : 0 < item.itemId) :
  item.itemId ∈ collectRelatedItemIds selection.selected
    (selection.profiles.filter
      (·.1 ∈ collectRelatedUserIds selection.selected args.maxUserNeighbors))
    selection.itemSimilarityRows args.maxCandidates
  := by
  have hwrittenProfile : (userId, profile) ∈ selection.profiles.filter
      (·.1 ∈ collectRelatedUserIds selection.selected args.maxUserNeighbors) := by
    refine List.mem_filter.mpr ⟨?_, decide_eq_true hrelated⟩
    rw [hselected.profiles]
    refine List.mem_filter.mpr ⟨Keyed.mem_of_lookup_eq hprofile, ?_⟩
    exact decide_eq_true (mem_required_of_mem_related hselected hrelated)
  apply List.mem_append_right
  refine List.mem_flatMap.mpr ⟨_, hwrittenProfile, ?_⟩
  apply List.mem_append_right
  have hids : item.itemId ∈ collectItemIdsFromWeightedItems
      (profile.behaviors.recentLikedItems ++ profile.behaviors.likedItems
        ++ profile.behaviors.interestedItems) :=
    List.mem_filter.mpr ⟨List.mem_map_of_mem hitem, decide_eq_true hpositive⟩
  simpa only [collectItemIdsFromWeightedItems, List.map_append, List.filter_append,
    List.flatMap_cons, List.flatMap_nil, List.append_nil, List.append_assoc] using hids

/-- The items that a request may find are related to the users chosen. -/
theorem related_of_mayFind (hreads : Reads library files rows)
    (hselected : Selected args rows candidateRows selection)
    (hwritten : Written args rows selection fixture) (hatMost : ReadsAtMost p request args)
    (hdata : data ∈ selection.selected) (huser : data.userId = request.userId) {profile : Profile}
    (hprofile : (rows.stores entryOf).findProfile request.userId = some profile) {itemId : ℕ}
    (h : p.MayFind (rows.stores entryOf) request profile itemId) :
  (itemId : ℤ) ∈ collectRelatedItemIds selection.selected
    (selection.profiles.filter
      (·.1 ∈ collectRelatedUserIds selection.selected args.maxUserNeighbors))
    selection.itemSimilarityRows args.maxCandidates
  := by
  cases h with
  | similar hseed hneighbor =>
      have htrigger := mem_triggerSeeds hselected hatMost hdata huser hprofile hseed
      exact related_of_similar hreads hselected hatMost hdata htrigger hneighbor _
  | liked hneighbor hfound hitem hpositive =>
      have hrelated := related_of_mem_similarUsers hreads hselected hwritten hatMost hdata huser
        hneighbor
      rw [Int.toNat_of_nonneg hpositive.le]
      exact related_of_liked hselected hrelated hfound hitem hpositive

/-- The stores of the source and of the fixture agree on what a request of a user chosen reads. -/
theorem sameFor_fixture (hreads : Reads library files rows)
    (h : main library args path files = .ok fixture)
    (huser : request.userId ∈ fixture.selectedUserIds) (hatMost : ReadsAtMost p request args) :
  p.SameFor (rows.stores entryOf) ((fixtureRows fixture).stores entryOf) request
  := by
  obtain ⟨selection, hselect, hwritten⟩ := exists_written hreads h
  obtain ⟨candidateRows, hselected⟩ := exists_selected hreads hselect
  obtain ⟨data, hdata, huserId⟩ := hwritten.selectedUserIds _ huser
  have hprofiles : ∀ userId ∈ collectRelatedUserIds selection.selected args.maxUserNeighbors,
      rows.profiles.lookup userId = fixture.profiles.lookup userId :=
    fun userId hrelated =>
      (lookup_profiles hselected hwritten hreads.profiles.nodup hrelated).symm
  constructor
  case profile =>
    apply hprofiles
    exact List.mem_flatMap.mpr ⟨data, hdata, huserId ▸ List.mem_cons_self⟩
  case items =>
    intro profile hprofile seed hseed
    apply findNeighborsByItemId_congr
    symm
    apply neighborsOf_itemSimilarity hselected hwritten hreads.itemSimilarity.nodup hdata
    exact mem_triggerSeeds hselected hatMost hdata huserId hprofile hseed
  case users =>
    have hpos := p.userCfOptions.triggerSeedUserCount_pos
    change (userStore rows.userSimilarity).findNeighborsByUserId request.userId.toNat _
      = (userStore fixture.userSimilarity).findNeighborsByUserId request.userId.toNat _
    by_cases hid : request.userId.toNat = 0
    · rw [LocalFileUserSimilarityStore.findNeighborsByUserId, if_pos (Or.inl hid),
        LocalFileUserSimilarityStore.findNeighborsByUserId, if_pos (Or.inl hid)]
    · have hcast : ((request.userId.toNat : ℕ) : ℤ) = data.userId := by omega
      obtain ⟨hsource, hfixture⟩ :=
        neighborsOf_userSimilarity hselected hwritten hreads.userIds hdata
      rw [FixtureRecall.findNeighborsByUserId_userStore _ hid hpos,
        FixtureRecall.findNeighborsByUserId_userStore _ hid hpos, hcast, hsource, hfixture,
        sliceTo_sliceTo _ hpos.le hatMost.users]
  case profiles =>
    intro neighbor hneighbor
    exact hprofiles _ (related_of_mem_similarUsers hreads hselected hwritten hatMost hdata huserId
      hneighbor)
  case entries =>
    intro profile hprofile itemId hfind
    have hrelated := related_of_mayFind hreads hselected hwritten hatMost hdata huserId hprofile
      hfind
    have hlookup := lookup_itemIndex hwritten hreads.itemIndex.nodup hrelated
    exact congrArg (fun found => found.bind entryOf) hlookup.symm

/-- The services answer the requests of the users of a fixture over the stores loaded from it as
over those loaded from the source, whichever calls fail. -/
theorem recommend_fixture {documents : SimilarityDocuments} (hreads : Reads library files rows)
    (hdocuments : HoldsDocuments library files rows documents)
    (h : main library args path files = .ok fixture)
    (huser : request.userId ∈ fixture.selectedUserIds) (hatMost : ReadsAtMost p request args)
    (entryOf : Json → Option ItemIndexEntry) (readers : NumberReaders) :
  ∃ source served : Stores, rows.load entryOf readers documents = .ok source
    ∧ (fixtureRows fixture).load entryOf readers (fixtureDocuments fixture) = .ok served
    ∧ (p.onStores served).recommend request = (p.onStores source).recommend request
  := by
  obtain ⟨selection, hselect, hwritten⟩ := exists_written hreads h
  obtain ⟨candidateRows, hselected⟩ := exists_selected hreads hselect
  refine ⟨_, _, hdocuments.lists.load_eq entryOf readers,
    (lists_fixtureDocuments hselected hwritten hdocuments.lists).load_eq entryOf readers, ?_⟩
  exact (p.recommend_onStores_congr (sameFor_fixture hreads h huser hatMost)).symm

end Request

/-! ### A small fixture -/

/-- A profile of a user who likes one item. -/
def likedProfile (userId itemId : ℤ) : Profile :=
  { userId := userId, behaviors := { likedItems := [⟨itemId, 1⟩] } }

/-- The profiles of users 1, 2 and 4 in the order of their lines. -/
def profileLines : List (String × ℤ × Profile) := [
  ("\x7b\"user_id\":1,\"behaviors\":\x7b\"liked_items\":[\x7b\"item_id\":5,\"weight\":1.0\x7d]\x7d\x7d",
    1, likedProfile 1 5),
  ("\x7b\"user_id\":2,\"behaviors\":\x7b\"liked_items\":[\x7b\"item_id\":7,\"weight\":1.0\x7d]\x7d\x7d",
    2, likedProfile 2 7),
  ("\x7b\"user_id\":4,\"behaviors\":\x7b\"liked_items\":[\x7b\"item_id\":9,\"weight\":1.0\x7d]\x7d\x7d",
    4, likedProfile 4 9)]

/-- User 2 is similar to user 1. -/
def userLines : List (String × SimilarityRow) := [
  ("\x7b\"user_id\":1,\"neighbors\":[\x7b\"user_id\":2,\"score\":1.0\x7d]\x7d", ⟨1, [⟨2, 1⟩]⟩)]

/-- Item 6 is similar to item 5, and item 7 to item 9. -/
def itemLines : List (String × SimilarityRow) := [
  ("\x7b\"item_id\":5,\"neighbors\":[\x7b\"item_id\":6,\"score\":1.0\x7d]\x7d", ⟨5, [⟨6, 1⟩]⟩),
  ("\x7b\"item_id\":9,\"neighbors\":[\x7b\"item_id\":7,\"score\":1.0\x7d]\x7d", ⟨9, [⟨7, 1⟩]⟩)]

/-- The index has items 6, 7 and 9. -/
def indexLines : List (String × ℤ) := [
  ("\x7b\"item_id\":6\x7d", 6), ("\x7b\"item_id\":7\x7d", 7), ("\x7b\"item_id\":9\x7d", 9)]

/-- A reader of these lines. -/
def smallLibrary : Library where
  readers := { int := fun s => .error s, float := fun s => .error s, stod := fun _ => none }
  loads line :=
    match userLines.lookup line, itemLines.lookup line, indexLines.lookup line with
    | some row, _, _ => .ok (rowToJsonl row "user_id")
    | _, some row, _ => .ok (rowToJsonl row "item_id")
    | _, _, some itemId => .ok (.object [("item_id", .int itemId)])
    | _, _, _ => .error "Expecting value"
  loadsProfile line :=
    match profileLines.lookup line with
    | some entry => .ok entry.2
    | none => .error "Expecting value"
  deterministicRank userId := userId.toNat

/-- The source files of these lines. -/
def smallFiles : SourceFiles where
  itemIndex := indexLines.map Prod.fst
  itemSimilarity := itemLines.map Prod.fst
  userProfiles := profileLines.map Prod.fst
  userSimilarity := userLines.map Prod.fst

/-- The rows of these lines. -/
def smallRows : Rows where
  profiles := profileLines.map Prod.snd
  userSimilarity := userLines.map Prod.snd
  itemSimilarity := itemLines.map Prod.snd
  itemIndex := indexLines.map fun line => (line.2, .object [("item_id", .int line.2)])

theorem reads_smallFiles :
  Reads smallLibrary smallFiles smallRows
  := by
  have hfilled : (smallFiles.userSimilarity.filter fun line =>
      Text.strip OfflineDataProcessing.isSpace line ≠ "") = userLines.map Prod.fst := by
    decide +kernel
  have hstrip : ∀ line ∈ userLines.map Prod.fst,
      Text.strip OfflineDataProcessing.isSpace line = line := by decide +kernel
  constructor
  case profiles =>
    refine ⟨?_, by decide +kernel⟩
    refine .cons ⟨by decide +kernel, by decide +kernel⟩ (.cons ⟨by decide +kernel, by decide +kernel⟩
      (.cons ⟨by decide +kernel, by decide +kernel⟩ .nil))
  case userSimilarity =>
    rw [ReadsRows, hfilled]
    refine .cons ?_ .nil
    rw [hstrip _ List.mem_cons_self]
    exact ⟨rowToJsonl ⟨1, [⟨2, 1⟩]⟩ "user_id", rfl, by decide +kernel⟩
  case userIds => decide +kernel
  case itemSimilarity =>
    refine ⟨?_, by decide +kernel⟩
    exact .cons ⟨by decide +kernel, by decide +kernel⟩
      (.cons ⟨by decide +kernel, by decide +kernel⟩ .nil)
  case itemIndex =>
    refine ⟨?_, by decide +kernel⟩
    exact .cons ⟨by decide +kernel, rfl⟩ (.cons ⟨by decide +kernel, rfl⟩
      (.cons ⟨by decide +kernel, rfl⟩ .nil))

/-- The entry of an item of the index. -/
def smallEntryOf : Json → Option ItemIndexEntry
  | .object [("item_id", .int itemId)] => some { itemId := itemId.toNat }
  | _ => none

/-- One user is asked for. -/
def smallArgs : Args where
  targetUserCount := 1
  candidatePoolSize := 0

/-- The documents on the lines of the similarity files. -/
def smallDocuments : SimilarityDocuments where
  users := userLines.map fun line => rowToJsonl line.2 "user_id"
  items := itemLines.map fun line => rowToJsonl line.2 "item_id"

theorem holdsDocuments_smallFiles :
  HoldsDocuments smallLibrary smallFiles smallRows smallDocuments
  := by
  constructor
  case users => exact .cons rfl .nil
  case items => exact .cons rfl (.cons rfl .nil)
  case lists =>
    constructor
    case users => exact .cons (isRow_rowToJsonl _ (by decide) (by decide)) .nil
    case items =>
      exact .cons (isRow_rowToJsonl _ (by decide) (by decide))
        (.cons (isRow_rowToJsonl _ (by decide) (by decide)) .nil)
    case usersInRange =>
      intro row hrow
      constructor <;> revert row <;> decide +kernel
    case itemsInRange =>
      intro row hrow
      constructor <;> revert row <;> decide +kernel

/-- The fixture is of user 1, who is recommended items 7 and 6 from it. -/
theorem recommend_fixture_smallFiles :
  ∃ (fixture : Fixture) (source served : Stores),
    main smallLibrary smallArgs "users" smallFiles = .ok fixture
    ∧ fixture.itemIndex.map Prod.fst = [6, 7]
    ∧ smallRows.load smallEntryOf smallLibrary.readers smallDocuments = .ok source
    ∧ (fixtureRows fixture).load smallEntryOf smallLibrary.readers (fixtureDocuments fixture)
      = .ok served
    ∧ (Pipeline.newUser.onStores served).recommend { userId := 1, maxResults := 10 }
      = (Pipeline.newUser.onStores source).recommend { userId := 1, maxResults := 10 }
    ∧ ((Pipeline.newUser.onStores source).recommend
        { userId := 1, maxResults := 10 }).2.candidates.map (·.itemId) = [7, 6]
  := by
  have husers : (main smallLibrary smallArgs "users" smallFiles).toOption.map
      (fun fixture => (fixture.selectedUserIds, fixture.itemIndex.map Prod.fst))
        = some ([1], [6, 7]) := by
    decide +kernel
  cases hmain : main smallLibrary smallArgs "users" smallFiles with
  | error message =>
      rw [hmain] at husers
      cases husers
  | ok fixture =>
      rw [hmain] at husers
      obtain ⟨hselected, hindex⟩ := Prod.mk.inj (Option.some.inj husers)
      have hatMost : ReadsAtMost Pipeline.newUser { userId := 1, maxResults := 10 } smallArgs :=
        ⟨by decide +kernel, by decide +kernel, by decide +kernel⟩
      have huser : (1 : ℤ) ∈ fixture.selectedUserIds := by
        rw [hselected]
        exact List.mem_cons_self
      obtain ⟨source, served, hsource, hserved, hsame⟩ := recommend_fixture reads_smallFiles
        holdsDocuments_smallFiles hmain huser hatMost smallEntryOf smallLibrary.readers
      refine ⟨fixture, source, served, rfl, hindex, hsource, hserved, hsame, ?_⟩
      obtain rfl : source = smallRows.stores smallEntryOf :=
        Except.ok.inj (hsource.symm.trans (holdsDocuments_smallFiles.lists.load_eq _ _))
      decide +kernel

end FixtureLocality

end RecommendationEngine
