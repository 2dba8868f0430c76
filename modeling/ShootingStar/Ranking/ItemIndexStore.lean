import ShootingStar.Offline.ItemIndexBuilder
import ShootingStar.Ranking.HeuristicRanker
import ShootingStar.Utilities.JsonFields

/-!
# Entries of the item index

An entry is read from the fields of a JSON object.  The identifier of the item is required, and what
else is missing is read as zero or as the empty text.
-/

namespace RecommendationEngine

open JsonParser
open Outcome (InMessages inMessages_const inMessages_error)
open OfflineDataProcessing (IndexItem MovieTag ItemRating ItemSearch ItemLinks
  ItemIndexBuilder MovieRow LinkRow RatingRow TagRow asciiText)

/-- The texts that an item is searched by. -/
structure ItemIndexSearchFields where
  tagText : String := ""
  allText : String := ""
  deriving DecidableEq, Repr

/-- The identifiers of an item elsewhere. -/
structure ItemIndexExternalIds where
  imdbId : String := ""
  tmdbId : ℤ := 0
  deriving DecidableEq, Repr

/-- An entry with the fields that the ranker does not read. -/
structure FullItemIndexEntry extends ItemIndexEntry where
  titleRaw : String := ""
  titleNorm : String := ""
  tagCount : ℤ := 0
  uniqueTagCount : ℤ := 0
  search : ItemIndexSearchFields := {}
  ext : ItemIndexExternalIds := {}
  deriving DecidableEq, Repr

namespace ItemIndexStore

/-! ### Reading entries -/

/-- A tag of an item. -/
def readTopTag (readers : ValueReaders) (value : Json) (context : String) :
    Reading ItemIndexWeightedTag := do
  let tagFields ← readStructValue value context
  let tag ← readOptionalString tagFields "tag" context
  let weight ← readOptionalDouble readers tagFields "weight" context
  pure { tag := tag, weight := weight }

/-- The tags of an item, none when they are missing. -/
def readOptionalTopTags (readers : ValueReaders) (fields : List (String × Json))
    (context : String) : Reading (List ItemIndexWeightedTag) :=
  readOptionalList (readTopTag readers) fields "top_tags" context

/-- The fields of an object that may be missing. -/
def readOptionalFields {α : Type} (read : List (String × Json) → String → Reading α) (missing : α)
    (fields : List (String × Json)) (fieldName context : String) : Reading α := do
  match ← readOptionalStruct fields fieldName context with
  | none => pure missing
  | some inner => read inner (context ++ "." ++ fieldName)

/-- The top tags and the two counts of tags. -/
def readTags (readers : ValueReaders) (fields : List (String × Json)) (context : String) :
    Reading (List ItemIndexWeightedTag × ℤ × ℤ) := do
  let topTags ← readOptionalTopTags readers fields context
  let tagCount ← readOptionalInt readers fields "tag_count" context
  let uniqueTagCount ← readOptionalInt readers fields "unique_tag_count" context
  pure (topTags, tagCount, uniqueTagCount)

/-- The ratings of an item. -/
def readRating (readers : ValueReaders) (fields : List (String × Json)) (context : String) :
    Reading ItemIndexRating := do
  let avg ← readOptionalDouble readers fields "avg" context
  let count ← readOptionalInt readers fields "count" context
  pure { avg := avg, count := count }

/-- The search texts of an item. -/
def readSearch (fields : List (String × Json)) (context : String) :
    Reading ItemIndexSearchFields := do
  let tagText ← readOptionalString fields "tag_text" context
  let allText ← readOptionalString fields "all_text" context
  pure { tagText := tagText, allText := allText }

/-- The identifiers of an item elsewhere. -/
def readExt (readers : ValueReaders) (fields : List (String × Json)) (context : String) :
    Reading ItemIndexExternalIds := do
  let imdbId ← readOptionalString fields "imdb_id" context
  let tmdbId ← readOptionalInt64 readers fields "tmdb_id" context
  pure { imdbId := imdbId, tmdbId := tmdbId }

/-- The entry of a JSON object, whose identifier must be positive. -/
def parseEntryFromJsonObject (readers : ValueReaders) (fields : List (String × Json))
    (context : String) : Reading FullItemIndexEntry := do
  let itemId ← readRequiredUint64 readers fields "item_id" context
  if itemId = 0 then .error (context ++ ".item_id must be positive") else
  let title ← readOptionalString fields "title" context
  let titleRaw ← readOptionalString fields "title_raw" context
  let titleNorm ← readOptionalString fields "title_norm" context
  let year ← readOptionalInt readers fields "year" context
  let genres ← readOptionalStringList fields "genres" context
  let (topTags, tagCount, uniqueTagCount) ←
    readOptionalFields (readTags readers) ([], 0, 0) fields "tags" context
  let rating ← readOptionalFields (readRating readers) {} fields "rating" context
  let search ← readOptionalFields readSearch {} fields "search" context
  let ext ← readOptionalFields (readExt readers) {} fields "ext" context
  pure
    { itemId := itemId
      title := title
      year := year
      genres := genres
      topTags := topTags
      rating := rating
      titleRaw := titleRaw
      titleNorm := titleNorm
      tagCount := tagCount
      uniqueTagCount := uniqueTagCount
      search := search
      ext := ext }

/-! ### Contexts -/

theorem inMessages_readTopTag (readers : ValueReaders) (value : Json) :
  InMessages (readTopTag readers value)
  := by
  apply (inMessages_readKind _ _ value).bind
  intro tagFields
  apply (inMessages_readOptional (inMessages_readKind _ _) _ _ _).bind
  intro tag
  apply (inMessages_readOptional (inMessages_readDoubleValue readers) _ _ _).bind
  intro weight
  exact inMessages_const _

theorem inMessages_readOptionalFields {α : Type}
    {read : List (String × Json) → String → Reading α} (h : ∀ inner, InMessages (read inner))
    (missing : α) (fields : List (String × Json)) (fieldName : String) :
  InMessages (readOptionalFields read missing fields fieldName)
  := by
  apply InMessages.bind
  · apply inMessages_readOptional
    intro value
    exact (inMessages_readKind _ _ value).map some
  · intro inner
    cases inner with
    | none => exact inMessages_const _
    | some inner => exact (h inner).comp _

theorem inMessages_readTags (readers : ValueReaders) (fields : List (String × Json)) :
  InMessages (readTags readers fields)
  := by
  apply (inMessages_readOptionalList (inMessages_readTopTag readers) _ _).bind
  intro topTags
  apply (inMessages_readOptional (inMessages_readIntValue readers) _ _ _).bind
  intro tagCount
  apply (inMessages_readOptional (inMessages_readIntValue readers) _ _ _).bind
  intro uniqueTagCount
  exact inMessages_const _

theorem inMessages_readRating (readers : ValueReaders) (fields : List (String × Json)) :
  InMessages (readRating readers fields)
  := by
  apply (inMessages_readOptional (inMessages_readDoubleValue readers) _ _ _).bind
  intro avg
  apply (inMessages_readOptional (inMessages_readIntValue readers) _ _ _).bind
  intro count
  exact inMessages_const _

theorem inMessages_readSearch (fields : List (String × Json)) :
  InMessages (readSearch fields)
  := by
  apply (inMessages_readOptional (inMessages_readKind _ _) _ _ _).bind
  intro tagText
  apply (inMessages_readOptional (inMessages_readKind _ _) _ _ _).bind
  intro allText
  exact inMessages_const _

theorem inMessages_readExt (readers : ValueReaders) (fields : List (String × Json)) :
  InMessages (readExt readers fields)
  := by
  apply (inMessages_readOptional (inMessages_readKind _ _) _ _ _).bind
  intro imdbId
  apply (inMessages_readOptional (inMessages_readInt64 readers) _ _ _).bind
  intro tmdbId
  exact inMessages_const _

/-- An entry does not depend on the context it is read in. -/
theorem inMessages_parseEntryFromJsonObject (readers : ValueReaders)
    (fields : List (String × Json)) :
  InMessages (parseEntryFromJsonObject readers fields)
  := by
  apply (inMessages_readRequiredUint64 readers fields "item_id").bind
  intro itemId
  split
  · exact inMessages_error _
  apply (inMessages_readOptional (inMessages_readKind _ _) _ _ _).bind
  intro title
  apply (inMessages_readOptional (inMessages_readKind _ _) _ _ _).bind
  intro titleRaw
  apply (inMessages_readOptional (inMessages_readKind _ _) _ _ _).bind
  intro titleNorm
  apply (inMessages_readOptional (inMessages_readIntValue readers) _ _ _).bind
  intro year
  apply (inMessages_readOptionalList (inMessages_readKind _ _) _ _).bind
  intro genres
  apply (inMessages_readOptionalFields (inMessages_readTags readers) _ _ _).bind
  intro tags
  apply (inMessages_readOptionalFields (inMessages_readRating readers) _ _ _).bind
  intro rating
  apply (inMessages_readOptionalFields inMessages_readSearch _ _ _).bind
  intro search
  apply (inMessages_readOptionalFields (inMessages_readExt readers) _ _ _).bind
  intro ext
  exact inMessages_const _

/-! ### Items that are read back -/

/-- The numbers of an item that fit into the fields of an entry. -/
structure InRange (item : IndexItem) : Prop where
  itemId_pos : 1 ≤ item.itemId
  itemId_le : item.itemId ≤ 2 ^ 53
  tagCount_le : item.tagCount ≤ maxInt
  uniqueTagCount_le : item.uniqueTagCount ≤ maxInt
  ratingCount_le : item.rating.count ≤ maxInt
  tmdbId_le : ∀ n ∈ item.ext.tmdbId, n.natAbs ≤ 2 ^ 53

/-- The tag of an entry. -/
def weightedTag (t : MovieTag ℚ) : ItemIndexWeightedTag where
  tag := t.tag
  weight := t.weight

/-- The entry of an item, where what is missing is zero or the empty text. -/
def entry (item : IndexItem) : FullItemIndexEntry where
  itemId := item.itemId.toNat
  title := item.title
  titleRaw := item.titleRaw
  titleNorm := item.titleNorm
  year := item.year.getD 0
  genres := item.genres
  topTags := item.topTags.map weightedTag
  tagCount := item.tagCount
  uniqueTagCount := item.uniqueTagCount
  rating := { avg := item.rating.avg.getD 0, count := item.rating.count }
  search := { tagText := item.search.tagText, allText := item.search.allText }
  ext := { imdbId := item.ext.imdbId.getD "", tmdbId := item.ext.tmdbId.getD 0 }

theorem readTopTag_document (readers : ValueReaders) (t : MovieTag ℚ) (context : String) :
  readTopTag readers t.document context = pure (weightedTag t)
  := by
  have hfields : readStructValue t.document context
      = pure [("tag", .text t.tag), ("weight", .float t.weight)] := rfl
  rw [readTopTag, hfields, pure_bind, @readOptionalString_ofOption _ _ (some t.tag) rfl, pure_bind,
    @readOptionalDouble_ofOption _ _ readers (some t.weight) rfl, pure_bind]
  rfl

/-- The fields of an object that is there are read. -/
theorem readOptionalFields_object {α : Type} {read : List (String × Json) → String → Reading α}
    {missing : α} {fields inner : List (String × Json)} {fieldName : String}
    (h : findField fields fieldName = some (.object inner)) (context : String) :
  readOptionalFields read missing fields fieldName context
    = read inner (context ++ "." ++ fieldName)
  := by
  rw [readOptionalFields, readOptionalStruct_object h, pure_bind]

section Documents

variable {fields : List (String × Json)} {fieldName : String}

theorem readTags_document (readers : ValueReaders) {item : IndexItem} (hrange : InRange item)
    (h : findField fields fieldName = some item.tagsDocument) (context : String) :
  readOptionalFields (readTags readers) ([], 0, 0) fields fieldName context
    = pure (item.topTags.map weightedTag, (item.tagCount : ℤ), (item.uniqueTagCount : ℤ))
  := by
  rw [readOptionalFields_object h, readTags, readOptionalTopTags,
    readOptionalList_map rfl (readTopTag_document readers), pure_bind,
    readOptionalInt_natCast readers rfl hrange.tagCount_le, pure_bind,
    readOptionalInt_natCast readers rfl hrange.uniqueTagCount_le, pure_bind]

theorem readRating_document (readers : ValueReaders) {rating : ItemRating}
    (hle : rating.count ≤ maxInt) (h : findField fields fieldName = some rating.document)
    (context : String) :
  readOptionalFields (readRating readers) {} fields fieldName context
    = pure { avg := rating.avg.getD 0, count := rating.count }
  := by
  rw [readOptionalFields_object h, readRating, readOptionalDouble_ofOption readers rfl, pure_bind,
    readOptionalInt_natCast readers rfl hle, pure_bind]

theorem readSearch_document {search : ItemSearch}
    (h : findField fields fieldName = some search.document) (context : String) :
  readOptionalFields readSearch {} fields fieldName context
    = pure { tagText := search.tagText, allText := search.allText }
  := by
  rw [readOptionalFields_object h, readSearch,
    @readOptionalString_ofOption _ _ (some search.tagText) rfl, pure_bind,
    @readOptionalString_ofOption _ _ (some search.allText) rfl, pure_bind]
  rfl

theorem readExt_document (readers : ValueReaders) {links : ItemLinks} (hle : ∀ n ∈ links.tmdbId, n.natAbs ≤ 2 ^ 53)
    (h : findField fields fieldName = some links.document) (context : String) :
  readOptionalFields (readExt readers) {} fields fieldName context
    = pure { imdbId := links.imdbId.getD "", tmdbId := links.tmdbId.getD 0 }
  := by
  rw [readOptionalFields_object h, readExt, readOptionalString_ofOption rfl, pure_bind,
    readOptionalInt64_ofOption readers rfl hle, pure_bind]

end Documents

/-- The document of a movie is read back as its entry. -/
theorem parseEntryFromJsonObject_document (b : ItemIndexBuilder) {movies : List MovieRow}
    {links : List LinkRow} {ratings : List (RatingRow ℚ)} {tags : List TagRow} {item : IndexItem}
    (hitem : item ∈ b.buildItems movies links ratings tags) (hrange : InRange item)
    (readers : ValueReaders) (context : String) :
  parseEntryFromJsonObject readers item.document context = pure (entry item)
  := by
  have hpos : 1 ≤ item.itemId := hrange.itemId_pos
  have hitemId : readRequiredUint64 readers item.document "item_id" context
      = pure item.itemId.toNat :=
    readUint64_int readers (by omega) hrange.itemId_le (context ++ "." ++ "item_id")
  have hyear : ∀ year ∈ item.year, minInt ≤ year ∧ year ≤ maxInt := by
    intro year hyear
    obtain ⟨hlow, hhigh⟩ := b.lt_of_mem_year hitem hyear
    rw [minInt, maxInt]
    constructor <;> omega
  rw [parseEntryFromJsonObject, hitemId, pure_bind, if_neg (by omega),
    @readOptionalString_ofOption _ _ (some item.title) rfl, pure_bind,
    @readOptionalString_ofOption _ _ (some item.titleRaw) rfl, pure_bind,
    @readOptionalString_ofOption _ _ (some item.titleNorm) rfl, pure_bind,
    readOptionalInt_ofOption readers rfl hyear, pure_bind,
    readOptionalStringList_text rfl, pure_bind,
    readTags_document readers hrange rfl, pure_bind,
    readRating_document readers hrange.ratingCount_le rfl, readSearch_document rfl,
    readExt_document readers hrange.tmdbId_le rfl]
  rfl

/-- The item of a movie with a rating, a tag of a user and one link. -/
def matrixItem : IndexItem where
  itemId := 1
  title := "The Matrix"
  titleRaw := "Matrix, The (1999)"
  titleNorm := "the matrix"
  year := some 1999
  genres := ["Action", "Sci-Fi"]
  topTags := [{ tag := "cyber punk", weight := 1 }]
  tagCount := 2
  uniqueTagCount := 1
  rating := { avg := some (9 / 2), count := 1 }
  search := { tagText := "cyber punk", allText := "the matrix action sci fi cyber punk" }
  ext := { imdbId := some "tt0133093", tmdbId := none }

theorem parseEntryFromJsonObject_matrix :
  matrixItem ∈ ItemIndexBuilder.buildItems { text := asciiText, log := fun _ => 0 }
      [⟨1, "Matrix, The (1999)", "Action|Sci-Fi"⟩, ⟨2, "Heat", ""⟩] [⟨1, "133093", " x"⟩]
      [⟨5, 1, 9 / 2, 0⟩] [⟨"5", 1, " Cyber  Punk "⟩, ⟨" ", 1, "neo"⟩]
    ∧ InRange matrixItem
    ∧ parseEntryFromJsonObject ⟨fun _ => none, fun _ => 0⟩ matrixItem.document "JSONL line 1"
      = pure
        { itemId := 1
          title := "The Matrix"
          titleRaw := "Matrix, The (1999)"
          titleNorm := "the matrix"
          year := 1999
          genres := ["Action", "Sci-Fi"]
          topTags := [{ tag := "cyber punk", weight := 1 }]
          tagCount := 2
          uniqueTagCount := 1
          rating := { avg := 9 / 2, count := 1 }
          search := { tagText := "cyber punk", allText := "the matrix action sci fi cyber punk" }
          ext := { imdbId := "tt0133093", tmdbId := 0 } }
  := by
  have hitem : matrixItem ∈ ItemIndexBuilder.buildItems { text := asciiText, log := fun _ => 0 }
      [⟨1, "Matrix, The (1999)", "Action|Sci-Fi"⟩, ⟨2, "Heat", ""⟩] [⟨1, "133093", " x"⟩]
      [⟨5, 1, 9 / 2, 0⟩] [⟨"5", 1, " Cyber  Punk "⟩, ⟨" ", 1, "neo"⟩] := by
    decide +kernel
  have hrange : InRange matrixItem := by
    refine ⟨?_, ?_, ?_, ?_, ?_, ?_⟩ <;> decide
  exact ⟨hitem, hrange, parseEntryFromJsonObject_document _ hitem hrange _ _⟩

end ItemIndexStore

end RecommendationEngine
