import ShootingStar.Ranking.ItemIndexStore
import ShootingStar.Utilities.LocalProfileLoader

/-!
# The item index of a local file

A file holds the items as an array or as one object on each line, which is told by its first byte that
is no blank.  The items are read into a map of their own, which replaces the entries of the store when
all of them have been read.  Both forms of a file give the same entries.
-/

namespace RecommendationEngine

open JsonParser (ValueReaders Reading)
open LocalFile (LoadResult UserIdProfileMap FirstFailure isFilled isBlank newline
  loadProfilesFromJsonlFile)

/-- The JSON library: how a text becomes an object and a value, with the text of the status when it
does not. -/
structure JsonLibrary where
  jsonStringToStruct : List UInt8 → Except String (List (String × Json))
  jsonStringToValue : List UInt8 → Except String Json

namespace JsonLibrary

/-- The JSON object of a text. -/
def parseObject (library : JsonLibrary) (json : List UInt8) (context : String) :
    Reading (List (String × Json)) :=
  (library.jsonStringToStruct json).mapError fun status =>
    context ++ " is not valid JSON object: " ++ status

/-- The JSON value of a text. -/
def parseValue (library : JsonLibrary) (json : List UInt8) (context : String) : Reading Json :=
  (library.jsonStringToValue json).mapError fun status =>
    context ++ " is not valid JSON value: " ++ status

end JsonLibrary

/-- The entries by their identifiers. -/
abbrev ItemIdIndexEntryMap := List (ℕ × FullItemIndexEntry)

/-- The entries that have been loaded. -/
structure LocalFileItemIndexStore where
  entries : ItemIdIndexEntryMap := []

namespace LocalFileItemIndexStore

/-- The entry of an item. -/
def findByItemId (store : LocalFileItemIndexStore) (itemId : ℕ) : Option FullItemIndexEntry :=
  store.entries.lookup itemId

/-! ### Loading -/

/-- The first byte that is no blank, or a null byte. -/
def firstNonBlankChar (content : List UInt8) : UInt8 :=
  (content.find? isFilled).getD 0

/-- The entries with one more, which replaces one of the same item. -/
def addEntry (loadedEntries : ItemIdIndexEntryMap) (entry : FullItemIndexEntry) :
    ItemIdIndexEntryMap :=
  Keyed.upsert entry.itemId (fun _ => entry) loadedEntries

section Loading

variable (library : JsonLibrary) (readers : ValueReaders)

/-- The entry of the text of an object. -/
def parseEntryFromJsonString (itemIndexJson : List UInt8) (context : String) :
    Reading FullItemIndexEntry := do
  let object ← library.parseObject itemIndexJson context
  ItemIndexStore.parseEntryFromJsonObject readers object context

/-- The entries of a file of lines. -/
def parseJsonlContent (content : List UInt8) : Reading ItemIdIndexEntryMap :=
  Lines.forLines isFilled newline
    (fun loadedEntries line lineNumber => do
      let entry ←
        parseEntryFromJsonString library readers line ("JSONL line " ++ toString lineNumber)
      pure (addEntry loadedEntries entry))
    content []

/-- The entry of an element of an array. -/
def parseElement (value : Json) (i : ℕ) : Reading FullItemIndexEntry :=
  match value with
  | .object fields =>
    ItemIndexStore.parseEntryFromJsonObject readers fields ("JSON array item " ++ toString i)
  | _ => .error ("JSON array item " ++ toString i ++ " must be an object.")

/-- The elements of an array with their positions. -/
def parseElements (values : List Json) : Reading ItemIdIndexEntryMap :=
  values.zipIdx.foldlM
    (fun loadedEntries value => do
      let entry ← parseElement readers value.1 value.2
      pure (addEntry loadedEntries entry))
    []

/-- The entries of a file of one array. -/
def parseJsonArrayContent (content : List UInt8) : Reading ItemIdIndexEntryMap := do
  let root ← library.parseValue content "JSON array file"
  match root with
  | .array values => parseElements readers values
  | _ => .error "Item index JSON file must be an array or JSONL."

/-- The entries of a file. -/
def parseContent (content : List UInt8) : Reading ItemIdIndexEntryMap :=
  if firstNonBlankChar content = 0 then .ok []
  else if firstNonBlankChar content = '['.toUInt8 then parseJsonArrayContent library readers content
  else parseJsonlContent library readers content

/-- The load of a file, where `files` holds the contents of the files that can be opened. -/
def loadFromFile (files : String → Option (List UInt8)) (filePath : String)
    (errorMsg : Option String) (store : LocalFileItemIndexStore) :
    LoadResult LocalFileItemIndexStore :=
  match files filePath with
  | none =>
    .failed errorMsg
      ("LocalFileItemIndexStore::LoadFromFile failed: cannot open file " ++ filePath) store
  | some content =>
    match parseContent library readers content with
    | .error what =>
      .failed errorMsg ("LocalFileItemIndexStore::LoadFromFile failed: " ++ what) store
    | .ok loadedEntries =>
      { success := true, errorMsg := errorMsg, loaded := { entries := loadedEntries } }

variable {library readers}

/-- A load that fails keeps the store. -/
theorem loaded_loadFromFile {files : String → Option (List UInt8)} {filePath : String}
    {errorMsg : Option String} {store : LocalFileItemIndexStore}
    (h : (loadFromFile library readers files filePath errorMsg store).success = false) :
  (loadFromFile library readers files filePath errorMsg store).loaded = store
  := by
  rw [loadFromFile.eq_def] at h ⊢
  split at h
  · rfl
  · split at h
    · rfl
    · cases h

/-! ### Outcomes -/

variable (library readers)

/-- The entry of an object, or nothing when it is refused. -/
def entryOf (fields : List (String × Json)) : Option FullItemIndexEntry :=
  (ItemIndexStore.parseEntryFromJsonObject readers fields "").toOption

/-- The object that a text stands for, or nothing when the text is refused. -/
def objectOf (text : List UInt8) : Option (List (String × Json)) :=
  (library.jsonStringToStruct text).toOption

/-- The entries of a list, where the last one with an identifier counts. -/
def collectEntries (entries : List FullItemIndexEntry) : ItemIdIndexEntryMap :=
  entries.foldl addEntry []

variable {library readers}

theorem toOption_parseEntryFromJsonObject (fields : List (String × Json)) (context : String) :
  (ItemIndexStore.parseEntryFromJsonObject readers fields context).toOption = entryOf readers fields
  := ItemIndexStore.inMessages_parseEntryFromJsonObject readers fields context ""

theorem toOption_parseEntryFromJsonString (text : List UInt8) (context : String) :
  (parseEntryFromJsonString library readers text context).toOption
    = (objectOf library text).bind (entryOf readers)
  := by
  rw [parseEntryFromJsonString, Outcome.toOption_bind, JsonLibrary.parseObject,
    Outcome.toOption_mapError, objectOf]
  congr 1
  funext fields
  exact toOption_parseEntryFromJsonObject fields context

/-- The lines of a text are read one by one. -/
theorem toOption_parseJsonlContent (content : List UInt8) :
  (parseJsonlContent library readers content).toOption
    = (((Lines.filled isFilled newline content).map Prod.fst).mapM fun line =>
        (objectOf library line).bind (entryOf readers)).map collectEntries
  := by
  rw [parseJsonlContent, Lines.forLines_eq, Outcome.toOption_foldlM, List.mapM_map]
  simp only [toOption_parseEntryFromJsonString]
  rfl

theorem toOption_parseElement (value : Json) (i : ℕ) :
  (parseElement readers value i).toOption = (parseElement readers value 0).toOption
  := by
  cases value with
  | object fields =>
      exact ItemIndexStore.inMessages_parseEntryFromJsonObject readers fields _ _
  | _ => rfl

/-- The objects of an array are read one by one. -/
theorem toOption_parseElements (objects : List (List (String × Json))) :
  (parseElements readers (objects.map .object)).toOption
    = (objects.mapM (entryOf readers)).map collectEntries
  := by
  have helement : ∀ value : Json × ℕ, (parseElement readers value.1 value.2).toOption
      = (parseElement readers value.1 0).toOption := fun value => toOption_parseElement _ _
  have hpositions : ((objects.map Json.object).zipIdx.mapM fun value =>
        (parseElement readers value.1 0).toOption)
      = ((objects.map Json.object).zipIdx.map Prod.fst).mapM fun value =>
        (parseElement readers value 0).toOption := by
    rw [List.mapM_map]
    rfl
  rw [parseElements, Outcome.toOption_foldlM, funext helement, hpositions, List.zipIdx_map_fst,
    List.mapM_map]
  congr 2
  funext fields
  exact toOption_parseEntryFromJsonObject fields _

theorem toOption_parseJsonArrayContent {content : List UInt8} {objects : List (List (String × Json))}
    (h : (library.jsonStringToValue content).toOption = some (.array (objects.map .object))) :
  (parseJsonArrayContent library readers content).toOption
    = (objects.mapM (entryOf readers)).map collectEntries
  := by
  rw [parseJsonArrayContent, JsonLibrary.parseValue, Outcome.toOption_eq_some h]
  exact toOption_parseElements objects

theorem toOption_parseJsonArrayContent_eq_none {content : List UInt8}
    (h : (library.jsonStringToValue content).toOption = none) :
  (parseJsonArrayContent library readers content).toOption = none
  := by
  rw [parseJsonArrayContent, Outcome.toOption_bind, JsonLibrary.parseValue,
    Outcome.toOption_mapError, h]
  rfl

end Loading

/-! ### Two forms of a list of objects -/

/-- The text of an array of elements. -/
def arrayText (lead tail : List UInt8) (elements : List (List UInt8)) : List UInt8 :=
  lead ++ '['.toUInt8 :: [JsonText.comma].intercalate elements ++ ']'.toUInt8 :: tail

/-- The texts of objects are parsed in the same way standing alone and inside an array. -/
structure ReadsArrays (library : JsonLibrary) (IsObject : List UInt8 → Prop) : Prop where
  find?_eq : ∀ text, IsObject text → text.find? isFilled = some JsonText.openBrace
  toOption_eq : ∀ lead tail elements, isBlank lead = true → isBlank tail = true
    → (∀ element ∈ elements, IsObject element)
    → (library.jsonStringToValue (arrayText lead tail elements)).toOption
      = (elements.mapM (objectOf library)).map fun objects => .array (objects.map .object)

/-- An object with its texts as an element of an array and as a line. -/
structure ItemObject (library : JsonLibrary) (IsObject : List UInt8 → Prop) where
  element : List UInt8
  line : List UInt8
  isObject_element : IsObject element
  isObject_line : IsObject line
  objectOf_element : objectOf library element = objectOf library line

section Forms

variable {library : JsonLibrary} {readers : ValueReaders} {IsObject : List UInt8 → Prop}

/-- The entry of an object, or nothing when it is refused. -/
def ItemObject.entry (readers : ValueReaders) (object : ItemObject library IsObject) :
    Option FullItemIndexEntry :=
  (objectOf library object.line).bind (entryOf readers)

theorem find?_arrayText {lead : List UInt8} (hlead : isBlank lead = true) (tail : List UInt8)
    (elements : List (List UInt8)) :
  (arrayText lead tail elements).find? isFilled = some '['.toUInt8
  := by
  have hnone : lead.find? isFilled = none := by
    rw [isBlank, Bool.not_eq_true', List.any_eq_false] at hlead
    exact List.find?_eq_none.mpr hlead
  rw [arrayText, List.find?_append, List.find?_append, hnone,
    List.find?_cons_of_pos (by decide +kernel)]
  rfl

/-- The array of a list of objects is read as its entries. -/
theorem toOption_parseContent_arrayText (hlibrary : ReadsArrays library IsObject)
    {lead tail : List UInt8} (hlead : isBlank lead = true) (htail : isBlank tail = true)
    (objects : List (ItemObject library IsObject)) :
  (parseContent library readers (arrayText lead tail (objects.map ItemObject.element))).toOption
    = (objects.mapM (ItemObject.entry readers)).map collectEntries
  := by
  have hfirst : firstNonBlankChar (arrayText lead tail (objects.map ItemObject.element))
      = '['.toUInt8 := by
    rw [firstNonBlankChar, find?_arrayText hlead, Option.getD_some]
  have helements : ∀ element ∈ objects.map ItemObject.element, IsObject element := by
    intro element helement
    obtain ⟨object, -, rfl⟩ := List.mem_map.mp helement
    exact object.isObject_element
  have hobjects : (objects.map ItemObject.element).mapM (objectOf library)
      = objects.mapM fun object => objectOf library object.line := by
    rw [List.mapM_map]
    congr 1
    funext object
    exact object.objectOf_element
  have hvalue := hlibrary.toOption_eq lead tail _ hlead htail helements
  rw [parseContent, hfirst, if_neg (by decide), if_pos rfl]
  unfold ItemObject.entry
  rw [Outcome.mapM_bind]
  rw [hobjects] at hvalue
  cases hread : objects.mapM fun object => objectOf library object.line with
  | none =>
      rw [hread] at hvalue
      exact toOption_parseJsonArrayContent_eq_none hvalue
  | some values =>
      rw [hread] at hvalue
      exact toOption_parseJsonArrayContent hvalue

/-- The lines of a list of objects are read as its entries. -/
theorem toOption_parseContent_lines (hlibrary : ReadsArrays library IsObject)
    {content : List UInt8} {objects : List (ItemObject library IsObject)}
    (hlines : (Lines.filled isFilled newline content).map Prod.fst = objects.map ItemObject.line) :
  (parseContent library readers content).toOption
    = (objects.mapM (ItemObject.entry readers)).map collectEntries
  := by
  have hread : (objects.map ItemObject.line).mapM (fun line =>
        (objectOf library line).bind (entryOf readers))
      = objects.mapM (ItemObject.entry readers) := by
    rw [List.mapM_map]
    rfl
  have hfirst := @Lines.find?_eq_of_filled _ _ newline isFilled (by decide) content
  rw [hlines] at hfirst
  cases objects with
  | nil =>
      have hnull : firstNonBlankChar content = 0 := by
        rw [firstNonBlankChar, hfirst]
        rfl
      rw [parseContent, if_pos hnull]
      rfl
  | cons object objects =>
      have hbrace : firstNonBlankChar content = JsonText.openBrace := by
        rw [firstNonBlankChar, hfirst, List.map_cons, List.head?_cons, Option.bind_some,
          hlibrary.find?_eq _ object.isObject_line, Option.getD_some]
      rw [parseContent, hbrace, if_neg (by decide), if_neg (by decide),
        toOption_parseJsonlContent, hlines, hread]

/-- The last entry with an identifier counts. -/
theorem findByItemId_collectEntries (entries : List FullItemIndexEntry) (itemId : ℕ) :
  findByItemId { entries := collectEntries entries } itemId
    = (entries.filter (·.itemId = itemId)).getLast?
  := by
  have hlookup : (Keyed.collect (fun entry : FullItemIndexEntry => entry.itemId)
      (fun entry _ => entry) entries).lookup itemId
      = Keyed.accumulate (fun entry _ => entry) (entries.filter (·.itemId = itemId)) :=
    Keyed.lookup_collect _ _ entries itemId
  have hlast := Keyed.accumulate_replace id (entries.filter (·.itemId = itemId))
  rw [Option.map_id] at hlast
  exact hlookup.trans hlast

theorem loadFromFile_of_toOption_eq_none {files : String → Option (List UInt8)} {filePath : String}
    {content : List UInt8} (hfile : files filePath = some content)
    (h : (parseContent library readers content).toOption = none) (errorMsg : Option String)
    (store : LocalFileItemIndexStore) :
  (loadFromFile library readers files filePath errorMsg store).success = false
  := by
  rw [loadFromFile.eq_def, hfile]
  cases hparse : parseContent library readers content with
  | error what =>
      simp only [hparse]
      rfl
  | ok loadedEntries =>
      rw [hparse] at h
      cases h

theorem loadFromFile_of_toOption_eq_some {files : String → Option (List UInt8)} {filePath : String}
    {content : List UInt8} (hfile : files filePath = some content) {entries : ItemIdIndexEntryMap}
    (h : (parseContent library readers content).toOption = some entries) (errorMsg : Option String)
    (store : LocalFileItemIndexStore) :
  loadFromFile library readers files filePath errorMsg store
    = { success := true, errorMsg := errorMsg, loaded := { entries := entries } }
  := by
  have hparse : parseContent library readers content = .ok entries := Outcome.toOption_eq_some h
  rw [loadFromFile.eq_def, hfile]
  simp only [hparse]

/-- The two forms of a list of objects are both refused, or both loaded as the same map, in which the
last object with an identifier counts. -/
theorem loadFromFile_forms (hlibrary : ReadsArrays library IsObject)
    (objects : List (ItemObject library IsObject)) {files : String → Option (List UInt8)}
    {arrayPath jsonlPath : String} {lead tail jsonl : List UInt8}
    (harray : files arrayPath = some (arrayText lead tail (objects.map ItemObject.element)))
    (hlead : isBlank lead = true) (htail : isBlank tail = true)
    (hjsonl : files jsonlPath = some jsonl)
    (hlines : (Lines.filled isFilled newline jsonl).map Prod.fst = objects.map ItemObject.line)
    (errorMsg errorMsg' : Option String) (store store' : LocalFileItemIndexStore) :
  ((loadFromFile library readers files arrayPath errorMsg store).success = false
      ∧ (loadFromFile library readers files jsonlPath errorMsg' store').success = false)
    ∨ ∃ entries loaded, objects.mapM (ItemObject.entry readers) = some entries
      ∧ loadFromFile library readers files arrayPath errorMsg store = ⟨true, errorMsg, loaded⟩
      ∧ loadFromFile library readers files jsonlPath errorMsg' store' = ⟨true, errorMsg', loaded⟩
      ∧ ∀ itemId, findByItemId loaded itemId = (entries.filter (·.itemId = itemId)).getLast?
  := by
  have harrayEntries : (parseContent library readers
      (arrayText lead tail (objects.map ItemObject.element))).toOption = _ :=
    toOption_parseContent_arrayText hlibrary hlead htail objects
  have hjsonlEntries : (parseContent library readers jsonl).toOption = _ :=
    toOption_parseContent_lines hlibrary hlines
  cases hentries : objects.mapM (ItemObject.entry readers) with
  | none =>
      rw [hentries] at harrayEntries hjsonlEntries
      left
      exact ⟨loadFromFile_of_toOption_eq_none harray harrayEntries errorMsg store,
        loadFromFile_of_toOption_eq_none hjsonl hjsonlEntries errorMsg' store'⟩
  | some entries =>
      rw [hentries] at harrayEntries hjsonlEntries
      right
      exact ⟨entries, _, rfl,
        loadFromFile_of_toOption_eq_some harray harrayEntries errorMsg store,
        loadFromFile_of_toOption_eq_some hjsonl hjsonlEntries errorMsg' store',
        findByItemId_collectEntries entries⟩

/-- The loaders of local files load all of a file or nothing, and the item index is loaded in the same
way from both of its forms. -/
theorem load_all_or_nothing (hlibrary : ReadsArrays library IsObject)
    (jsonStringToMessage : List UInt8 → Except String Profile) :
  (∀ (objects : List (ItemObject library IsObject)) (files : String → Option (List UInt8))
      (arrayPath jsonlPath : String) (lead tail jsonl : List UInt8),
    files arrayPath = some (arrayText lead tail (objects.map ItemObject.element))
    → isBlank lead = true → isBlank tail = true → files jsonlPath = some jsonl
    → (Lines.filled isFilled newline jsonl).map Prod.fst = objects.map ItemObject.line
    → ∀ (errorMsg errorMsg' : Option String) (store store' : LocalFileItemIndexStore),
      ((loadFromFile library readers files arrayPath errorMsg store).success = false
        ∧ (loadFromFile library readers files jsonlPath errorMsg' store').success = false)
      ∨ ∃ entries loaded, objects.mapM (ItemObject.entry readers) = some entries
        ∧ loadFromFile library readers files arrayPath errorMsg store = ⟨true, errorMsg, loaded⟩
        ∧ loadFromFile library readers files jsonlPath errorMsg' store' = ⟨true, errorMsg', loaded⟩
        ∧ ∀ itemId, findByItemId loaded itemId = (entries.filter (·.itemId = itemId)).getLast?)
  ∧ (∀ (files : String → Option (List UInt8)) (filePath : String) (errorMsg : Option String)
      (store : LocalFileItemIndexStore),
    (loadFromFile library readers files filePath errorMsg store).success = false
    → (loadFromFile library readers files filePath errorMsg store).loaded = store)
  ∧ (∀ (files : String → Option (List UInt8)) (filePath : String)
      (profiles : Option UserIdProfileMap) (errorMsg : Option String),
    (loadProfilesFromJsonlFile jsonStringToMessage files filePath profiles errorMsg).success = false
    → (loadProfilesFromJsonlFile jsonStringToMessage files filePath profiles errorMsg).loaded
      = profiles)
  ∧ ∀ (files : String → Option (List UInt8)) (filePath : String) (content : List UInt8)
      (profiles : UserIdProfileMap) (errorMsg : Option String),
    files filePath = some content
    → (loadProfilesFromJsonlFile jsonStringToMessage files filePath (some profiles)
        errorMsg).success = false
    → ∃ (n : ℕ) (message : String), FirstFailure jsonStringToMessage content n message
      ∧ (loadProfilesFromJsonlFile jsonStringToMessage files filePath (some profiles)
          errorMsg).errorMsg
        = errorMsg.map fun _ => message ++ " at JSONL line " ++ toString (n + 1)
  := by
  refine ⟨?_, ?_, ?_, ?_⟩
  · intro objects files arrayPath jsonlPath lead tail jsonl harray hlead htail hjsonl hlines
    exact loadFromFile_forms hlibrary objects harray hlead htail hjsonl hlines
  · intro files filePath errorMsg store
    exact loaded_loadFromFile
  · intro files filePath profiles errorMsg
    exact LocalFile.loaded_loadProfilesFromJsonlFile
  · intro files filePath content profiles errorMsg hfile
    exact LocalFile.exists_of_loadProfilesFromJsonlFile hfile

end Forms

/-! ### Files of one item -/

/-- The letters that are titles. -/
def titleLetters : List UInt8 :=
  JsonText.ascii "AB"

/-- The text of an item with a title of one letter. -/
def itemText (letter : UInt8) : List UInt8 :=
  JsonText.ascii "\x7b\"item_id\":1,\"title\":\"" ++ letter :: JsonText.ascii "\"\x7d"

/-- The members of that text. -/
def itemFields (letter : UInt8) : List (String × Json) :=
  [("item_id", .int 1), ("title", .text (String.ofList [Char.ofUInt8 letter]))]

/-- A library for these texts and for arrays of them, whose titles are the only such letters. -/
def itemLibrary : JsonLibrary where
  jsonStringToStruct text :=
    match titleLetters.find? (itemText · = text) with
    | some letter => .ok (itemFields letter)
    | none => .error "INVALID_ARGUMENT"
  jsonStringToValue content :=
    let titles := content.filter (· ∈ titleLetters)
    if content.filter isFilled = arrayText [] [] (titles.map itemText) then
      .ok (.array (titles.map fun letter => .object (itemFields letter)))
    else .error "INVALID_ARGUMENT"

/-- The texts of items. -/
def IsItemText (text : List UInt8) : Prop :=
  ∃ letter ∈ titleLetters, text = itemText letter

theorem filter_of_isBlank {value : List UInt8} (h : isBlank value = true) :
  value.filter isFilled = []
  := by
  rw [isBlank, Bool.not_eq_true', List.any_eq_false] at h
  exact List.filter_eq_nil_iff.mpr h

theorem filter_isFilled_itemText {letter : UInt8} (h : letter ∈ titleLetters) :
  (itemText letter).filter isFilled = itemText letter
  := by
  revert letter
  decide +kernel

theorem filter_titleLetters_itemText {letter : UInt8} (h : letter ∈ titleLetters) :
  (itemText letter).filter (· ∈ titleLetters) = [letter]
  := by
  revert letter
  decide +kernel

section Titles

variable {titles : List UInt8} (htitles : ∀ letter ∈ titles, letter ∈ titleLetters)
include htitles

/-- The bytes of an array without the blanks around it. -/
theorem filter_arrayText {lead tail : List UInt8} (hlead : isBlank lead = true)
    (htail : isBlank tail = true) :
  (arrayText lead tail (titles.map itemText)).filter isFilled
    = arrayText [] [] (titles.map itemText)
  := by
  have helements : ([JsonText.comma].intercalate (titles.map itemText)).filter isFilled
      = [JsonText.comma].intercalate (titles.map itemText) := by
    rw [List.filter_eq_self]
    intro b hb
    rcases JsonText.mem_intercalate hb with rfl | ⟨text, htext, hb⟩
    · decide
    · obtain ⟨letter, hletter, rfl⟩ := List.mem_map.mp htext
      exact List.filter_eq_self.mp (filter_isFilled_itemText (htitles letter hletter)) b hb
  rw [arrayText, List.filter_append, List.filter_append, filter_of_isBlank hlead,
    List.filter_cons_of_pos (by decide), List.filter_cons_of_pos (by decide), helements,
    filter_of_isBlank htail]
  rfl

/-- The titles of an array of items. -/
theorem filter_titleLetters_arrayText {lead tail : List UInt8} (hlead : isBlank lead = true)
    (htail : isBlank tail = true) :
  (arrayText lead tail (titles.map itemText)).filter (· ∈ titleLetters) = titles
  := by
  have hfilled : ∀ b ∈ titleLetters, isFilled b = true := by decide +kernel
  have hblank : (arrayText lead tail (titles.map itemText)).filter (· ∈ titleLetters)
      = ((arrayText lead tail (titles.map itemText)).filter isFilled).filter
        (· ∈ titleLetters) := by
    rw [List.filter_filter]
    apply List.filter_congr
    intro b _
    by_cases hb : b ∈ titleLetters
    · simp [hb, hfilled b hb]
    · simp [hb]
  have helements : ∀ letters : List UInt8, (∀ letter ∈ letters, letter ∈ titleLetters) →
      ((letters.map itemText).flatMap (JsonText.comma :: ·)).filter (· ∈ titleLetters)
        = letters := by
    intro letters hletters
    induction letters with
    | nil => rfl
    | cons letter letters ih =>
        rw [List.map_cons, List.flatMap_cons, List.cons_append, List.filter_cons_of_neg (by decide),
          List.filter_append, filter_titleLetters_itemText (hletters letter List.mem_cons_self),
          ih fun l hl => hletters l (List.mem_cons_of_mem letter hl), List.singleton_append]
  rw [hblank, filter_arrayText htitles hlead htail, arrayText, List.nil_append, List.cons_append,
    List.filter_cons_of_neg (by decide), List.filter_append, List.filter_cons_of_neg (by decide),
    List.filter_nil, List.append_nil]
  cases titles with
  | nil => rfl
  | cons letter letters =>
      have hletters := fun l hl => htitles l (List.mem_cons_of_mem letter hl)
      rw [List.map_cons, JsonText.intercalate_cons_eq, List.filter_append,
        filter_titleLetters_itemText (htitles letter List.mem_cons_self), helements letters hletters,
        List.singleton_append]

end Titles

theorem objectOf_itemText {letter : UInt8} (h : letter ∈ titleLetters) :
  objectOf itemLibrary (itemText letter) = some (itemFields letter)
  := by
  have hletters : ∀ l ∈ titleLetters, l = 'A'.toUInt8 ∨ l = 'B'.toUInt8 := by decide +kernel
  rcases hletters letter h with rfl | rfl
  · rfl
  · rfl

theorem mapM_objectOf_itemText {titles : List UInt8}
    (h : ∀ letter ∈ titles, letter ∈ titleLetters) :
  (titles.map itemText).mapM (objectOf itemLibrary) = some (titles.map itemFields)
  := by
  induction titles with
  | nil => rfl
  | cons letter titles ih =>
      rw [List.map_cons, List.mapM_cons, objectOf_itemText (h letter List.mem_cons_self),
        ih fun l hl => h l (List.mem_cons_of_mem letter hl)]
      rfl

theorem exists_titles {elements : List (List UInt8)} (h : ∀ element ∈ elements, IsItemText element) :
  ∃ titles : List UInt8, (∀ letter ∈ titles, letter ∈ titleLetters)
    ∧ elements = titles.map itemText
  := by
  induction elements with
  | nil => exact ⟨[], by simp, rfl⟩
  | cons element elements ih =>
      obtain ⟨letter, hletter, rfl⟩ := h element List.mem_cons_self
      obtain ⟨titles, htitles, rfl⟩ := ih fun e he => h e (List.mem_cons_of_mem _ he)
      exact ⟨letter :: titles, List.forall_mem_cons.mpr ⟨hletter, htitles⟩, rfl⟩

theorem readsArrays_itemLibrary :
  ReadsArrays itemLibrary IsItemText
  := by
  refine ⟨?_, ?_⟩
  · rintro text ⟨letter, -, rfl⟩
    rfl
  · intro lead tail elements hlead htail helements
    obtain ⟨titles, htitles, rfl⟩ := exists_titles helements
    rw [mapM_objectOf_itemText htitles, Option.map_some, List.map_map, itemLibrary]
    simp only [filter_titleLetters_arrayText htitles hlead htail, if_true,
      filter_arrayText htitles hlead htail]
    rfl

/-- The item with a title. -/
def item (letter : UInt8) (h : letter ∈ titleLetters) : ItemObject itemLibrary IsItemText where
  element := itemText letter
  line := itemText letter
  isObject_element := ⟨letter, h, rfl⟩
  isObject_line := ⟨letter, h, rfl⟩
  objectOf_element := rfl

/-- Two objects of one item. -/
def items : List (ItemObject itemLibrary IsItemText) :=
  [item 'A'.toUInt8 (by decide), item 'B'.toUInt8 (by decide)]

/-- A file of each form, the second with blank lines. -/
def itemFiles (filePath : String) : Option (List UInt8) :=
  if filePath = "items.json" then
    some (arrayText [] [newline] [itemText 'A'.toUInt8, itemText 'B'.toUInt8])
  else if filePath = "items.jsonl" then
    some (newline :: itemText 'A'.toUInt8 ++ newline :: JsonText.ascii " \n"
      ++ itemText 'B'.toUInt8)
  else none

/-- Both forms are loaded, and the last object of the item counts. -/
theorem load_all_or_nothing_item :
  ReadsArrays itemLibrary IsItemText
    ∧ ∃ loaded, loadFromFile itemLibrary ⟨fun _ => none, fun _ => 0⟩ itemFiles "items.json" none {}
        = ⟨true, none, loaded⟩
      ∧ loadFromFile itemLibrary ⟨fun _ => none, fun _ => 0⟩ itemFiles "items.jsonl" none {}
        = ⟨true, none, loaded⟩
      ∧ findByItemId loaded 1 = some { itemId := 1, title := "B" }
  := by
  refine ⟨readsArrays_itemLibrary, ?_⟩
  have hforms := (@load_all_or_nothing _ ⟨fun _ => none, fun _ => 0⟩ _ readsArrays_itemLibrary
    fun _ => .error "").1 items itemFiles "items.json" "items.jsonl" [] [newline] _ rfl rfl
    (by decide) rfl (by decide) none none {} {}
  have hentries : items.mapM (ItemObject.entry ⟨fun _ => none, fun _ => 0⟩)
      = some [{ itemId := 1, title := "A" }, { itemId := 1, title := "B" }] := by
    decide +kernel
  have hloads : (loadFromFile itemLibrary ⟨fun _ => none, fun _ => 0⟩ itemFiles "items.json" none
      {}).success = true := by
    decide +kernel
  rcases hforms with ⟨hfails, -⟩ | ⟨entries, loaded, hread, harray, hjsonl, hfind⟩
  · rw [hloads] at hfails
    cases hfails
  · rw [hentries] at hread
    obtain rfl := Option.some.inj hread
    exact ⟨loaded, harray, hjsonl, hfind 1⟩

end LocalFileItemIndexStore

end RecommendationEngine
