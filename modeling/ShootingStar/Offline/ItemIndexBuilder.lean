import ShootingStar.Offline.MovieTags
import ShootingStar.Offline.Ratings

/-!
# The item index

The builder makes a document for each movie, from its row, the links to other databases, the ratings
and the tags.  What is not known about a movie is written as `null`.
-/

namespace OfflineDataProcessing

/-- A row of the movies file. -/
structure MovieRow where
  movieId : ℤ
  title : String
  genres : String
  deriving DecidableEq, Repr

/-- A row of the links file. -/
structure LinkRow where
  movieId : ℤ
  imdbId : String
  tmdbId : String
  deriving DecidableEq, Repr

/-! ### Items -/

/-- The average rating of an item and the number of its ratings. -/
structure ItemRating where
  avg : Option ℚ := none
  count : ℕ := 0
  deriving DecidableEq, Repr

/-- The texts that an item is searched by. -/
structure ItemSearch where
  tagText : String
  allText : String
  deriving DecidableEq, Repr

/-- The identifiers of an item elsewhere. -/
structure ItemLinks where
  imdbId : Option String := none
  tmdbId : Option ℤ := none
  deriving DecidableEq, Repr

/-- An item of the index. -/
structure IndexItem where
  itemId : ℤ
  title : String
  titleRaw : String
  titleNorm : String
  year : Option ℤ
  genres : List String
  topTags : List (MovieTag ℚ)
  tagCount : ℕ
  uniqueTagCount : ℕ
  rating : ItemRating
  search : ItemSearch
  ext : ItemLinks
  deriving DecidableEq, Repr

/-! ### Documents -/

/-- A tag as it is written. -/
def MovieTag.document (t : MovieTag ℚ) : Json :=
  .object [("tag", .text t.tag), ("weight", .float t.weight)]

/-- The ratings of an item as they are written. -/
def ItemRating.document (r : ItemRating) : Json :=
  .object [("avg", .ofOption .float r.avg), ("count", .int r.count)]

/-- The search texts of an item as they are written. -/
def ItemSearch.document (s : ItemSearch) : Json :=
  .object [("tag_text", .text s.tagText), ("all_text", .text s.allText)]

/-- The identifiers of an item elsewhere as they are written. -/
def ItemLinks.document (l : ItemLinks) : Json :=
  .object [("imdb_id", .ofOption .text l.imdbId), ("tmdb_id", .ofOption .int l.tmdbId)]

/-- The tags of an item as they are written. -/
def IndexItem.tagsDocument (item : IndexItem) : Json :=
  .object
    [("top_tags", .array (item.topTags.map MovieTag.document)),
      ("tag_count", .int item.tagCount),
      ("unique_tag_count", .int item.uniqueTagCount)]

/-- The document of an item. -/
def IndexItem.document (item : IndexItem) : List (String × Json) :=
  [("item_id", .int item.itemId),
    ("title", .text item.title),
    ("title_raw", .text item.titleRaw),
    ("title_norm", .text item.titleNorm),
    ("year", .ofOption .int item.year),
    ("genres", .array (item.genres.map .text)),
    ("tags", item.tagsDocument),
    ("rating", item.rating.document),
    ("search", item.search.document),
    ("ext", item.ext.document)]

/-! ### Titles -/

/-- The number that decimal digits stand for, after those read before. -/
def readYear (f : TextFunctions) : ℕ → List Char → Option ℕ
  | year, [] => some year
  | year, c :: cs => do readYear f (10 * year + (← f.decimalDigit c).val) cs

/-- White space and a year in parentheses that end a text. -/
def matchYear (f : TextFunctions) (cs : List Char) : Option ℕ :=
  if cs.head?.all fun c => !isSpace c then none
  else
    match cs.dropWhile isSpace with
    | ['(', a, b, c, d, ')'] => readYear f 0 [a, b, c, d]
    | ['(', a, b, c, d, ')', '\n'] => readYear f 0 [a, b, c, d]
    | _ => none

/-- The shortest title that is followed by a year, and the year; `before` has been read. -/
def matchTitleYear (f : TextFunctions) : List Char → List Char → Option (String × ℕ)
  | _, [] => none
  | before, c :: cs =>
    if c = '\n' then none
    else
      match matchYear f cs with
      | some year => some (String.ofList (before ++ [c]), year)
      | none => matchTitleYear f (before ++ [c]) cs

/-- The title before a trailing article, on one line. -/
def titleBase (title article : String) : Option String :=
  let cs := if title.toList.getLast? = some '\n' then title.toList.dropLast else title.toList
  let ending := (", " ++ article).toList
  let base := cs.take (cs.length - ending.length)
  if ending.isSuffixOf cs ∧ base ≠ [] ∧ '\n' ∉ base then some (String.ofList base) else none

/-- A trailing article goes to the front. -/
def moveTrailingArticle (title : String) : String :=
  (["The", "A", "An"].findSome? fun article =>
    (titleBase title article).map fun base => article ++ " " ++ base).getD title

/-- The title and the year of a raw title that ends with the year in brackets. -/
def parseTitleAndYear (f : TextFunctions) (titleRaw : String) : String × Option ℤ :=
  match matchTitleYear f [] titleRaw.toList with
  | none => (moveTrailingArticle titleRaw, none)
  | some (title, year) => (moveTrailingArticle title, some year)

theorem lt_of_readYear_eq_some {f : TextFunctions} {digits : List Char} {before year : ℕ}
    (h : readYear f before digits = some year) :
  year < 10 ^ digits.length * (before + 1)
  := by
  induction digits generalizing before with
  | nil =>
      rw [readYear, Option.some.injEq] at h
      rw [List.length_nil, pow_zero, one_mul, h]
      exact Nat.lt_succ_self year
  | cons c cs ih =>
      rw [readYear, Option.bind_eq_bind, Option.bind_eq_some_iff] at h
      obtain ⟨digit, -, h⟩ := h
      calc year < 10 ^ cs.length * (10 * before + digit.val + 1) := ih h
        _ ≤ 10 ^ cs.length * (10 * (before + 1)) := Nat.mul_le_mul_left _ (by omega)
        _ = 10 ^ (c :: cs).length * (before + 1) := by rw [List.length_cons, pow_succ, mul_assoc]

/-- A year has four digits. -/
theorem lt_of_matchYear_eq_some {f : TextFunctions} {cs : List Char} {year : ℕ}
    (h : matchYear f cs = some year) :
  year < 10000
  := by
  rw [matchYear] at h
  split at h
  · cases h
  · split at h
    · simpa using lt_of_readYear_eq_some h
    · simpa using lt_of_readYear_eq_some h
    · cases h

theorem lt_of_matchTitleYear_eq_some {f : TextFunctions} {before cs : List Char}
    {result : String × ℕ} (h : matchTitleYear f before cs = some result) :
  result.2 < 10000
  := by
  induction cs generalizing before with
  | nil => cases h
  | cons c cs ih =>
      rw [matchTitleYear] at h
      split at h
      · cases h
      · split at h
        next year hyear =>
          obtain rfl := Option.some.inj h
          exact lt_of_matchYear_eq_some hyear
        next => exact ih h

theorem lt_of_parseTitleAndYear_eq_some {f : TextFunctions} {titleRaw : String} {year : ℤ}
    (h : (parseTitleAndYear f titleRaw).2 = some year) :
  0 ≤ year ∧ year < 10000
  := by
  rw [parseTitleAndYear] at h
  split at h
  next => cases h
  next title number hmatch =>
    obtain rfl := Option.some.inj h
    have hlt : number < 10000 := lt_of_matchTitleYear_eq_some hmatch
    omega

/-! ### Fields -/

/-- The genres of a movie, whose names are separated by bars. -/
def parseGenres (rawGenres : String) : List String :=
  if rawGenres = "" ∨ rawGenres = "(no genres listed)" then []
  else ((rawGenres.toList.splitOn '|').map String.ofList).filter (· ≠ "")

/-- Zeros before a number, up to seven digits. -/
def zfill7 (value : String) : String :=
  String.ofList (List.replicate (7 - value.length) '0' ++ value.toList)

/-- The identifier of a film, with its letters before it. -/
def formatImdbId (f : TextFunctions) (rawImdbId : String) : Option String :=
  let value := Text.strip isSpace rawImdbId
  if value = "" then none
  else if value.startsWith "tt" then some value
  else if value.toList.all f.isDigit then some ("tt" ++ zfill7 value)
  else some ("tt" ++ value)

/-- The number of a film, if it is one. -/
def formatTmdbId (f : TextFunctions) (rawTmdbId : String) : Option ℤ :=
  let value := Text.strip isSpace rawTmdbId
  if value = "" then none else (f.int value).toOption

/-- A text in lower case with one space for each run of other characters. -/
def normalizeSearchText (f : TextFunctions) (text : String) : String :=
  let normalized := f.lower (f.nfkc text)
  normalizeSpaces
    (String.ofList
      (substituteRuns (fun c => !f.isWord c && !isSpace c) false normalized.toList))

/-- The search texts of a title, genres and tags. -/
def buildSearchFields (f : TextFunctions) (titleNorm : String) (genres : List String)
    (topTags : List (MovieTag ℚ)) : ItemSearch :=
  let genreText := " ".intercalate (genres.map (normalizeSearchText f))
  let tagText := " ".intercalate (topTags.map MovieTag.tag)
  { tagText := tagText
    allText :=
      normalizeSpaces (" ".intercalate ([titleNorm, genreText, tagText].filter (· ≠ ""))) }

/-! ### Building -/

/-- The builder, with its options that the items depend on and the functions it calls. -/
structure ItemIndexBuilder where
  topK : ℤ := 10
  minWeight : ℚ := 0
  minRelativeWeight : ℚ := 3 / 10
  text : TextFunctions
  log : ℚ → ℚ

namespace ItemIndexBuilder

variable (b : ItemIndexBuilder)

/-- The options of the tags that are kept. -/
def topTagOptions : TopTagOptions where
  topK := b.topK
  minWeight := b.minWeight
  minRelativeWeight := b.minRelativeWeight
  normalizeWeights := false
  roundDigits := some 4

/-- The links of each movie, those of the last row. -/
def buildLinksMap (rows : List LinkRow) : List (ℤ × ItemLinks) :=
  Keyed.collect LinkRow.movieId
    (fun row _ =>
      { imdbId := formatImdbId b.text row.imdbId, tmdbId := formatTmdbId b.text row.tmdbId })
    rows

/-- The average and the number of the ratings of each movie. -/
def buildRatingsMap (rows : List (RatingRow ℚ)) : List (ℤ × ItemRating) :=
  let totals : List (ℤ × ℚ) :=
    Keyed.collect RatingRow.movieId (fun row total => total.getD 0 + row.rating) rows
  let counts : List (ℤ × ℕ) :=
    Keyed.collect RatingRow.movieId (fun _ count => count.getD 0 + 1) rows
  counts.map fun (movieId, count) =>
    (movieId,
      { avg := some (Rounding.roundDecimals 4 ((totals.lookup movieId).getD 0 / count))
        count := count })

/-- The items of the movies. -/
def buildItems (movies : List MovieRow) (links : List LinkRow) (ratings : List (RatingRow ℚ))
    (tags : List TagRow) : List IndexItem :=
  let linksMap := b.buildLinksMap links
  let ratingsMap := buildRatingsMap ratings
  let evidence := collectMovieTagEvidence b.text (movies.map MovieRow.movieId) tags
  let topTagsMap := computeMovieTopTags b.log b.topTagOptions evidence.tagUserSets
  movies.map fun row =>
    let (title, year) := parseTitleAndYear b.text row.title
    let titleNorm := normalizeSearchText b.text title
    let genres := parseGenres row.genres
    let topTags := (topTagsMap.lookup row.movieId).getD []
    { itemId := row.movieId
      title := title
      titleRaw := row.title
      titleNorm := titleNorm
      year := year
      genres := genres
      topTags := topTags
      tagCount := (((evidence.tagRowCounts.lookup row.movieId).getD []).map Prod.snd).sum
      uniqueTagCount := ((evidence.tagUserSets.lookup row.movieId).getD []).length
      rating := (ratingsMap.lookup row.movieId).getD {}
      search := buildSearchFields b.text titleNorm genres topTags
      ext := (linksMap.lookup row.movieId).getD {} }

/-- The year of a movie has four digits. -/
theorem lt_of_mem_year {movies : List MovieRow} {links : List LinkRow}
    {ratings : List (RatingRow ℚ)} {tags : List TagRow} {item : IndexItem}
    (hitem : item ∈ b.buildItems movies links ratings tags) {year : ℤ} (hyear : year ∈ item.year) :
  0 ≤ year ∧ year < 10000
  := by
  obtain ⟨row, -, rfl⟩ := List.mem_map.mp hitem
  exact lt_of_parseTitleAndYear_eq_some hyear

end ItemIndexBuilder

end OfflineDataProcessing
