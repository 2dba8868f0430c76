import Mathlib.Data.Prod.Lex
import Mathlib.Data.String.Basic
import ShootingStar.Lib.Keyed
import ShootingStar.Lib.Ranked
import ShootingStar.Lib.Rounding
import ShootingStar.Lib.Text
import ShootingStar.Offline.RedisWriter
import ShootingStar.Offline.UserProfile

/-!
# Tags of movies

The tags of a movie are counted by rows and by users.  Each tag is scored by its users and by the
number of the movies that have it, and the best tags are the top tags of the movie.
-/

namespace OfflineDataProcessing

/-- What the character tables say about texts and characters. -/
structure TextFunctions where
  nfkc : String → String
  lower : String → String
  isWord : Char → Bool
  isDigit : Char → Bool
  decimalDigit : Char → Option (Fin 10)
  int : String → Except String ℤ

/-- The functions on texts of ASCII characters. -/
def asciiText : TextFunctions where
  nfkc := id
  lower := String.toLower
  isWord c := c.isAlphanum || c == '_'
  isDigit := Char.isDigit
  decimalDigit c := if c.isDigit then some (Fin.ofNat 10 (c.toNat - '0'.toNat)) else none
  int s := (Text.readSigned (-2 ^ 63) (2 ^ 63) s).elim (.error "invalid literal for int()") .ok

/-! ### Normalised texts -/

/-- Each run of characters that satisfy `p` becomes one blank. -/
def substituteRuns (p : Char → Bool) : Bool → List Char → List Char
  | _, [] => []
  | inRun, c :: cs =>
    if p c then
      if inRun then substituteRuns p true cs else ' ' :: substituteRuns p true cs
    else c :: substituteRuns p false cs

/-- A text with one space for each run of white space, and none at its ends. -/
def normalizeSpaces (text : String) : String :=
  String.ofList (substituteRuns isSpace false (Text.strip isSpace text).toList)

/-- A tag in lower case. -/
def normalizeTag (f : TextFunctions) (text : String) : String :=
  normalizeSpaces (f.lower (f.nfkc text))

/-! ### The evidence -/

/-- A row of the tags file. -/
structure TagRow where
  userId : String
  movieId : ℤ
  tag : String
  deriving DecidableEq, Repr

/-- The number of the rows of each tag of a movie, and the users that gave it. -/
structure MovieTagEvidence where
  tagRowCounts : List (ℤ × List (String × ℕ)) := []
  tagUserSets : List (ℤ × List (String × Finset String)) := []

/-- A tag of a movie that is not in the list, or a blank one, does not count, and a blank user is
counted by the row only. -/
def collectTagRow (f : TextFunctions) (validMovieIds : List ℤ) (evidence : MovieTagEvidence)
    (row : TagRow) : MovieTagEvidence :=
  let tag := normalizeTag f row.tag
  let userId := Text.strip isSpace row.userId
  if row.movieId ∉ validMovieIds then evidence
  else if tag = "" then evidence
  else
    { tagRowCounts :=
        Keyed.upsert row.movieId
          (fun counts => Keyed.upsert tag (fun n => n.getD 0 + 1) (counts.getD []))
          evidence.tagRowCounts
      tagUserSets :=
        if userId = "" then evidence.tagUserSets
        else
          Keyed.upsert row.movieId
            (fun sets => Keyed.upsert tag (fun users => insert userId (users.getD ∅)) (sets.getD []))
            evidence.tagUserSets }

/-- What the rows tell of the tags of the films. -/
def collectMovieTagEvidence (f : TextFunctions) (validMovieIds : List ℤ) (rows : List TagRow) :
    MovieTagEvidence :=
  rows.foldl (collectTagRow f validMovieIds) {}

/-! ### Top tags -/

/-- A tag with its score and the number of its users. -/
structure ScoredTag where
  tag : String
  score : ℚ
  userCount : ℕ
  deriving DecidableEq, Repr

/-- How many tags are kept, and which of them. -/
structure TopTagOptions where
  topK : ℤ := 10
  minWeight : ℚ := 0
  minRelativeWeight : ℚ := 3 / 10
  normalizeWeights : Bool := false
  roundDigits : Option ℕ := some 4
  deriving DecidableEq, Repr

/-- The number of the movies that have each tag. -/
def documentFrequency (tagUserSets : List (ℤ × List (String × Finset String))) :
    List (String × ℕ) :=
  Keyed.collect id (fun _ n => n.getD 0 + 1) (tagUserSets.flatMap (·.2.map Prod.fst))

/-- The tags of a movie, the best first. -/
def scoredTags (log : ℚ → ℚ) (documentCount : ℕ) (frequency : List (String × ℕ))
    (movieTags : List (String × Finset String)) : List ScoredTag :=
  Ranked.sortBy
    (Ranked.higherFirst ScoredTag.score fun t => toLex (OrderDual.toDual t.userCount, t.tag))
    (movieTags.map fun (tag, users) =>
      let userCount := max users.card 1
      let tf := 1 + log userCount
      let idf := log ((1 + documentCount) / (1 + (frequency.lookup tag).getD 0)) + 1
      { tag := tag, score := tf * idf, userCount := userCount })

/-- The first tag, and those of the first `topK` that are not too light. -/
def keptTags (o : TopTagOptions) (scored : List ScoredTag) : List (MovieTag ℚ) :=
  match scored with
  | [] => []
  | best :: _ =>
    let kept := (scored.zipIdx.take o.topK.toNat).filter fun t =>
      t.2 = 0 ∨ (o.minWeight ≤ t.1.score ∧ best.score * o.minRelativeWeight ≤ t.1.score)
    if kept = [] then [{ tag := best.tag, weight := best.score }]
    else kept.map fun t => { tag := t.1.tag, weight := t.1.score }

/-- The weights as fractions of the largest one, and rounded. -/
def scaledTags (o : TopTagOptions) (tags : List (MovieTag ℚ)) : List (MovieTag ℚ) :=
  let maxWeight := (tags.map MovieTag.weight).foldr max ((tags.head?.map MovieTag.weight).getD 0)
  let scaled :=
    if o.normalizeWeights then
      tags.map fun t => { t with weight := if 0 < maxWeight then t.weight / maxWeight else 0 }
    else tags
  match o.roundDigits with
  | none => scaled
  | some digits => scaled.map fun t => { t with weight := Rounding.roundDecimals digits t.weight }

/-- The best tags of every film. -/
def computeMovieTopTags (log : ℚ → ℚ) (o : TopTagOptions)
    (tagUserSets : List (ℤ × List (String × Finset String))) : List (ℤ × List (MovieTag ℚ)) :=
  tagUserSets.map fun (movieId, movieTags) =>
    (movieId,
      scaledTags o (keptTags o (scoredTags log (max tagUserSets.length 1)
        (documentFrequency tagUserSets) movieTags)))

end OfflineDataProcessing
