import Mathlib
import ShootingStar.Lib.Ranked
import ShootingStar.Utilities.ConfigArguments

/-!
# Configuration files

A file is a tree of maps and sequences.  It is flattened to texts under keys that are joined by dots,
and the texts are set in the order of their keys.  The names of the rankers are a sequence, so they
come under numbered keys; they are sorted by number and set as one text, separated by commas.

The names that are read back are those of the file, in its order, when there is one
(`getRankingRankers_applyFile_iff`).
-/

/-- A parsed file; a key is missing when it is not a scalar. -/
inductive YamlNode where
  | null
  | scalar (text : String)
  | map (entries : List (Option String × YamlNode))
  | sequence (nodes : List YamlNode)

namespace GlobalConfig

/-! ### Flattening -/

/-- A key below another one. -/
def joinKey (start key : String) : String :=
  if start = "" then key else start ++ "." ++ key

mutual

/-- The texts that are stored for a node, with their keys, in the order in which they are stored. -/
def flattenYamlNode (start : String) : YamlNode → Except ConfigError (List (String × String))
  | .null => .ok []
  | .scalar text =>
    if start = "" then
      .error (.invalidArgument "YAML root scalar cannot be converted to keyed config")
    else .ok [(start, text)]
  | .map entries => flattenYamlEntries start entries
  | .sequence nodes =>
    if start = "" then
      .error (.invalidArgument "YAML root sequence cannot be converted to keyed config")
    else flattenYamlNodes start 0 nodes

/-- The texts of the entries of a map. -/
def flattenYamlEntries (start : String) :
    List (Option String × YamlNode) → Except ConfigError (List (String × String))
  | [] => .ok []
  | (none, _) :: _ => .error (.invalidArgument "YAML config keys must be scalars")
  | (some key, node) :: entries => do
    let values ← flattenYamlNode (joinKey start key) node
    let rest ← flattenYamlEntries start entries
    .ok (values ++ rest)

/-- The texts of the elements of a sequence, from an index on. -/
def flattenYamlNodes (start : String) (index : ℕ) :
    List YamlNode → Except ConfigError (List (String × String))
  | [] => .ok []
  | node :: nodes => do
    let values ← flattenYamlNode (joinKey start (toString index)) node
    let rest ← flattenYamlNodes start (index + 1) nodes
    .ok (values ++ rest)

end

/-! ### Names separated by commas -/

/-- `std::isspace`. -/
def isSpace (c : Char) : Bool :=
  c ∈ [' ', '\t', '\n', '\x0b', '\x0c', '\r']

/-- A text without the white space at its ends. -/
def trim (value : String) : String :=
  Text.strip isSpace value

/-- The texts between commas, without the empty ones. -/
def splitCommaSeparatedValues (value : String) : List String :=
  ((value.toList.splitOn ',').map fun element => trim (String.ofList element)).filter (· ≠ "")

/-- Texts with commas between them, without the empty ones. -/
def joinCommaSeparatedValues (values : List String) : String :=
  values.foldl (fun joined value =>
    if value = "" then joined
    else (if joined = "" then joined else joined ++ ",") ++ value) ""

/-- The number of a ranker, for a key under the sequence. -/
def parseRankingRankerArrayIndex (key : String) : Option ℤ :=
  if startsWith key "ranking.rankers." then
    match Text.readSigned (-2 ^ 31) (2 ^ 31 - 1) (dropChars 16 key) with
    | some parsed => if parsed < 0 then none else some parsed
    | none => none
  else none

/-! ### Loading -/

/-- The texts of a file, by key; the last text of a key stays. -/
def loadedValues (values : List (String × String)) : List (String × String) :=
  Ranked.sortBy (fun a b => a.1 < b.1) (Keyed.collect Prod.fst (fun p _ => p.2) values)

/-- The loop over the texts: the names of rankers are kept, the others are set. -/
def applyValues : List (String × String) → List (ℤ × String) → GlobalConfig →
    Except ConfigError (List (ℤ × String)) × GlobalConfig
  | [], rankingRankers, config => (.ok rankingRankers, config)
  | (key, value) :: values, rankingRankers, config =>
    match parseRankingRankerArrayIndex key with
    | some index => applyValues values (rankingRankers ++ [(index, value)]) config
    | none =>
      match findEntryByYamlKey key with
      | none => (.error (.invalidArgument ("Unknown YAML config key: " ++ key)), config)
      | some entry =>
        match config.set entry.field value with
        | .error e => (.error e, config)
        | .ok config => applyValues values rankingRankers config

/-- The names in the order of their numbers, without blank ones. -/
def rankerNames (rankingRankers : List (ℤ × String)) : List String :=
  ((Ranked.sortBy (fun a b => a.1 < b.1 ∨ (a.1 = b.1 ∧ a.2 < b.2)) rankingRankers).map
    fun ranker => trim ranker.2).filter (· ≠ "")

/-- `ApplyFile`, from what the parser makes of the file, with the configuration it leaves. -/
def applyFile (filePath : String) (loaded : Except String YamlNode) (config : GlobalConfig) :
    Except ConfigError Unit × GlobalConfig :=
  match loaded with
  | .error what =>
    (.error (.invalidArgument ("Failed to load YAML config file '" ++ filePath ++ "': " ++ what)),
      config)
  | .ok root =>
    match flattenYamlNode "" root with
    | .error e => (.error e, config)
    | .ok values =>
      match applyValues (loadedValues values) [] config with
      | (.error e, config) => (.error e, config)
      | (.ok rankingRankers, config) =>
        if rankingRankers = [] then (.ok (), config)
        else
          match config.set .rankingRankers (joinCommaSeparatedValues (rankerNames rankingRankers)) with
          | .error e => (.error e, config)
          | .ok config => (.ok (), config)

/-- The names of the rankers. -/
def getRankingRankers (config : GlobalConfig) : Except ConfigError (List String) :=
  (config.getString .rankingRankers).map splitCommaSeparatedValues

/-! ### Joining and splitting -/

theorem trim_trim (value : String) :
  trim (trim value) = trim value
  := Text.strip_strip isSpace value

theorem toList_joinCommaSeparatedValues {value : String} {values : List String}
    (h : ∀ v ∈ value :: values, v ≠ "") :
  (joinCommaSeparatedValues (value :: values)).toList
    = [','].intercalate ((value :: values).map String.toList)
  := by
  have hloop : ∀ values : List String, (∀ v ∈ values, v ≠ "") → ∀ joined, joined ≠ "" →
      (values.foldl (fun joined value =>
        if value = "" then joined
        else (if joined = "" then joined else joined ++ ",") ++ value) joined).toList
      = [','].intercalate (joined.toList :: values.map String.toList) := by
    intro values
    induction values with
    | nil =>
        intro _ joined _
        simp
    | cons value values ih =>
        intro hvalues joined hjoined
        have hne : joined ++ "," ++ value ≠ "" := by
          rw [ne_eq, ← String.toList_eq_nil_iff]
          simp
        rw [List.foldl_cons, if_neg (hvalues value List.mem_cons_self), if_neg hjoined,
          ih (fun v hv => hvalues v (List.mem_cons_of_mem value hv)) _ hne, List.map_cons]
        cases values <;> simp [List.intercalate_cons_cons]
  have hvalue := h value List.mem_cons_self
  rw [joinCommaSeparatedValues, List.foldl_cons, if_neg hvalue, if_pos rfl, String.empty_append,
    hloop values (fun v hv => h v (List.mem_cons_of_mem value hv)) value hvalue, List.map_cons]

/-- The text a list of names is joined to splits into these names. -/
theorem splitCommaSeparatedValues_join {values : List String}
    (h : ∀ value ∈ values, value ≠ "" ∧ trim value = value ∧ ',' ∉ value.toList) :
  splitCommaSeparatedValues (joinCommaSeparatedValues values) = values
  := by
  match values with
  | [] => rfl
  | value :: values =>
      have hcommas : ∀ l ∈ (value :: values).map String.toList, ',' ∉ l := by
        intro l hl
        obtain ⟨v, hv, rfl⟩ := List.mem_map.mp hl
        exact (h v hv).2.2
      rw [splitCommaSeparatedValues, toList_joinCommaSeparatedValues fun v hv => (h v hv).1,
        List.splitOn_intercalate ',' hcommas (by simp), List.map_map]
      have hmap : (value :: values).map ((fun element => trim (String.ofList element)) ∘ String.toList)
          = value :: values := by
        refine (List.map_congr_left fun v hv => ?_).trans (List.map_id' _)
        rw [Function.comp_apply, String.ofList_toList, (h v hv).2.1]
      rw [hmap, List.filter_eq_self]
      intro v hv
      exact decide_eq_true (h v hv).1

/-- Names are joined without blanks around them, and blank names are left out. -/
theorem splitCommaSeparatedValues_join_trim {names : List String}
    (h : ∀ name ∈ names, ',' ∉ name.toList) :
  splitCommaSeparatedValues (joinCommaSeparatedValues ((names.map trim).filter (· ≠ "")))
    = (names.map trim).filter (· ≠ "")
  := by
  apply splitCommaSeparatedValues_join
  intro value hvalue
  obtain ⟨hmem, hne⟩ := List.mem_filter.mp hvalue
  obtain ⟨name, hname, rfl⟩ := List.mem_map.mp hmem
  exact ⟨of_decide_eq_true hne, trim_trim name, fun hcomma => h name hname (Text.mem_of_mem_strip hcomma)⟩

/-! ### The sequence in the file -/

/-- The document `doc` has `node` under a key, and `rest` is the document without it. -/
inductive HoldsUnder (key : String) (node : YamlNode) : String → YamlNode → YamlNode → Prop where
  | entry {start name : String} {before after : List (Option String × YamlNode)} :
    joinKey start name = key →
    HoldsUnder key node start (.map (before ++ (some name, node) :: after)) (.map (before ++ after))
  | inside {start name : String} {before after : List (Option String × YamlNode)}
      {child rest : YamlNode} :
    HoldsUnder key node (joinKey start name) child rest →
    HoldsUnder key node start (.map (before ++ (some name, child) :: after))
      (.map (before ++ (some name, rest) :: after))

theorem flattenYamlEntries_append (start : String) (before after : List (Option String × YamlNode)) :
  flattenYamlEntries start (before ++ after)
    = (do
      let values ← flattenYamlEntries start before
      let rest ← flattenYamlEntries start after
      .ok (values ++ rest))
  := by
  induction before with
  | nil =>
      rw [List.nil_append, flattenYamlEntries]
      cases flattenYamlEntries start after <;> rfl
  | cons entry before ih =>
      obtain ⟨name, node⟩ := entry
      cases name with
      | none => rfl
      | some name =>
          rw [List.cons_append, flattenYamlEntries, flattenYamlEntries, ih]
          cases flattenYamlNode (joinKey start name) node
          · rfl
          cases flattenYamlEntries start before
          · rfl
          cases flattenYamlEntries start after
          · rfl
          simp [bind, Except.bind]

/-- The texts of a node come between texts of the rest of the document. -/
theorem flattenYamlNode_of_holdsUnder {key start : String} {node doc rest : YamlNode}
    (h : HoldsUnder key node start doc rest) {values : List (String × String)}
    (hnode : flattenYamlNode key node = .ok values) {others : List (String × String)}
    (hrest : flattenYamlNode start rest = .ok others) :
  ∃ before after, others = before ++ after
    ∧ flattenYamlNode start doc = .ok (before ++ values ++ after)
  := by
  induction h generalizing others with
  | entry hkey =>
      rw [flattenYamlNode, flattenYamlEntries_append] at hrest ⊢
      obtain ⟨before, hbefore, hrest⟩ := Batch.of_bind_eq_ok hrest
      obtain ⟨after, hafter, hrest⟩ := Batch.of_bind_eq_ok hrest
      refine ⟨before, after, (Except.ok.inj hrest).symm, ?_⟩
      rw [flattenYamlEntries, hkey, hnode, hbefore, hafter]
      simp [bind, Except.bind]
  | inside hchild ih =>
      rw [flattenYamlNode, flattenYamlEntries_append, flattenYamlEntries] at hrest ⊢
      obtain ⟨before, hbefore, hrest⟩ := Batch.of_bind_eq_ok hrest
      obtain ⟨after, hafter, hrest⟩ := Batch.of_bind_eq_ok hrest
      obtain ⟨inner, hinner, hafter⟩ := Batch.of_bind_eq_ok hafter
      obtain ⟨last, hlast, hafter⟩ := Batch.of_bind_eq_ok hafter
      obtain ⟨innerBefore, innerAfter, rfl, hchildValues⟩ := ih hinner
      obtain rfl := Except.ok.inj hafter
      refine ⟨before ++ innerBefore, innerAfter ++ last, ?_, ?_⟩
      · rw [← Except.ok.inj hrest]
        simp
      · rw [hbefore, hchildValues, hlast]
        simp [bind, Except.bind]

/-- The keys of a sequence of texts are its numbers. -/
theorem flattenYamlNodes_scalar {start : String} (hstart : start ≠ "") (index : ℕ)
    (names : List String) :
  flattenYamlNodes start index (names.map .scalar)
    = .ok (names.mapIdx fun i name => (start ++ "." ++ toString (index + i), name))
  := by
  induction names generalizing index with
  | nil => rfl
  | cons name names ih =>
      have hkey : joinKey start (toString index) ≠ "" := by
        rw [joinKey, if_neg hstart, ne_eq, ← String.toList_eq_nil_iff]
        simp
      rw [List.map_cons, flattenYamlNodes, flattenYamlNode, if_neg hkey, ih, joinKey, if_neg hstart,
        List.mapIdx_cons]
      simp only [bind, Except.bind, List.singleton_append, Nat.add_zero]
      simp only [Nat.add_assoc, Nat.add_comm 1]

/-! ### Keys of the sequence -/

/-- The key is that of the rankers, or of one of them. -/
def NamesRankers (key : String) : Prop :=
  key = "ranking.rankers" ∨ startsWith key "ranking.rankers." = true

theorem startsWith_append (start value : String) :
  startsWith (start ++ value) start = true
  := by
  rw [startsWith, String.toList_append, List.isPrefixOf_iff_prefix]
  exact List.prefix_append _ _

/-- Numbers are read from keys while they are of type `int`. -/
theorem parseRankingRankerArrayIndex_toString (n : ℕ) :
  parseRankingRankerArrayIndex ("ranking.rankers." ++ toString n)
    = if n < 2 ^ 31 then some (n : ℤ) else none
  := by
  have hdrop : dropChars 16 ("ranking.rankers." ++ toString n) = toString n := by
    rw [dropChars, String.toList_append]
    exact String.ofList_toList
  have hlimit : (n : ℤ) ≤ 2 ^ 31 - 1 ↔ n < 2 ^ 31 := by omega
  have hsign : ¬ (n : ℤ) < 0 := by omega
  rw [parseRankingRankerArrayIndex, if_pos (startsWith_append _ _), hdrop,
    Text.readSigned_toString _ (by norm_num)]
  by_cases hn : n < 2 ^ 31
  · rw [if_pos (hlimit.mpr hn), if_pos hn]
    exact if_neg hsign
  · rw [if_neg fun h => hn (hlimit.mp h), if_neg hn]

theorem startsWith_of_parseRankingRankerArrayIndex {key : String}
    (h : (parseRankingRankerArrayIndex key).isSome = true) :
  startsWith key "ranking.rankers." = true
  := by
  rw [parseRankingRankerArrayIndex] at h
  split at h
  next hstart => exact hstart
  · cases h

theorem mem_of_findEntryByYamlKey {key : String} {entry : ConfigEntry}
    (h : findEntryByYamlKey key = some entry) :
  entry ∈ kConfigEntries ∧ entry.key = key
  := by
  have hkey := List.find?_some h
  exact ⟨List.mem_of_find?_eq_some h, of_decide_eq_true hkey⟩

/-- No field has a key under the sequence. -/
theorem findEntryByYamlKey_eq_none {key : String} (h : startsWith key "ranking.rankers." = true) :
  findEntryByYamlKey key = none
  := by
  have hall : ∀ entry ∈ kConfigEntries, startsWith entry.key "ranking.rankers." = false := by
    decide +kernel
  cases hfind : findEntryByYamlKey key with
  | none => rfl
  | some entry =>
      obtain ⟨hmem, rfl⟩ := mem_of_findEntryByYamlKey hfind
      rw [hall entry hmem] at h
      cases h

/-! ### The loop over the texts -/

/-- The names of rankers among some texts, with their numbers. -/
def indexedNames (values : List (String × String)) : List (ℤ × String) :=
  values.filterMap fun p => (parseRankingRankerArrayIndex p.1).map fun index => (index, p.2)

/-- The texts that are not names of rankers. -/
def otherValues (values : List (String × String)) : List (String × String) :=
  values.filter fun p => (parseRankingRankerArrayIndex p.1).isNone

/-- The loop keeps the names of rankers and sets the other texts. -/
theorem applyValues_eq (values : List (String × String)) (rankingRankers : List (ℤ × String))
    (config : GlobalConfig) :
  applyValues values rankingRankers config
    = ((applyValues (otherValues values) [] config).1.map
        fun _ => rankingRankers ++ indexedNames values,
      (applyValues (otherValues values) [] config).2)
  := by
  induction values generalizing rankingRankers config with
  | nil => simp [applyValues, otherValues, indexedNames, Except.map]
  | cons p values ih =>
      obtain ⟨key, value⟩ := p
      rw [applyValues]
      cases hindex : parseRankingRankerArrayIndex key with
      | some index =>
          have hothers : otherValues ((key, value) :: values) = otherValues values := by
            simp [otherValues, hindex]
          have hnames : indexedNames ((key, value) :: values) = (index, value) :: indexedNames values := by
            simp [indexedNames, hindex]
          rw [hothers, hnames]
          dsimp only
          rw [ih]
          simp
      | none =>
          have hothers : otherValues ((key, value) :: values) = (key, value) :: otherValues values := by
            simp [otherValues, hindex]
          have hnames : indexedNames ((key, value) :: values) = indexedNames values := by
            simp [indexedNames, hindex]
          rw [hothers, hnames, applyValues, hindex]
          dsimp only
          cases findEntryByYamlKey key with
          | none => rfl
          | some entry =>
              dsimp only
              cases config.set entry.field value with
              | error e => rfl
              | ok config => exact ih rankingRankers config

/-- Every text that the loop accepts is a name of a ranker or the text of a field. -/
theorem applyValues_keys {values : List (String × String)} {rankingRankers : List (ℤ × String)}
    {config : GlobalConfig} {names : List (ℤ × String)}
    (h : (applyValues values rankingRankers config).1 = .ok names) {p : String × String}
    (hp : p ∈ values) :
  (parseRankingRankerArrayIndex p.1).isSome = true ∨ (findEntryByYamlKey p.1).isSome = true
  := by
  induction values generalizing rankingRankers config with
  | nil => cases hp
  | cons q values ih =>
      obtain ⟨key, value⟩ := q
      rw [applyValues] at h
      rcases List.mem_cons.mp hp with rfl | hp
      · cases hindex : parseRankingRankerArrayIndex key with
        | some index => exact .inl rfl
        | none =>
            rw [hindex] at h
            cases hfind : findEntryByYamlKey key with
            | some entry => exact .inr rfl
            | none =>
                rw [hfind] at h
                cases h
      · split at h
        · exact ih h hp
        split at h
        · cases h
        split at h
        · cases h
        · exact ih h hp

/-- The loop leaves the names of the rankers when no text is under their key. -/
theorem getString_applyValues {values : List (String × String)}
    (hvalues : ∀ p ∈ values, p.1 ≠ "ranking.rankers") {rankingRankers names : List (ℤ × String)}
    {config config' : GlobalConfig}
    (h : applyValues values rankingRankers config = (.ok names, config')) :
  config'.getString .rankingRankers = config.getString .rankingRankers
  := by
  have hall : ∀ entry ∈ kConfigEntries, entry.field = .rankingRankers →
      entry.key = "ranking.rankers" := by decide +kernel
  induction values generalizing rankingRankers config with
  | nil =>
      cases h
      rfl
  | cons p values ih =>
      obtain ⟨key, value⟩ := p
      have hrest : ∀ p ∈ values, p.1 ≠ "ranking.rankers" :=
        fun p hp => hvalues p (List.mem_cons_of_mem _ hp)
      rw [applyValues] at h
      split at h
      · exact ih hrest h
      split at h
      · cases h
      next entry hentry =>
        obtain ⟨hmem, hkey⟩ := mem_of_findEntryByYamlKey hentry
        split at h
        · cases h
        next stored hset =>
          obtain ⟨text, -, rfl⟩ := exists_of_set_eq_ok hmem hset
          have hfield : Field.rankingRankers ≠ entry.field := by
            intro hfield
            apply hvalues (key, value) List.mem_cons_self
            rw [← hkey]
            exact hall entry hmem hfield.symm
          rw [ih hrest h, getString_store, if_neg hfield]

/-! ### Texts by key -/

theorem nodup_collect (values : List (String × String)) :
  ((Keyed.collect Prod.fst (fun p _ => p.2) values).map Prod.fst).Nodup
  := by
  rw [Keyed.map_fst_collect]
  exact Keyed.nodup_eraseDups _

theorem compares_fst :
  Ranked.Compares (fun a b : String × String => a.1 < b.1) Prod.fst
  := fun _ _ => decide_eq_true_iff

theorem mem_keys_loadedValues {values : List (String × String)} {key : String} :
  key ∈ (loadedValues values).map Prod.fst ↔ key ∈ values.map Prod.fst
  := by
  rw [loadedValues, ((Ranked.sortBy_perm _ _).map Prod.fst).mem_iff, Keyed.map_fst_collect,
    List.mem_eraseDups]

theorem otherValues_loadedValues (values : List (String × String)) :
  otherValues (loadedValues values) = loadedValues (otherValues values)
  := by
  rw [otherValues, loadedValues, Ranked.filter_sortBy compares_fst (nodup_collect values),
    Keyed.filter_collect fun key => (parseRankingRankerArrayIndex key).isNone]
  rfl

/-- The names of rankers do not depend on the order of the keys. -/
theorem indexedNames_loadedValues (values : List (String × String))
    (hvalues : ((values.filter fun p => (parseRankingRankerArrayIndex p.1).isSome).map
      Prod.fst).Nodup) :
  (indexedNames (loadedValues values)).Perm (indexedNames values)
  := by
  have hfilter : ∀ values, indexedNames values
      = indexedNames (values.filter fun p => (parseRankingRankerArrayIndex p.1).isSome) := by
    intro values
    rw [indexedNames, indexedNames, List.filterMap_filter]
    apply List.filterMap_congr
    intro p _
    cases parseRankingRankerArrayIndex p.1 <;> rfl
  have hloaded : (loadedValues values).filter (fun p => (parseRankingRankerArrayIndex p.1).isSome)
      = loadedValues (values.filter fun p => (parseRankingRankerArrayIndex p.1).isSome) := by
    rw [loadedValues, Ranked.filter_sortBy compares_fst (nodup_collect values),
      Keyed.filter_collect fun key => (parseRankingRankerArrayIndex key).isSome]
    rfl
  rw [hfilter values, hfilter (loadedValues values), hloaded]
  apply List.Perm.filterMap
  refine (Ranked.sortBy_perm _ _).trans ?_
  rw [Keyed.collect_of_nodup hvalues]
  simp

/-! ### Reading the names back -/

/-- Names with growing numbers are put in this order. -/
theorem rankerNames_of_perm {rankingRankers : List (ℤ × String)} {names : List String}
    (h : rankingRankers.Perm (names.mapIdx fun i name => ((i : ℤ), name))) :
  rankerNames rankingRankers = (names.map trim).filter (· ≠ "")
  := by
  have hcompares : Ranked.Compares
      (fun a b : ℤ × String => a.1 < b.1 ∨ (a.1 = b.1 ∧ a.2 < b.2)) toLex := by
    intro a b
    rw [decide_eq_true_iff, Prod.Lex.toLex_lt_toLex]
  have hsorted : (names.mapIdx fun i name => ((i : ℤ), name)).Pairwise
      fun a b => toLex a < toLex b := by
    rw [List.pairwise_iff_getElem]
    intro i j hi hj hij
    rw [List.getElem_mapIdx, List.getElem_mapIdx, Prod.Lex.toLex_lt_toLex]
    left
    exact Int.ofNat_lt.mpr hij
  rw [rankerNames, ← Ranked.eq_sortBy hcompares h.symm hsorted]
  congr 1
  apply List.ext_getElem
  · simp
  · intro i _ _
    simp

/-- The texts of a sequence of names. -/
def rankerValues (names : List String) : List (String × String) :=
  names.mapIdx fun i name => ("ranking.rankers." ++ toString i, name)

theorem flattenYamlNode_rankers (names : List String) :
  flattenYamlNode "ranking.rankers" (.sequence (names.map .scalar)) = .ok (rankerValues names)
  := by
  rw [flattenYamlNode, if_neg (by decide), flattenYamlNodes_scalar (by decide), rankerValues]
  simp only [Nat.zero_add]
  rfl

theorem nodup_rankerValues (names : List String) :
  ((rankerValues names).map Prod.fst).Nodup
  := by
  rw [List.nodup_iff_getElem?_ne_getElem?]
  intro i j hij hj
  simp only [rankerValues, List.length_map, List.length_mapIdx] at hj
  have hi : i < names.length := by omega
  simp only [rankerValues, List.getElem?_map, List.getElem?_mapIdx, List.getElem?_eq_getElem hi,
    List.getElem?_eq_getElem hj, Option.map_some, ne_eq, Option.some_inj]
  intro h
  have hnumber := String.append_right_inj _ |>.mp h
  have := Nat.repr_injective hnumber
  omega

theorem mem_rankerValues {names : List String} {p : String × String} (h : p ∈ rankerValues names) :
  ∃ i < names.length, p.1 = "ranking.rankers." ++ toString i
  := by
  obtain ⟨i, hi, rfl⟩ := List.mem_mapIdx.mp h
  exact ⟨i, hi, rfl⟩

/-- While the numbers are of type `int`, the texts of a sequence are names with their numbers. -/
theorem indexedNames_rankerValues {names : List String} (h : names.length ≤ 2 ^ 31) :
  indexedNames (rankerValues names) = names.mapIdx fun i name => ((i : ℤ), name)
  := by
  have hmap : (rankerValues names).map
        (fun p => (parseRankingRankerArrayIndex p.1).map fun index => (index, p.2))
      = (names.mapIdx fun i name => ((i : ℤ), name)).map some := by
    apply List.ext_getElem
    · simp [rankerValues]
    · intro i hi _
      rw [List.length_map, rankerValues, List.length_mapIdx] at hi
      have hnumber : i < 2 ^ 31 := by omega
      simp only [rankerValues, List.getElem_map, List.getElem_mapIdx,
        parseRankingRankerArrayIndex_toString, if_pos hnumber, Option.map_some]
  calc indexedNames (rankerValues names)
      = ((rankerValues names).map fun p =>
          (parseRankingRankerArrayIndex p.1).map fun index => (index, p.2)).filterMap id := by
        rw [List.filterMap_map, Function.id_comp, indexedNames]
    _ = names.mapIdx fun i name => ((i : ℤ), name) := by
        rw [hmap, List.filterMap_map, Function.id_comp, List.filterMap_some]

theorem otherValues_of_free {values : List (String × String)}
    (h : ∀ p ∈ values, ¬ NamesRankers p.1) :
  otherValues values = values ∧ indexedNames values = []
    ∧ values.filter (fun p => (parseRankingRankerArrayIndex p.1).isSome) = []
  := by
  have hnone : ∀ p ∈ values, parseRankingRankerArrayIndex p.1 = none := by
    intro p hp
    cases hindex : parseRankingRankerArrayIndex p.1 with
    | none => rfl
    | some index =>
        refine absurd (Or.inr ?_) (h p hp)
        exact startsWith_of_parseRankingRankerArrayIndex (by rw [hindex]; rfl)
  refine ⟨?_, ?_, ?_⟩
  · apply List.filter_eq_self.mpr
    intro p hp
    rw [hnone p hp]
    rfl
  · rw [indexedNames, List.filterMap_eq_nil_iff]
    intro p hp
    rw [hnone p hp]
    rfl
  · rw [List.filter_eq_nil_iff]
    intro p hp
    rw [hnone p hp]
    decide

/-- The loop over the rest of a document, when it names no ranker. -/
theorem applyValues_of_applyFile {filePath : String} {rest : YamlNode} {config restConfig : GlobalConfig}
    (hfree : ∀ values, flattenYamlNode "" rest = .ok values → ∀ p ∈ values, ¬ NamesRankers p.1)
    (hrest : applyFile filePath (.ok rest) config = (.ok (), restConfig)) :
  ∃ others, flattenYamlNode "" rest = .ok others
    ∧ applyValues (loadedValues others) [] config = (.ok [], restConfig)
  := by
  cases hothers : flattenYamlNode "" rest with
  | error e =>
      rw [applyFile, hothers] at hrest
      cases hrest
  | ok others =>
      refine ⟨others, rfl, ?_⟩
      obtain ⟨hother, hindexed, hnone⟩ := otherValues_of_free (hfree others hothers)
      have hnames : indexedNames (loadedValues others) = [] := by
        have hperm := indexedNames_loadedValues others (by rw [hnone]; exact List.nodup_nil)
        rw [hindexed] at hperm
        exact hperm.eq_nil
      have heq := applyValues_eq (loadedValues others) [] config
      rw [otherValues_loadedValues, hother, hnames] at heq
      rw [applyFile, hothers] at hrest
      dsimp only at hrest
      cases hloop : applyValues (loadedValues others) [] config with
      | mk result config' =>
          rw [hloop] at heq hrest
          cases result with
          | error e => cases hrest
          | ok names =>
              obtain rfl : names = [] := Except.ok.inj (congrArg Prod.fst heq)
              cases hrest
              rfl

/-- The texts of a document with a sequence of names are those of the rest and the names. -/
theorem flattenYamlNode_doc {doc rest : YamlNode} {names : List String}
    (hdoc : HoldsUnder "ranking.rankers" (.sequence (names.map .scalar)) "" doc rest)
    {others : List (String × String)} (hothers : flattenYamlNode "" rest = .ok others)
    (hfree : ∀ p ∈ others, ¬ NamesRankers p.1) (hlength : names.length ≤ 2 ^ 31) :
  ∃ values, flattenYamlNode "" doc = .ok values
    ∧ otherValues values = others
    ∧ (indexedNames (loadedValues values)).Perm (names.mapIdx fun i name => ((i : ℤ), name))
  := by
  obtain ⟨before, after, rfl, hvalues⟩ :=
    flattenYamlNode_of_holdsUnder hdoc (flattenYamlNode_rankers names) hothers
  obtain ⟨hbefore, hbeforeNames, hbeforeNone⟩ :=
    otherValues_of_free fun p hp => hfree p (List.mem_append_left after hp)
  obtain ⟨hafter, hafterNames, hafterNone⟩ :=
    otherValues_of_free fun p hp => hfree p (List.mem_append_right before hp)
  have hmiddle : otherValues (rankerValues names) = [] := by
    rw [otherValues, List.filter_eq_nil_iff]
    intro p hp
    obtain ⟨i, hi, hkey⟩ := mem_rankerValues hp
    rw [hkey, parseRankingRankerArrayIndex_toString, if_pos (by omega)]
    exact Bool.false_ne_true
  refine ⟨_, hvalues, ?_, ?_⟩
  · rw [otherValues] at hbefore hafter hmiddle ⊢
    rw [List.filter_append, List.filter_append, hbefore, hmiddle, hafter, List.append_nil]
  · refine (indexedNames_loadedValues _ ?_).trans ?_
    · rw [List.filter_append, List.filter_append, hbeforeNone, hafterNone, List.nil_append,
        List.append_nil]
      exact (nodup_rankerValues names).sublist (List.filter_sublist.map Prod.fst)
    · rw [← indexedNames_rankerValues hlength]
      rw [indexedNames] at hbeforeNames hafterNames ⊢
      rw [List.filterMap_append, List.filterMap_append, hbeforeNames, hafterNames, List.nil_append,
        List.append_nil]
      rfl

theorem set_rankingRankers (config : GlobalConfig) (value : String) :
  config.set .rankingRankers value = .ok (config.store .rankingRankers value)
  := by
  have hentry : entryForField .rankingRankers
      = .ok ⟨.rankingRankers, "ranking.rankers", "ranking_rankers", .string, "heuristic_v1"⟩ := by
    decide +kernel
  rw [set, hentry]
  rfl

/-- What loading the rest of a document and a sequence of names does. -/
theorem applyFile_rankers {filePath : String} {doc rest : YamlNode} {names : List String}
    {config restConfig : GlobalConfig}
    (hdoc : HoldsUnder "ranking.rankers" (.sequence (names.map .scalar)) "" doc rest)
    (hfree : ∀ values, flattenYamlNode "" rest = .ok values → ∀ p ∈ values, ¬ NamesRankers p.1)
    (hrest : applyFile filePath (.ok rest) config = (.ok (), restConfig))
    (hlength : names.length ≤ 2 ^ 31) :
  applyFile filePath (.ok doc) config
      = (.ok (), if names = [] then restConfig
          else restConfig.store .rankingRankers
            (joinCommaSeparatedValues ((names.map trim).filter (· ≠ ""))))
  := by
  obtain ⟨others, hothers, hloop⟩ := applyValues_of_applyFile hfree hrest
  obtain ⟨values, hvalues, hother, hnames⟩ :=
    flattenYamlNode_doc hdoc hothers (hfree others hothers) hlength
  have hloop' : applyValues (loadedValues values) [] config
      = (.ok (indexedNames (loadedValues values)), restConfig) := by
    rw [applyValues_eq, otherValues_loadedValues, hother, hloop]
    rfl
  rw [applyFile, hvalues]
  dsimp only
  rw [hloop']
  dsimp only
  by_cases hnil : names = []
  · rw [hnil] at hnames
    rw [if_pos hnames.eq_nil, if_pos hnil]
  · have hne : indexedNames (loadedValues values) ≠ [] := by
      intro hempty
      rw [hempty] at hnames
      have hlen := hnames.length_eq
      rw [List.length_mapIdx] at hlen
      exact hnil (List.length_eq_zero_iff.mp hlen.symm)
    rw [if_neg hne, rankerNames_of_perm hnames, if_neg hnil, set_rankingRankers]

/-- A number that is not of type `int` is the key of no field. -/
theorem length_le_of_applyFile {filePath : String} {doc rest : YamlNode} {names : List String}
    {config config' : GlobalConfig}
    (hdoc : HoldsUnder "ranking.rankers" (.sequence (names.map .scalar)) "" doc rest)
    {others : List (String × String)} (hothers : flattenYamlNode "" rest = .ok others)
    (h : applyFile filePath (.ok doc) config = (.ok (), config')) :
  names.length ≤ 2 ^ 31
  := by
  by_contra hlength
  obtain ⟨before, after, -, hvalues⟩ :=
    flattenYamlNode_of_holdsUnder hdoc (flattenYamlNode_rankers names) hothers
  have hlast : 2 ^ 31 < names.length := by omega
  have hmem : ("ranking.rankers." ++ toString (2 ^ 31), names[2 ^ 31])
      ∈ before ++ rankerValues names ++ after :=
    List.mem_append_left _ (List.mem_append_right _ (List.mem_mapIdx.mpr ⟨2 ^ 31, hlast, rfl⟩))
  obtain ⟨p, hp, hkey⟩ := List.mem_map.mp (mem_keys_loadedValues.mpr (List.mem_map_of_mem hmem))
  rw [applyFile, hvalues] at h
  dsimp only at h
  split at h
  · cases h
  next found hloop =>
    have hfound := applyValues_keys (congrArg Prod.fst hloop) hp
    rw [hkey, parseRankingRankerArrayIndex_toString, if_neg (lt_irrefl _),
      findEntryByYamlKey_eq_none (startsWith_append _ _)] at hfound
    rcases hfound with hfound | hfound <;> cases hfound

/-- The names that are read back after loading a document with a sequence of names are these names,
without blanks around them and without blank names, exactly when there is a name or no ranker was
configured before, and the numbers of the names are of type `int`.  Names that need no change are
split from their joined text. -/
theorem getRankingRankers_applyFile_iff {filePath : String} {doc rest : YamlNode}
    {names : List String} {config restConfig : GlobalConfig}
    (hdoc : HoldsUnder "ranking.rankers" (.sequence (names.map .scalar)) "" doc rest)
    (hfree : ∀ values, flattenYamlNode "" rest = .ok values → ∀ p ∈ values, ¬ NamesRankers p.1)
    (hrest : applyFile filePath (.ok rest) config = (.ok (), restConfig))
    (hnames : ∀ name ∈ names, ',' ∉ name.toList) :
  ((∃ config', applyFile filePath (.ok doc) config = (.ok (), config')
        ∧ config'.getRankingRankers = .ok ((names.map trim).filter (· ≠ "")))
      ↔ (names ≠ [] ∨ config.getRankingRankers = .ok []) ∧ names.length ≤ 2 ^ 31)
    ∧ ∀ values : List String,
      (∀ value ∈ values, value ≠ "" ∧ trim value = value ∧ ',' ∉ value.toList) →
      splitCommaSeparatedValues (joinCommaSeparatedValues values) = values
  := by
  refine ⟨?_, fun values => splitCommaSeparatedValues_join⟩
  obtain ⟨others, hothers, hloop⟩ := applyValues_of_applyFile hfree hrest
  have hkept : restConfig.getRankingRankers = config.getRankingRankers := by
    have hstring : restConfig.getString .rankingRankers = config.getString .rankingRankers := by
      refine getString_applyValues (fun p hp hkey => ?_) hloop
      obtain ⟨q, hq, hsame⟩ := List.mem_map.mp (mem_keys_loadedValues.mp (List.mem_map_of_mem hp))
      exact hfree others hothers q hq (.inl (hsame.trans hkey))
    rw [getRankingRankers, hstring, getRankingRankers]
  constructor
  · rintro ⟨config', hload, hread⟩
    have hlength := length_le_of_applyFile hdoc hothers hload
    refine ⟨?_, hlength⟩
    rw [applyFile_rankers hdoc hfree hrest hlength] at hload
    by_cases hnil : names = []
    · right
      rw [if_pos hnil] at hload
      cases hload
      rw [← hkept, hread, hnil]
      rfl
    · exact .inl hnil
  · rintro ⟨hread, hlength⟩
    refine ⟨_, applyFile_rankers hdoc hfree hrest hlength, ?_⟩
    by_cases hnil : names = []
    · rw [if_pos hnil, hkept, hread.resolve_left fun hne => hne hnil, hnil]
      rfl
    · rw [if_neg hnil, getRankingRankers, getString_store, if_pos rfl, Except.map,
        splitCommaSeparatedValues_join_trim hnames]

/-- Eleven names, with blanks around one and a blank one among them, are read back in order. -/
theorem getRankingRankers_applyFile_eleven :
  ∃ config', applyFile "f" (.ok (.map [(some "redis", .map [(some "host", .scalar "cache")]),
      (some "ranking", .map [(some "rankers", .sequence
        (["a", "b", " ", "d", " e ", "f", "g", "h", "i", "j", "k"].map .scalar))])])) {}
      = (.ok (), config')
    ∧ config'.getRankingRankers = .ok ["a", "b", "d", "e", "f", "g", "h", "i", "j", "k"]
  := by
  have hdoc : HoldsUnder "ranking.rankers" (.sequence
      (["a", "b", " ", "d", " e ", "f", "g", "h", "i", "j", "k"].map .scalar)) ""
      (.map [(some "redis", .map [(some "host", .scalar "cache")]),
        (some "ranking", .map [(some "rankers", .sequence
          (["a", "b", " ", "d", " e ", "f", "g", "h", "i", "j", "k"].map .scalar))])])
      (.map [(some "redis", .map [(some "host", .scalar "cache")]), (some "ranking", .map [])]) :=
    @HoldsUnder.inside _ _ "" "ranking" [_] [] _ _ (@HoldsUnder.entry _ _ _ "rankers" [] [] rfl)
  have hfree : ∀ values, flattenYamlNode ""
      (.map [(some "redis", .map [(some "host", .scalar "cache")]), (some "ranking", .map [])])
        = .ok values → ∀ p ∈ values, ¬ NamesRankers p.1 := by
    intro values hvalues p hp
    obtain rfl : [("redis.host", "cache")] = values := Except.ok.inj hvalues
    obtain rfl := List.mem_singleton.mp hp
    rintro (hkey | hkey)
    · exact absurd hkey (by decide)
    · exact absurd hkey (by decide +kernel)
  have hiff := (@getRankingRankers_applyFile_iff "f" _ _ _ {} (store {} .redisHost "cache") hdoc hfree
    (by decide +kernel) (by decide)).1
  have hnames : (["a", "b", " ", "d", " e ", "f", "g", "h", "i", "j", "k"].map trim).filter (· ≠ "")
      = ["a", "b", "d", "e", "f", "g", "h", "i", "j", "k"] := by
    decide +kernel
  rw [← hnames]
  exact hiff.mpr ⟨.inl (by decide), by norm_num⟩

/-- An empty sequence leaves the rankers that were configured before. -/
theorem getRankingRankers_applyFile_empty :
  (do
      let config ← resetToDefaults
      let loaded := applyFile "f" (.ok (.map [(some "ranking", .map [(some "rankers", .sequence [])])]))
        config
      loaded.1
      loaded.2.getRankingRankers)
      = .ok ["heuristic_v1"]
    ∧ ¬ (∀ (doc rest : YamlNode) (names : List String) (config restConfig : GlobalConfig),
      HoldsUnder "ranking.rankers" (.sequence (names.map .scalar)) "" doc rest →
      (∀ values, flattenYamlNode "" rest = .ok values → ∀ p ∈ values, ¬ NamesRankers p.1) →
      applyFile "f" (.ok rest) config = (.ok (), restConfig) →
      (∀ name ∈ names, ',' ∉ name.toList) →
      ∃ config', applyFile "f" (.ok doc) config = (.ok (), config')
        ∧ config'.getRankingRankers = .ok ((names.map trim).filter (· ≠ "")))
  := by
  refine ⟨by decide +kernel, fun hall => ?_⟩
  obtain ⟨config', hload, hread⟩ := hall
    (.map [(some "ranking", .map [(some "rankers", .sequence [])])])
    (.map [(some "ranking", .map [])]) [] (store {} .rankingRankers "heuristic_v1")
    (store {} .rankingRankers "heuristic_v1")
    (@HoldsUnder.inside _ _ "" "ranking" [] [] _ _ (@HoldsUnder.entry _ _ _ "rankers" [] [] rfl))
    (by
      intro values hvalues p hp
      obtain rfl : [] = values := Except.ok.inj hvalues
      cases hp)
    rfl (by simp)
  have hsame : store {} .rankingRankers "heuristic_v1" = config' := congrArg Prod.snd hload
  rw [← hsame] at hread
  exact absurd hread (by decide +kernel)

end GlobalConfig
