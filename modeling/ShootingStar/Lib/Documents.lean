import ShootingStar.Lib.Keyed
import Mathlib.Logic.Function.Basic

/-!
# Stores of documents

A cluster has indices, and an index has documents under identifiers.  Putting a document replaces the
document of its identifier.

Documents are put in chunks.  Some may be refused, put in another order than they came in, or put
again when a chunk is sent again, and whoever puts them stops at the first refusal.  So a run that
stops has put a part of some first chunks (`readResults_stream`).  Putting a part of some documents
only changes what is held under their identifiers (`SameBeyond.putAll`).
-/

namespace Documents

variable {ι κ δ ε : Type*}

/-- The documents of each index that exists. -/
abbrev Cluster (ι κ δ : Type*) := ι → Option (List (κ × δ))

/-- A document that is put under an identifier. -/
structure Action (ι κ δ : Type*) where
  index : ι
  id : κ
  source : δ
  deriving DecidableEq, Repr

/-- The results of the actions of a chunk, and what has been put when the first refusal is read, or
when all results are. -/
structure Answer (ι κ δ ε : Type*) where
  results : List (Option ε)
  stored : List (Action ι κ δ)

/-- There is a result for each action; what is put is of the chunk, and all of it unless an action is
refused.  An action may be put again, when the chunk is. -/
structure Answer.To (answer : Answer ι κ δ ε) (chunk : List (Action ι κ δ)) : Prop where
  length_results : answer.results.length = chunk.length
  subset : answer.stored ⊆ chunk
  superset : (∀ result ∈ answer.results, result = none) → chunk ⊆ answer.stored

/-- The results are read until one is a refusal: how many there were, or the refusal, and the cluster
at the end. -/
def readResults (n : ℕ) : List (Option ε × Cluster ι κ δ) → Cluster ι κ δ →
    Except ε ℕ × Cluster ι κ δ
  | [], cluster => (.ok n, cluster)
  | (some e, cluster) :: _, _ => (.error e, cluster)
  | (none, cluster) :: rest, _ => readResults (n + 1) rest cluster

/-- Results of one chunk without a refusal are counted. -/
theorem readResults_append_of_forall {results : List (Option ε)} {left cluster : Cluster ι κ δ}
    (h : ∀ result ∈ results, result = none) (hleft : results = [] → left = cluster) (n : ℕ)
    (rest : List (Option ε × Cluster ι κ δ)) :
  readResults n (results.map (fun result => (result, left)) ++ rest) cluster
    = readResults (n + results.length) rest left
  := by
  induction results generalizing n cluster with
  | nil =>
      obtain rfl := hleft rfl
      rfl
  | cons result results ih =>
      obtain rfl := h result List.mem_cons_self
      rw [List.map_cons, List.cons_append, readResults,
        ih (fun result hresult => h result (List.mem_cons_of_mem _ hresult)) (fun _ => rfl),
        List.length_cons, Nat.add_assoc, Nat.add_comm 1]

/-- A refusal among the results of one chunk ends the reading. -/
theorem readResults_append_of_exists {results : List (Option ε)}
    (h : ∃ result ∈ results, result ≠ none) (n : ℕ) (left cluster : Cluster ι κ δ)
    (rest : List (Option ε × Cluster ι κ δ)) :
  ∃ e, some e ∈ results
    ∧ readResults n (results.map (fun result => (result, left)) ++ rest) cluster = (.error e, left)
  := by
  induction results generalizing n cluster with
  | nil =>
      obtain ⟨result, hresult, -⟩ := h
      cases hresult
  | cons first results ih =>
      cases first with
      | some e => exact ⟨e, List.mem_cons_self, rfl⟩
      | none =>
          have hrest : ∃ result ∈ results, result ≠ none := by
            obtain ⟨result, hresult, hne⟩ := h
            use result
            exact ⟨(List.mem_cons.mp hresult).resolve_left hne, hne⟩
          obtain ⟨e, he, hread⟩ := ih hrest (n + 1) left
          exact ⟨e, List.mem_cons_of_mem _ he, hread⟩

variable [DecidableEq ι] [DecidableEq κ]

/-! ### Documents that are put -/

/-- The document of an identifier. -/
def get (cluster : Cluster ι κ δ) (index : ι) (id : κ) : Option δ :=
  (cluster index).bind fun documents => documents.lookup id

/-- The cluster after an action; an index that is missing is created. -/
def put (cluster : Cluster ι κ δ) (action : Action ι κ δ) : Cluster ι κ δ :=
  Function.update cluster action.index
    (some (Keyed.upsert action.id (fun _ => action.source) ((cluster action.index).getD [])))

/-- The cluster after some actions. -/
def putAll (cluster : Cluster ι κ δ) (actions : List (Action ι κ δ)) : Cluster ι κ δ :=
  actions.foldl put cluster

/-- What an action is about. -/
def Action.key (action : Action ι κ δ) : ι × κ :=
  (action.index, action.id)

theorem get_put (cluster : Cluster ι κ δ) (action : Action ι κ δ) (index : ι) (id : κ) :
  get (put cluster action) index id
    = if action.key = (index, id) then some action.source else get cluster index id
  := by
  by_cases hindex : action.index = index
  · subst hindex
    rw [get, put, Function.update_self, Option.bind_some, Keyed.lookup_upsert, get]
    cases cluster action.index with
    | none => simp [Action.key, eq_comm]
    | some documents => simp [Action.key, eq_comm]
  · rw [if_neg (fun h => hindex (congrArg Prod.fst h)), get, put,
      Function.update_of_ne (Ne.symm hindex), get]

theorem putAll_append (cluster : Cluster ι κ δ) (actions actions' : List (Action ι κ δ)) :
  putAll cluster (actions ++ actions') = putAll (putAll cluster actions) actions'
  := List.foldl_append

/-- An identifier that no action is about keeps its document. -/
theorem get_putAll_of_not_mem {actions : List (Action ι κ δ)} {index : ι} {id : κ}
    (h : (index, id) ∉ actions.map Action.key) (cluster : Cluster ι κ δ) :
  get (putAll cluster actions) index id = get cluster index id
  := by
  induction actions generalizing cluster with
  | nil => rfl
  | cons action actions ih =>
      rw [List.map_cons, List.mem_cons, not_or] at h
      rw [putAll, List.foldl_cons, ← putAll, ih h.2, get_put, if_neg (Ne.symm h.1)]

/-- An identifier that one action is about, however often it is put, has its document. -/
theorem get_putAll_of_mem {actions : List (Action ι κ δ)} {action : Action ι κ δ}
    (haction : action ∈ actions) (h : ∀ other ∈ actions, other.key = action.key → other = action)
    (cluster : Cluster ι κ δ) :
  get (putAll cluster actions) action.index action.id = some action.source
  := by
  induction actions using List.reverseRecOn with
  | nil => cases haction
  | append_singleton actions last ih =>
      rw [putAll_append, putAll, List.foldl_cons, List.foldl_nil, get_put]
      split
      next hkey => rw [h last (by simp) hkey]
      next hkey =>
        apply ih
        · rcases List.mem_append.mp haction with hmem | hmem
          · exact hmem
          · rw [List.mem_singleton.mp hmem] at hkey
            exact absurd rfl hkey
        · exact fun other hother => h other (List.mem_append_left _ hother)

/-- Only documents of the identifiers of some actions differ. -/
def SameBeyond (actions : List (Action ι κ δ)) (left cluster : Cluster ι κ δ) : Prop :=
  ∀ index id, (index, id) ∉ actions.map Action.key → get left index id = get cluster index id

/-- Putting a part of some actions only changes what these are about. -/
theorem SameBeyond.putAll {actions stored : List (Action ι κ δ)} {left cluster : Cluster ι κ δ}
    (h : SameBeyond actions left cluster) (hstored : stored ⊆ actions) :
  SameBeyond actions (putAll left stored) cluster
  := by
  intro index id hmem
  rw [get_putAll_of_not_mem (fun hstored' => hmem (List.map_subset _ hstored hstored')),
    h index id hmem]

/-! ### Chunks -/

omit [DecidableEq ι] [DecidableEq κ] in
theorem append_subset_append {sent sent' stored stored' : List (Action ι κ δ)}
    (h : stored ⊆ sent) (h' : stored' ⊆ sent') :
  stored ++ stored' ⊆ sent ++ sent'
  := List.append_subset.mpr
    ⟨List.subset_append_of_subset_left _ h, List.subset_append_of_subset_right _ h'⟩

/-- The results of chunks, each with the cluster when it is read. -/
def stream : List (Answer ι κ δ ε) → Cluster ι κ δ → List (Option ε × Cluster ι κ δ)
  | [], _ => []
  | answer :: answers, cluster =>
    let left := putAll cluster answer.stored
    answer.results.map (fun result => (result, left)) ++ stream answers left

/-- A chunk without a refusal is put before the results of the next one. -/
theorem readResults_stream_of_forall {answer : Answer ι κ δ ε} {chunk : List (Action ι κ δ)}
    (hanswer : answer.To chunk) (h : ∀ result ∈ answer.results, result = none) (n : ℕ)
    (answers : List (Answer ι κ δ ε)) (cluster : Cluster ι κ δ) :
  readResults n (stream (answer :: answers) cluster) cluster
    = readResults (n + chunk.length) (stream answers (putAll cluster answer.stored))
        (putAll cluster answer.stored)
  := by
  have hempty : answer.results = [] → putAll cluster answer.stored = cluster := by
    intro hresults
    have hlength := hanswer.length_results
    rw [hresults, List.length_nil, eq_comm, List.length_eq_zero_iff] at hlength
    have hstored := hanswer.subset
    rw [hlength, List.subset_nil] at hstored
    rw [hstored]
    rfl
  rw [stream, readResults_append_of_forall h hempty, hanswer.length_results]

/-- All chunks are put, or one action is refused and the reading stops when a part of some first
chunks has been put. -/
theorem readResults_stream {answers : List (Answer ι κ δ ε)}
    {chunks : List (List (Action ι κ δ))} (h : List.Forall₂ Answer.To answers chunks) (n : ℕ)
    (cluster : Cluster ι κ δ) :
  ((∀ answer ∈ answers, ∀ result ∈ answer.results, result = none)
      ∧ ∃ stored, stored ⊆ chunks.flatten ∧ chunks.flatten ⊆ stored
        ∧ readResults n (stream answers cluster) cluster
          = (.ok (n + chunks.flatten.length), putAll cluster stored))
    ∨ ∃ e sent stored, (∃ answer ∈ answers, some e ∈ answer.results)
      ∧ sent <+: chunks ∧ stored ⊆ sent.flatten
      ∧ readResults n (stream answers cluster) cluster = (.error e, putAll cluster stored)
  := by
  induction h generalizing n cluster with
  | nil =>
      left
      exact ⟨by simp, [], List.Subset.refl _, List.Subset.refl _, rfl⟩
  | @cons answer chunk answers chunks hanswer hrest ih =>
      by_cases hall : ∀ result ∈ answer.results, result = none
      case neg =>
        right
        push Not at hall
        obtain ⟨e, he, hread⟩ := readResults_append_of_exists hall n
          (putAll cluster answer.stored) cluster (stream answers (putAll cluster answer.stored))
        use e, [chunk], answer.stored, ⟨answer, List.mem_cons_self, he⟩
        refine ⟨List.prefix_append [chunk] chunks, ?_, hread⟩
        rw [List.flatten_singleton]
        exact hanswer.subset
      case pos =>
        rw [readResults_stream_of_forall hanswer hall, List.flatten_cons]
        rcases ih (n + chunk.length) (putAll cluster answer.stored)
          with ⟨hnone, stored, hsubset, hsuperset, hread⟩
            | ⟨e, sent, stored, ⟨refusing, hrefusing, he⟩, hsent, hsubset, hread⟩
        · left
          use List.forall_mem_cons.mpr ⟨hall, hnone⟩, answer.stored ++ stored
          refine ⟨append_subset_append hanswer.subset hsubset,
            append_subset_append (hanswer.superset hall) hsuperset, ?_⟩
          rw [hread, putAll_append, List.length_append, Nat.add_assoc]
        · right
          use e, chunk :: sent, answer.stored ++ stored
          use ⟨refusing, List.mem_cons_of_mem _ hrefusing, he⟩
          refine ⟨(List.prefix_cons_inj chunk).mpr hsent, ?_, ?_⟩
          · rw [List.flatten_cons]
            exact append_subset_append hanswer.subset hsubset
          · rw [hread, putAll_append]

end Documents
