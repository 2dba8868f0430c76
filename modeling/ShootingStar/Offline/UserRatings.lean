import ShootingStar.Lib.Keyed
import ShootingStar.Lib.Ranked
import ShootingStar.Offline.UserProfile

/-!
# The ratings of each user

The builder goes over the rating rows and yields the ratings of one user after another.  When the
rows are said to be sorted it holds the ratings of one user only, and throws when a user comes back
who was done before.  It throws exactly when the rows of some user are not contiguous, and yields
the groups of the rows otherwise (`iterUserRatings_groups`).
-/

namespace OfflineDataProcessing

namespace UserProfileBuilder

variable {R : Type*}

/-- The ratings of one user after another, and the message of the exception that is thrown after
them. -/
structure YieldedRatings (R : Type*) where
  groups : List (ℤ × List R)
  exception : Option String := none
  deriving DecidableEq, Repr

namespace YieldedRatings

/-- What is yielded after the ratings of a user. -/
def cons (group : ℤ × List R) (rest : YieldedRatings R) : YieldedRatings R :=
  { rest with groups := group :: rest.groups }

end YieldedRatings

/-- The message for a user who comes back. -/
def notGroupedMessage (userId : ℤ) : String :=
  "ratings.csv is not grouped by userId: " ++ s!"user_id {userId} appeared after it was already "
    ++ "processed. Sort ratings.csv by userId or rerun with --ratings-unsorted for small files."

/-- The loop over sorted rows: the ratings of the current user are held back, and `completed` lists
the users who are done. -/
def iterSortedRatings (currentUserId : ℤ) (currentRatings : List R) (completedUserIds : List ℤ) :
    List (ℤ × R) → YieldedRatings R
  | [] => { groups := [(currentUserId, currentRatings)] }
  | (userId, interaction) :: rows =>
    if userId ≠ currentUserId then
      let completedUserIds := currentUserId :: completedUserIds
      if userId ∈ completedUserIds then
        { groups := [], exception := some (notGroupedMessage userId) }
      else
        (iterSortedRatings userId [interaction] completedUserIds rows).cons
          (currentUserId, currentRatings)
    else
      iterSortedRatings currentUserId (currentRatings ++ [interaction]) completedUserIds rows

/-- The ratings of each user, from rows that are sorted by user or not. -/
def iterUserRatings (ratingsSortedByUser : Bool) (rows : List (ℤ × R)) : YieldedRatings R :=
  if ratingsSortedByUser then
    match rows with
    | [] => { groups := [] }
    | (userId, interaction) :: rows => iterSortedRatings userId [interaction] [] rows
  else
    let grouped := Keyed.collect Prod.fst (fun row found => found.getD [] ++ [row.2]) rows
    { groups := Ranked.sortBy (fun x y => x.1 < y.1) grouped }

/-! ### Groups -/

/-- The ratings of a group of rows. -/
def ratingsOf (group : ℤ × List (ℤ × R)) : ℤ × List R :=
  (group.1, group.2.map Prod.snd)

/-- The rows of the ratings of a user. -/
def rowsOf (userId : ℤ) (ratings : List R) : List (ℤ × R) :=
  ratings.map fun rating => (userId, rating)

theorem ratingsOf_rowsOf (userId : ℤ) (ratings : List R) :
  ratingsOf (userId, rowsOf userId ratings) = (userId, ratings)
  := by
  simp [ratingsOf, rowsOf, Function.comp_def]

theorem fst_of_mem_rowsOf {userId : ℤ} {ratings : List R} :
  ∀ row ∈ rowsOf userId ratings, row.1 = userId
  := by
  intro row hrow
  obtain ⟨rating, -, rfl⟩ := List.mem_map.mp hrow
  rfl

theorem rowsOf_ne_nil {userId : ℤ} {ratings : List R} (h : ratings ≠ []) :
  rowsOf userId ratings ≠ []
  := by
  simpa [rowsOf] using h

/-- What is yielded for runs when the users in `completed` are done: the runs, up to the end or to
the second run of some user. -/
structure Yields (completed : List ℤ) (runs : List (ℤ × List R)) (yielded : YieldedRatings R) :
    Prop where
  begins : yielded.groups <+: runs
  distinct : (yielded.groups.map Prod.fst).Nodup
  fresh : ∀ group ∈ yielded.groups, group.1 ∉ completed
  finishes : yielded.exception = none → yielded.groups = runs
  throws : ∀ message, yielded.exception = some message →
    (∃ userId, message = notGroupedMessage userId)
      ∧ ¬ ((runs.map Prod.fst).Nodup ∧ ∀ run ∈ runs, run.1 ∉ completed)

/-- The ratings of a user who is not done, and what is yielded after them. -/
theorem Yields.cons {completed : List ℤ} {runs : List (ℤ × List R)} {yielded : YieldedRatings R}
    {group : ℤ × List R} (h : Yields (group.1 :: completed) runs yielded)
    (hfresh : group.1 ∉ completed) :
  Yields completed (group :: runs) (yielded.cons group)
  := by
  constructor
  · exact List.cons_prefix_cons.mpr ⟨rfl, h.begins⟩
  · apply List.nodup_cons.mpr
    constructor
    · intro hmem
      obtain ⟨other, hother, heq⟩ := List.mem_map.mp hmem
      apply h.fresh other hother
      rw [heq]
      exact List.mem_cons_self
    · exact h.distinct
  · intro other hother
    rcases List.mem_cons.mp hother with rfl | hother
    · exact hfresh
    · exact fun hmem => h.fresh other hother (List.mem_cons_of_mem _ hmem)
  · intro hnone
    exact congrArg (List.cons group) (h.finishes hnone)
  · intro message hmessage
    obtain ⟨hwhich, hthrows⟩ := h.throws message hmessage
    use hwhich
    rintro ⟨hnodup, hcompleted⟩
    rw [List.map_cons, List.nodup_cons] at hnodup
    apply hthrows
    use hnodup.2
    intro run hrun hmem
    rcases List.mem_cons.mp hmem with heq | hmem
    · apply hnodup.1
      rw [← heq]
      exact List.mem_map_of_mem hrun
    · exact hcompleted run (List.mem_cons_of_mem _ hrun) hmem

/-- The loop yields the runs of the rows it holds back and of those that come. -/
theorem yields_iterSortedRatings {currentUserId : ℤ} {currentRatings : List R}
    {completedUserIds : List ℤ} (hne : currentRatings ≠ []) (hfresh : currentUserId ∉ completedUserIds)
    (rows : List (ℤ × R)) :
  Yields completedUserIds
    ((Keyed.runs Prod.fst (rowsOf currentUserId currentRatings ++ rows)).map ratingsOf)
    (iterSortedRatings currentUserId currentRatings completedUserIds rows)
  := by
  induction rows generalizing currentUserId currentRatings completedUserIds with
  | nil =>
      rw [Keyed.runs_append (rowsOf_ne_nil hne) fst_of_mem_rowsOf (by simp)]
      refine ⟨?_, by simp [iterSortedRatings], ?_, ?_, by simp [iterSortedRatings]⟩
      · simp [iterSortedRatings, Keyed.runs, ratingsOf_rowsOf]
      · simpa [iterSortedRatings] using hfresh
      · simp [iterSortedRatings, Keyed.runs, ratingsOf_rowsOf]
  | cons row rows ih =>
      obtain ⟨userId, interaction⟩ := row
      rw [iterSortedRatings]
      by_cases huser : userId ≠ currentUserId
      · have hnext : ∀ row ∈ ((userId, interaction) :: rows).head?, row.1 ≠ currentUserId := by
          simpa using huser
        rw [if_pos huser, Keyed.runs_append (rowsOf_ne_nil hne) fst_of_mem_rowsOf hnext,
          List.map_cons, ratingsOf_rowsOf]
        dsimp only
        split
        next hcompleted =>
          refine ⟨List.nil_prefix, List.nodup_nil, by simp, by simp, ?_⟩
          intro message hmessage
          use ⟨userId, (Option.some.inj hmessage).symm⟩
          rintro ⟨-, hdone⟩
          have hhead := Keyed.map_head?_runs Prod.fst ((userId, interaction) :: rows)
          rw [List.head?_cons, Option.map_some, Option.map_eq_some_iff] at hhead
          obtain ⟨run, hrun, hid⟩ := hhead
          apply hdone (ratingsOf run)
          · apply List.mem_cons_of_mem
            exact List.mem_map_of_mem (List.mem_of_mem_head? hrun)
          · rcases List.mem_cons.mp hcompleted with heq | hmem
            · exact absurd heq huser
            · rwa [ratingsOf, hid]
        next hcompleted =>
          have hyields := ih (List.cons_ne_nil interaction []) hcompleted
          exact hyields.cons hfresh
      · rw [if_neg huser]
        rw [not_not] at huser
        have hsplit : rowsOf currentUserId currentRatings ++ (userId, interaction) :: rows
            = rowsOf currentUserId (currentRatings ++ [interaction]) ++ rows := by
          simp [rowsOf, huser]
        rw [hsplit]
        exact ih (by simp) hfresh

/-- In sorted mode the runs of the rows are yielded. -/
theorem yields_iterUserRatings (rows : List (ℤ × R)) :
  Yields [] ((Keyed.runs Prod.fst rows).map ratingsOf) (iterUserRatings true rows)
  := by
  cases rows with
  | nil => exact ⟨List.nil_prefix, List.nodup_nil, by simp [iterUserRatings], by simp [iterUserRatings, Keyed.runs],
      by simp [iterUserRatings]⟩
  | cons row rows =>
      exact yields_iterSortedRatings (List.cons_ne_nil row.2 []) (by simp) rows

theorem map_fst_map_ratingsOf (groups : List (ℤ × List (ℤ × R))) :
  (groups.map ratingsOf).map Prod.fst = groups.map Prod.fst
  := by
  rw [List.map_map]
  rfl

/-- The groups yielded from rows that are not sorted. -/
theorem iterUserRatings_unsorted (rows : List (ℤ × R)) :
  iterUserRatings false rows
    = { groups := Ranked.sortBy (fun x y => x.1 < y.1)
          ((Keyed.groups Prod.fst rows).map ratingsOf) }
  := by
  have hgroups := Keyed.collect_append_map_eq_groups Prod.fst Prod.snd rows
  simp only [iterUserRatings, Bool.false_eq_true, if_false, hgroups]
  rfl

/-- The ratings of a maximal run of rows of one user. -/
def IsUserRun (rows : List (ℤ × R)) (group : ℤ × List R) : Prop :=
  ∃ run, Keyed.IsRun Prod.fst rows run ∧ ratingsOf run = group

/-- In sorted mode an exception is thrown exactly when the rows of some user are not contiguous.
Without one each user is yielded once with all the ratings, as in unsorted mode; with one the
groups before it are maximal runs of distinct users. -/
theorem iterUserRatings_groups (rows : List (ℤ × R)) :
  ((∃ userId, (iterUserRatings true rows).exception = some (notGroupedMessage userId))
      ↔ ¬ Keyed.Contiguous Prod.fst rows)
    ∧ ((iterUserRatings true rows).exception.isSome ↔ ¬ Keyed.Contiguous Prod.fst rows)
    ∧ ((iterUserRatings true rows).exception = none →
      (iterUserRatings true rows).groups.map Prod.fst = (rows.map Prod.fst).eraseDups
        ∧ (∀ group ∈ (iterUserRatings true rows).groups,
          group.2 = (rows.filter (·.1 = group.1)).map Prod.snd)
        ∧ (iterUserRatings false rows).exception = none
        ∧ (iterUserRatings true rows).groups.Perm (iterUserRatings false rows).groups)
    ∧ ((iterUserRatings true rows).exception.isSome →
      (∀ group ∈ (iterUserRatings true rows).groups, IsUserRun rows group)
        ∧ ((iterUserRatings true rows).groups.map Prod.fst).Nodup)
  := by
  have hyields := yields_iterUserRatings rows
  have hcontiguous : Keyed.Contiguous Prod.fst rows
      ↔ (((Keyed.runs Prod.fst rows).map ratingsOf).map Prod.fst).Nodup := by
    rw [map_fst_map_ratingsOf]
    exact Keyed.contiguous_iff
  have hthrows : ∀ message, (iterUserRatings true rows).exception = some message →
      (∃ userId, message = notGroupedMessage userId) ∧ ¬ Keyed.Contiguous Prod.fst rows := by
    intro message hmessage
    obtain ⟨hwhich, hnot⟩ := hyields.throws message hmessage
    use hwhich
    intro hnodup
    exact hnot ⟨hcontiguous.mp hnodup, by simp⟩
  have hfinishes : (iterUserRatings true rows).exception = none →
      (iterUserRatings true rows).groups = (Keyed.groups Prod.fst rows).map ratingsOf := by
    intro hnone
    have hgroups := hyields.finishes hnone
    rw [hgroups, Keyed.runs_eq_groups]
    rw [hcontiguous, ← hgroups]
    exact hyields.distinct
  have hisSome : (iterUserRatings true rows).exception.isSome ↔ ¬ Keyed.Contiguous Prod.fst rows := by
    constructor
    · intro hsome
      obtain ⟨message, hmessage⟩ := Option.isSome_iff_exists.mp hsome
      exact (hthrows message hmessage).2
    · intro hnot
      rw [Option.isSome_iff_ne_none]
      intro hnone
      apply hnot
      rw [hcontiguous, ← hyields.finishes hnone]
      exact hyields.distinct
  refine ⟨⟨?_, ?_⟩, hisSome, ?_, ?_⟩
  · rintro ⟨userId, hmessage⟩
    exact (hthrows _ hmessage).2
  · intro hnot
    obtain ⟨message, hmessage⟩ := Option.isSome_iff_exists.mp (hisSome.mpr hnot)
    obtain ⟨⟨userId, rfl⟩, -⟩ := hthrows message hmessage
    use userId
  · intro hnone
    rw [hfinishes hnone, iterUserRatings_unsorted, map_fst_map_ratingsOf, Keyed.map_fst_groups]
    refine ⟨rfl, ?_, rfl, (Ranked.sortBy_perm _ _).symm⟩
    intro group hgroup
    obtain ⟨rowsOfGroup, hrows, rfl⟩ := List.mem_map.mp hgroup
    rw [ratingsOf, (Keyed.mem_groups.mp hrows).2]
  · intro _
    use ?_, hyields.distinct
    intro group hgroup
    obtain ⟨run, hrun, rfl⟩ := List.mem_map.mp (hyields.begins.subset hgroup)
    exact ⟨run, Keyed.isRun_of_mem_runs hrun, rfl⟩

/-- The first user comes back after the second: only the ratings of the first had been yielded. -/
example : (iterUserRatings true [(1, 10), (1, 11), (2, 12), (1, 13)]).groups
    = [(1, [10, 11])] := by
  decide

end UserProfileBuilder

end OfflineDataProcessing
