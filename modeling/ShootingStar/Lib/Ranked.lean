import Mathlib.Data.List.Sort
import Mathlib.Data.Prod.Lex
import Mathlib.Order.OrderDual

/-!
# Sorting by a comparison

`sortBy lt` is a stable sort by a comparison `lt`, as a program passes it to its sort.  When
`lt` compares ranks in a linear order (`Compares`), the result is sorted by rank.  When the ranks
are distinct the sorted list is unique, so it does not depend on the order of the input, and the
first `n` entries are the `n` entries of least rank.

`FirstGreatest score l a` tells that `a` is the first of the entries of `l` of greatest score.
-/

namespace Ranked

variable {α β : Type*}

/-- The entries sorted by `lt`, which tells whether an entry goes strictly before another. -/
def sortBy (lt : α → α → Bool) (l : List α) : List α :=
  l.insertionSort (fun a b => lt b a = false)

@[simp]
theorem sortBy_nil (lt : α → α → Bool) :
  sortBy lt [] = []
  := rfl

/-- The sorted list has the same entries. -/
theorem sortBy_perm (lt : α → α → Bool) (l : List α) :
  (sortBy lt l).Perm l
  := List.perm_insertionSort _ l

@[simp]
theorem mem_sortBy {lt : α → α → Bool} {l : List α} {a : α} :
  a ∈ sortBy lt l ↔ a ∈ l
  := (sortBy_perm lt l).mem_iff

@[simp]
theorem length_sortBy (lt : α → α → Bool) (l : List α) :
  (sortBy lt l).length = l.length
  := (sortBy_perm lt l).length_eq

/-- Sorting commutes with a map that keeps the comparison. -/
theorem map_sortBy {lt : α → α → Bool} (lt' : β → β → Bool) (f : α → β) {l : List α}
    (h : ∀ a b, lt a b = lt' (f a) (f b)) :
  (sortBy lt l).map f = sortBy lt' (l.map f)
  := by
  apply List.map_insertionSort
  intro a _ b _
  rw [h]

section Ranks

variable [LinearOrder β] {lt : α → α → Bool} {rank : α → β}

/-- The comparison compares ranks. -/
def Compares (lt : α → α → Bool) (rank : α → β) : Prop :=
  ∀ a b, lt a b = true ↔ rank a < rank b

/-- The sorted list is sorted by rank. -/
theorem pairwise_sortBy (h : Compares lt rank) (l : List α) :
  (sortBy lt l).Pairwise (fun a b => rank a ≤ rank b)
  := by
  have hle : ∀ a b, lt b a = false ↔ rank a ≤ rank b := by
    intro a b
    rw [← not_lt, ← h b a, Bool.not_eq_true]
  have htotal : Std.Total (fun a b => lt b a = false) := by
    constructor
    intro a b
    rw [hle, hle]
    apply le_total
  have htrans : IsTrans α (fun a b => lt b a = false) := by
    constructor
    intro a b c
    rw [hle, hle, hle]
    apply le_trans
  apply (List.pairwise_insertionSort (fun a b => lt b a = false) l).imp
  intro a b hab
  exact (hle a b).mp hab

/-- With distinct ranks the sorted list is strictly sorted. -/
theorem pairwise_lt_sortBy (h : Compares lt rank) {l : List α} (hl : (l.map rank).Nodup) :
  (sortBy lt l).Pairwise (fun a b => rank a < rank b)
  := by
  have hne : (sortBy lt l).Pairwise (fun a b => rank a ≠ rank b) := by
    apply List.pairwise_map.mp
    exact ((sortBy_perm lt l).map rank).nodup_iff.mpr hl
  exact (pairwise_sortBy h l).imp₂ (fun a b hab hne => lt_of_le_of_ne hab hne) hne

/-- A strictly sorted list is the sorted list of its entries. -/
theorem eq_sortBy (h : Compares lt rank) {l l' : List α} (hp : l'.Perm l)
    (hl' : l'.Pairwise (fun a b => rank a < rank b)) :
  l' = sortBy lt l
  := by
  have hnodup : (l.map rank).Nodup := by
    apply (hp.map rank).nodup_iff.mp
    apply List.pairwise_map.mpr
    exact hl'.imp (fun hab => hab.ne)
  apply (hp.trans (sortBy_perm lt l).symm).eq_of_pairwise _ hl' (pairwise_lt_sortBy h hnodup)
  intro a b _ _ hab hba
  exact absurd hab hba.asymm

/-- With distinct ranks, some of the entries are sorted as among all. -/
theorem filter_sortBy (h : Compares lt rank) {l : List α} (hl : (l.map rank).Nodup) (p : α → Bool) :
  (sortBy lt l).filter p = sortBy lt (l.filter p)
  := eq_sortBy h ((sortBy_perm lt l).filter p) ((pairwise_lt_sortBy h hl).filter p)

/-- With distinct ranks the order of the input does not matter. -/
theorem sortBy_eq_of_perm (h : Compares lt rank) {l l' : List α} (hl : (l.map rank).Nodup)
    (hp : l.Perm l') :
  sortBy lt l = sortBy lt l'
  := eq_sortBy h ((sortBy_perm lt l).trans hp) (pairwise_lt_sortBy h hl)

/-- A list sorted by rank is the sorted list of its entries, when entries of one rank are equal. -/
theorem eq_sortBy_of_injOn (h : Compares lt rank) {l l' : List α}
    (hinj : ∀ a ∈ l, ∀ b ∈ l, rank a = rank b → a = b) (hp : l'.Perm l)
    (hl' : l'.Pairwise (fun a b => rank a ≤ rank b)) :
  l' = sortBy lt l
  := by
  apply (hp.trans (sortBy_perm lt l).symm).eq_of_pairwise _ hl' (pairwise_sortBy h l)
  intro a b ha hb hab hba
  apply hinj a (hp.mem_iff.mp ha) b (mem_sortBy.mp hb)
  exact le_antisymm hab hba

/-- The order of the input does not matter, when entries of one rank are equal. -/
theorem sortBy_eq_of_perm_of_injOn (h : Compares lt rank) {l l' : List α}
    (hinj : ∀ a ∈ l', ∀ b ∈ l', rank a = rank b → a = b) (hp : l.Perm l') :
  sortBy lt l = sortBy lt l'
  := eq_sortBy_of_injOn h hinj ((sortBy_perm lt l).trans hp) (pairwise_sortBy h l)

/-- An entry beyond the first `n` has a greater rank than the first `n`. -/
theorem rank_lt_of_not_mem_take (h : Compares lt rank) {l : List α} (hl : (l.map rank).Nodup)
    {n : ℕ} {a b : α} (ha : a ∈ (sortBy lt l).take n) (hb : b ∈ l)
    (hdrop : b ∉ (sortBy lt l).take n) :
  rank a < rank b
  := by
  have hsorted := pairwise_lt_sortBy h hl
  have hmem := (sortBy_perm lt l).mem_iff.mpr hb
  rw [← List.take_append_drop n (sortBy lt l)] at hsorted hmem
  exact (List.pairwise_append.mp hsorted).2.2 a ha b ((List.mem_append.mp hmem).resolve_left hdrop)

end Ranks

/-- Where an entry that satisfies `p` follows only such entries, these are the first ones. -/
theorem filter_begins {p : α → Bool} {l : List α}
    (h : l.Pairwise (fun a b => p b = true → p a = true)) :
  l.filter p <+: l
  := by
  induction l with
  | nil => exact List.prefix_rfl
  | cons a l ih =>
      obtain ⟨ha, hl⟩ := List.pairwise_cons.mp h
      by_cases hp : p a = true
      · rw [List.filter_cons_of_pos hp, List.prefix_cons_inj]
        exact ih hl
      · have hnone : (a :: l).filter p = [] := by
          rw [List.filter_eq_nil_iff]
          intro b hb hpb
          rcases List.mem_cons.mp hb with rfl | hb
          · exact hp hpb
          · exact hp (ha b hb hpb)
        rw [hnone]
        exact List.nil_prefix

/-! ### Greater scores first -/

section Scores

variable {K ι : Type*} [LinearOrder K] [LinearOrder ι]

/-- Greater scores go first, and of equal scores the smaller identifier. -/
def higherFirst (score : α → K) (id : α → ι) (a b : α) : Bool :=
  if score a ≠ score b then score b < score a else id a < id b

/-- The rank of an entry: its score in descending order, then its identifier. -/
def scoreRank (score : α → K) (id : α → ι) (a : α) : Kᵒᵈ ×ₗ ι :=
  toLex (OrderDual.toDual (score a), id a)

theorem scoreRank_lt {score : α → K} {id : α → ι} {a b : α} :
  scoreRank score id a < scoreRank score id b
    ↔ score b < score a ∨ (score a = score b ∧ id a < id b)
  := by
  rw [scoreRank, scoreRank, Prod.Lex.toLex_lt_toLex, OrderDual.toDual_lt_toDual]
  rfl

theorem compares_higherFirst (score : α → K) (id : α → ι) :
  Compares (higherFirst score id) (scoreRank score id)
  := by
  intro a b
  rw [scoreRank_lt, higherFirst]
  by_cases h : score a = score b
  · simp [h]
  · simp [h]

omit [LinearOrder K] [LinearOrder ι] in
/-- Entries with distinct identifiers have distinct ranks. -/
theorem nodup_map_scoreRank {score : α → K} {id : α → ι} {l : List α}
    (h : (l.map id).Nodup) :
  (l.map (scoreRank score id)).Nodup
  := by
  apply List.Nodup.of_map (fun r : Kᵒᵈ ×ₗ ι => (ofLex r).2)
  rw [List.map_map]
  exact h

/-- With distinct identifiers the sorted list is strictly sorted. -/
theorem pairwise_higherFirst (score : α → K) {id : α → ι} {l : List α} (h : (l.map id).Nodup) :
  (sortBy (higherFirst score id) l).Pairwise
    (fun a b => score b < score a ∨ (score a = score b ∧ id a < id b))
  := by
  apply (pairwise_lt_sortBy (compares_higherFirst score id) (nodup_map_scoreRank h)).imp
  intro a b hab
  exact scoreRank_lt.mp hab

/-- The scores of the sorted list descend. -/
theorem pairwise_score_sortBy (score : α → K) (id : α → ι) (l : List α) :
  (sortBy (higherFirst score id) l).Pairwise (fun a b => score b ≤ score a)
  := by
  apply (pairwise_sortBy (compares_higherFirst score id) l).imp
  intro a b hab
  rcases hab.lt_or_eq with hlt | heq
  · rcases scoreRank_lt.mp hlt with hlt | ⟨heq, -⟩
    · exact hlt.le
    · exact heq.ge
  · have hscore := congrArg (fun r => (ofLex r).1) heq
    exact (OrderDual.toDual_inj.mp hscore).ge

/-- The scores of a list in descending order are those of the sorted list. -/
theorem map_score_sortBy (score : α → K) (id : α → ι) {l : List α}
    (h : l.Pairwise (fun a b => score b ≤ score a)) :
  (sortBy (higherFirst score id) l).map score = l.map score
  := by
  have hsorted : ((sortBy (higherFirst score id) l).map score).Pairwise (fun a b => b ≤ a) :=
    List.pairwise_map.mpr (pairwise_score_sortBy score id l)
  apply ((sortBy_perm _ l).map score).eq_of_pairwise _ hsorted (List.pairwise_map.mpr h)
  intro a b _ _ hab hba
  exact le_antisymm hba hab

/-- A list whose scores strictly descend is sorted. -/
theorem sortBy_eq_self (score : α → K) (id : α → ι) {l : List α}
    (h : l.Pairwise (fun a b => score b < score a)) :
  sortBy (higherFirst score id) l = l
  := by
  symm
  apply eq_sortBy (compares_higherFirst score id) (List.Perm.refl l)
  apply h.imp
  intro a b hab
  exact scoreRank_lt.mpr (Or.inl hab)

end Scores

/-! ### The first entry of greatest score -/

section Greatest

variable {K : Type*} [LinearOrder K] {score : α → K}

/-- `a` is the first of the entries of greatest score. -/
def FirstGreatest (score : α → K) (l : List α) (a : α) : Prop :=
  ∃ before after, l = before ++ a :: after
    ∧ (∀ b ∈ before, score b < score a) ∧ ∀ b ∈ after, score b ≤ score a

theorem firstGreatest_singleton (score : α → K) (a : α) :
  FirstGreatest score [a] a
  := ⟨[], [], rfl, by simp, by simp⟩

theorem FirstGreatest.mem {l : List α} {a : α} (h : FirstGreatest score l a) :
  a ∈ l
  := by
  obtain ⟨before, after, rfl, -, -⟩ := h
  simp

theorem FirstGreatest.le {l : List α} {a b : α} (h : FirstGreatest score l a) (hb : b ∈ l) :
  score b ≤ score a
  := by
  obtain ⟨before, after, rfl, hbefore, hafter⟩ := h
  rcases List.mem_append.mp hb with hb | hb
  · exact (hbefore b hb).le
  · rcases List.mem_cons.mp hb with rfl | hb
    · apply le_refl
    · exact hafter b hb

/-- An entry that is not greater, added at the end, changes nothing. -/
theorem FirstGreatest.concat_of_le {l : List α} {a b : α} (h : FirstGreatest score l a)
    (hb : score b ≤ score a) :
  FirstGreatest score (l ++ [b]) a
  := by
  obtain ⟨before, after, rfl, hbefore, hafter⟩ := h
  use before, after ++ [b]
  constructor
  · rw [List.append_assoc, List.cons_append]
  · constructor
    · exact hbefore
    · intro c hc
      rcases List.mem_append.mp hc with hc | hc
      · exact hafter c hc
      · rwa [List.mem_singleton.mp hc]

/-- A greater entry, added at the end, is the first greatest one. -/
theorem FirstGreatest.concat_of_lt {l : List α} {a b : α} (h : FirstGreatest score l a)
    (hb : score a < score b) :
  FirstGreatest score (l ++ [b]) b
  := by
  use l, []
  constructor
  · rfl
  · constructor
    · intro c hc
      exact (h.le hc).trans_lt hb
    · simp

end Greatest

end Ranked
