import Mathlib.Data.List.Sort
import Mathlib.Data.List.Induction
import ShootingStar.Lib.Ranked

/-!
# The greatest entries by a bounded heap

A min-heap of at most `k` entries sees the entries of a list one by one; once it is full an entry
replaces the least one if its rank is greater.  A heap is modelled by the ascending list of its
entries.  After the whole list the heap holds the `k` entries of greatest rank: sorted by
descending rank it is the first `k` entries of the sorted list (`sortBy_top`).
-/

namespace TopK

variable {α β : Type*} [LinearOrder β]

/-- An entry pushed on a heap. -/
def push (rank : α → β) (heap : List α) (x : α) : List α :=
  heap.orderedInsert (fun a b => rank a ≤ rank b) x

/-- An entry offered to a heap of at most `k` entries.  A full heap has a least entry, as `k` is
positive. -/
def offer (k : ℤ) (rank : α → β) (heap : List α) (x : α) : List α :=
  if heap.length < k then push rank heap x
  else
    match heap with
    | [] => []
    | least :: rest => if rank least < rank x then push rank rest x else least :: rest

/-- The heap after all entries of a list. -/
def top (k : ℤ) (rank : α → β) (l : List α) : List α :=
  l.foldl (offer k rank) []

theorem push_perm (rank : α → β) (heap : List α) (x : α) :
  (push rank heap x).Perm (x :: heap)
  := List.perm_orderedInsert _ x heap

theorem pairwise_push {rank : α → β} {heap : List α} (x : α)
    (h : heap.Pairwise (fun a b => rank a ≤ rank b)) :
  (push rank heap x).Pairwise (fun a b => rank a ≤ rank b)
  := by
  have htotal : Std.Total (fun a b => rank a ≤ rank b) := ⟨fun a b => le_total (rank a) (rank b)⟩
  have htrans : IsTrans α (fun a b => rank a ≤ rank b) := ⟨fun _ _ _ => le_trans⟩
  exact h.orderedInsert x

/-- What a heap that has seen the entries of `l` holds: the entries it has not dropped, in
ascending order; it drops entries only when it is full, and only lesser ones. -/
structure Holds (k : ℤ) (rank : α → β) (l heap dropped : List α) : Prop where
  perm : (heap ++ dropped).Perm l
  sorted : heap.Pairwise (fun a b => rank a ≤ rank b)
  length_le : heap.length ≤ k
  full : dropped ≠ [] → heap.length = k
  lesser : ∀ d ∈ dropped, ∀ a ∈ heap, rank d ≤ rank a

theorem holds_nil {k : ℤ} (hk : 0 < k) (rank : α → β) :
  Holds k rank [] [] []
  := ⟨List.Perm.refl _, List.Pairwise.nil, by simpa using hk.le, by simp, by simp⟩

/-- The order of entries of one rank does not matter. -/
theorem Holds.of_perm {k : ℤ} {rank : α → β} {l heap heap' dropped : List α}
    (h : Holds k rank l heap dropped) (hp : heap'.Perm heap)
    (hsorted : heap'.Pairwise (fun a b => rank a ≤ rank b)) :
  Holds k rank l heap' dropped
  := by
  constructor
  case perm => exact (hp.append_right dropped).trans h.perm
  case sorted => exact hsorted
  case length_le =>
    rw [hp.length_eq]
    exact h.length_le
  case full =>
    rw [hp.length_eq]
    exact h.full
  case lesser => exact fun d hd a ha => h.lesser d hd a (hp.mem_iff.mp ha)

/-- An entry that the heap does not hold is no greater than the `k` entries that it holds. -/
theorem Holds.outranked {k : ℤ} {rank : α → β} {l heap dropped : List α}
    (h : Holds k rank l heap dropped) {x : α} (hx : x ∈ l) (hout : x ∉ heap) :
  heap.length = k ∧ ∀ a ∈ heap, rank x ≤ rank a
  := by
  have hmem : x ∈ heap ++ dropped := h.perm.mem_iff.mpr hx
  have hdropped := (List.mem_append.mp hmem).resolve_left hout
  exact ⟨h.full (List.ne_nil_of_mem hdropped), h.lesser x hdropped⟩

/-- An entry pushed on a heap with room. -/
theorem Holds.pushed {k : ℤ} {rank : α → β} {l heap : List α} (h : Holds k rank l heap []) {x : α}
    (hroom : heap.length < k) :
  Holds k rank (l ++ [x]) (push rank heap x) []
  := by
  constructor
  case perm =>
    rw [List.append_nil]
    apply (push_perm rank heap x).trans
    apply List.Perm.trans _ (List.perm_append_singleton x l).symm
    apply List.Perm.cons
    simpa using h.perm
  case sorted => exact pairwise_push x h.sorted
  case length_le =>
    rw [(push_perm rank heap x).length_eq, List.length_cons]
    omega
  case full => exact fun hne => absurd rfl hne
  case lesser => exact fun d hd => absurd hd List.not_mem_nil

/-- An entry that replaces the least one of a full heap. -/
theorem Holds.replaced {k : ℤ} {rank : α → β} {l rest dropped : List α} {least : α}
    (h : Holds k rank l (least :: rest) dropped) {x : α} (hfull : k ≤ (least :: rest).length)
    (hlt : rank least < rank x) :
  Holds k rank (l ++ [x]) (push rank rest x) (least :: dropped)
  := by
  have hpush := push_perm rank rest x
  have hlength := h.length_le
  have hleast : ∀ a ∈ rest, rank least ≤ rank a := fun _ ha => List.rel_of_pairwise_cons h.sorted ha
  constructor
  case perm =>
    apply (hpush.append_right _).trans
    apply List.Perm.trans _ (List.perm_append_singleton x l).symm
    apply List.Perm.cons
    apply List.perm_middle.trans
    exact h.perm
  case sorted => exact pairwise_push x h.sorted.of_cons
  case length_le =>
    rw [hpush.length_eq]
    exact h.length_le
  case full =>
    intro _
    rw [hpush.length_eq]
    exact le_antisymm hlength hfull
  case lesser =>
    intro d hd a ha
    rcases List.mem_cons.mp hd with rfl | hd
    · rcases List.mem_cons.mp (hpush.mem_iff.mp ha) with rfl | ha
      · exact hlt.le
      · exact hleast a ha
    · rcases List.mem_cons.mp (hpush.mem_iff.mp ha) with rfl | ha
      · exact (h.lesser d hd least List.mem_cons_self).trans hlt.le
      · exact h.lesser d hd a (List.mem_cons_of_mem _ ha)

/-- An entry that a full heap drops, as it is no greater than the least one. -/
theorem Holds.refused {k : ℤ} {rank : α → β} {l rest dropped : List α} {least : α}
    (h : Holds k rank l (least :: rest) dropped) {x : α} (hfull : k ≤ (least :: rest).length)
    (hle : rank x ≤ rank least) :
  Holds k rank (l ++ [x]) (least :: rest) (x :: dropped)
  := by
  constructor
  case perm =>
    apply List.perm_middle.trans
    apply List.Perm.trans _ (List.perm_append_singleton x l).symm
    exact h.perm.cons x
  case sorted => exact h.sorted
  case length_le => exact h.length_le
  case full => exact fun _ => le_antisymm h.length_le hfull
  case lesser =>
    intro d hd a ha
    rcases List.mem_cons.mp hd with rfl | hd
    · apply hle.trans
      rcases List.mem_cons.mp ha with rfl | ha
      · exact le_refl _
      · exact List.rel_of_pairwise_cons h.sorted ha
    · exact h.lesser d hd a ha

/-- What one more entry does. -/
theorem Holds.offered {k : ℤ} (hk : 0 < k) {rank : α → β} {l heap dropped : List α}
    (h : Holds k rank l heap dropped) (x : α) :
  ∃ dropped', Holds k rank (l ++ [x]) (offer k rank heap x) dropped'
  := by
  by_cases hroom : heap.length < k
  · have hnil : dropped = [] := by
      by_contra hne
      have := h.full hne
      omega
    subst hnil
    use []
    rw [offer.eq_def, if_pos hroom]
    exact h.pushed hroom
  · rw [offer.eq_def, if_neg hroom]
    cases heap with
    | nil =>
        simp only [List.length_nil] at hroom
        omega
    | cons least rest =>
        dsimp only
        split
        · rename_i hlt
          use least :: dropped
          exact h.replaced (not_lt.mp hroom) hlt
        · rename_i hle
          use x :: dropped
          exact h.refused (not_lt.mp hroom) (not_lt.mp hle)

/-- What the heap holds after a list. -/
theorem holds_top {k : ℤ} (hk : 0 < k) (rank : α → β) (l : List α) :
  ∃ dropped, Holds k rank l (top k rank l) dropped
  := by
  induction l using List.reverseRecOn with
  | nil => exact ⟨[], holds_nil hk rank⟩
  | append_singleton l x ih =>
      obtain ⟨dropped, h⟩ := ih
      rw [top, List.foldl_concat]
      exact h.offered hk x

/-- Sorted by descending rank, the heap is the beginning of the sorted list. -/
theorem sortBy_top {k : ℤ} (hk : 0 < k) {rank : α → β} {lt : α → α → Bool}
    (hlt : Ranked.Compares lt (fun a => OrderDual.toDual (rank a))) {l : List α}
    (hinj : ∀ a ∈ l, ∀ b ∈ l, rank a = rank b → a = b) :
  Ranked.sortBy lt (top k rank l) = (Ranked.sortBy lt l).take k.toNat
  := by
  obtain ⟨dropped, h⟩ := holds_top hk rank l
  have hsorted : Ranked.sortBy lt (top k rank l) ++ Ranked.sortBy lt dropped
      = Ranked.sortBy lt l := by
    apply Ranked.eq_sortBy_of_injOn hlt hinj
    · apply List.Perm.trans _ h.perm
      exact (Ranked.sortBy_perm lt _).append (Ranked.sortBy_perm lt _)
    · apply List.pairwise_append.mpr
      refine ⟨Ranked.pairwise_sortBy hlt _, Ranked.pairwise_sortBy hlt _, ?_⟩
      intro a ha d hd
      exact h.lesser d (Ranked.mem_sortBy.mp hd) a (Ranked.mem_sortBy.mp ha)
  have hlength := h.length_le
  rw [← hsorted]
  by_cases hnil : dropped = []
  · rw [hnil, Ranked.sortBy_nil, List.append_nil, List.take_of_length_le]
    rw [Ranked.length_sortBy]
    omega
  · have hfull := h.full hnil
    rw [List.take_left']
    rw [Ranked.length_sortBy]
    omega

end TopK
