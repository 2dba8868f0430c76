import Mathlib.Data.List.Basic
import Mathlib.Data.List.Perm.Basic
import Mathlib.Data.List.Flatten
import Mathlib.Data.List.Induction
import Mathlib.Data.Nat.Init
import Mathlib.Order.Lattice

/-!
# Round-robin interleaving

`interleave ls` takes one entry from each list of `ls` in turn, round after round, until all
lists are exhausted.  It is a permutation of the concatenation of the lists.  Its beginnings are
fair: for some `r` each list gives its first `r` or its first `r + 1` entries
(`exists_filter_take_interleave`).

`cursorLoop` computes it as a program does: it keeps a cursor into each list, makes rounds over
the lists, hands the entry under each cursor to `visit`, stops as soon as the state is `full`,
and stops after a round in which no cursor moved.  With fuel for one round more than the longest
list has entries it ends, having visited the interleaving in order up to the first full state
(`cursorLoop_eq`).
-/

namespace RoundRobin

variable {α σ : Type*}

/-! ### The interleaving -/

/-- The number of rounds in which some list has an entry. -/
def rounds : List (List α) → ℕ
  | [] => 0
  | l :: ls => max l.length (rounds ls)

/-- The entries taken in round `r`, one from each list that has more than `r` entries. -/
def roundEntries (ls : List (List α)) (r : ℕ) : List α :=
  ls.filterMap (·[r]?)

/-- The entries of the lists in round-robin order. -/
def interleave (ls : List (List α)) : List α :=
  (List.range (rounds ls)).flatMap (roundEntries ls)

/-- A round is empty exactly when every list is exhausted. -/
theorem roundEntries_eq_nil {ls : List (List α)} {r : ℕ} :
  roundEntries ls r = [] ↔ rounds ls ≤ r
  := by
  induction ls with
  | nil => simp [roundEntries, rounds]
  | cons l ls ih =>
      rw [roundEntries, List.filterMap_cons, rounds]
      cases h : l[r]? with
      | none =>
          have hr : l.length ≤ r := List.getElem?_eq_none_iff.mp h
          have hrest : roundEntries ls r = [] ↔ max l.length (rounds ls) ≤ r := by
            rw [ih]
            omega
          simpa [roundEntries] using hrest
      | some a =>
          have hr : r < l.length := (List.getElem?_eq_some_iff.mp h).1
          simp only [reduceCtorEq, false_iff]
          omega

/-- Rounds after the last one add nothing. -/
theorem flatMap_roundEntries_of_le {ls : List (List α)} {n : ℕ} (h : rounds ls ≤ n) :
  (List.range n).flatMap (roundEntries ls) = interleave ls
  := by
  induction n, h using Nat.le_induction with
  | base => rfl
  | succ n h ih =>
      rw [List.range_succ, List.flatMap_append, ih]
      simp [roundEntries_eq_nil.mpr h]

theorem flatMap_getElem?_toList {l : List α} {n : ℕ} (h : l.length ≤ n) :
  (List.range n).flatMap (fun r => l[r]?.toList) = l
  := by
  induction l using List.reverseRecOn generalizing n with
  | nil => simp
  | append_singleton l a ih =>
      obtain ⟨k, rfl⟩ := Nat.exists_eq_add_of_le h
      simp only [List.length_append, List.length_singleton]
      rw [List.range_add, List.flatMap_append, List.range_succ, List.flatMap_append]
      have hl : (List.range l.length).flatMap (fun r => (l ++ [a])[r]?.toList) = l := by
        apply Eq.trans _ (ih (le_refl l.length))
        apply List.flatMap_congr
        intro r hr
        rw [List.getElem?_append_left (List.mem_range.mp hr)]
      have hk : ((List.range k).map (l.length + 1 + ·)).flatMap
          (fun r => (l ++ [a])[r]?.toList) = [] := by
        apply List.flatMap_eq_nil_iff.mpr
        intro r hr
        obtain ⟨i, _, rfl⟩ := List.mem_map.mp hr
        rw [List.getElem?_eq_none (by simp)]
        rfl
      rw [hl, hk]
      simp

/-- The interleaving holds the entries of all the lists. -/
theorem interleave_perm_flatten (ls : List (List α)) :
  (interleave ls).Perm ls.flatten
  := by
  induction ls with
  | nil => simp [interleave, rounds]
  | cons l ls ih =>
      have hround : ∀ r, roundEntries (l :: ls) r = l[r]?.toList ++ roundEntries ls r := by
        intro r
        cases h : l[r]? <;> simp [roundEntries, h]
      have hlen : l.length ≤ rounds (l :: ls) := Nat.le_max_left _ _
      have hrest : rounds ls ≤ rounds (l :: ls) := Nat.le_max_right _ _
      rw [interleave, funext hround, List.flatten_cons]
      apply (List.flatMap_append_perm _ _ _).symm.trans
      rw [flatMap_getElem?_toList hlen, flatMap_roundEntries_of_le hrest]
      apply ih.append_left

/-! ### Beginnings of the interleaving -/

/-- A beginning of rounds is some full rounds and a beginning of the next one. -/
theorem exists_take_flatMap_range (f : ℕ → List α) (k n : ℕ) :
  ∃ r m, ((List.range k).flatMap f).take n = (List.range r).flatMap f ++ (f r).take m
  := by
  induction k with
  | zero => exact ⟨0, 0, by simp⟩
  | succ k ih =>
      rw [List.range_succ, List.flatMap_append, List.flatMap_singleton]
      rcases Nat.le_total n ((List.range k).flatMap f).length with h | h
      · obtain ⟨r, m, hrm⟩ := ih
        use r, m
        rw [List.take_append_of_le_length h, hrm]
      · use k, n - ((List.range k).flatMap f).length
        rw [List.take_append, List.take_of_length_le h]

variable {κ : Type*} [DecidableEq κ]

/-- The entry that the list of a key gives in a round. -/
theorem filter_roundEntries {key : α → κ} {bucket : κ → List α} {keys : List κ}
    (hkeys : keys.Nodup) (hbucket : ∀ v ∈ keys, ∀ x ∈ bucket v, key x = v) (r : ℕ) {v : κ}
    (hv : v ∈ keys) :
  (roundEntries (keys.map bucket) r).filter (key · = v) = (bucket v)[r]?.toList
  := by
  induction keys with
  | nil => cases hv
  | cons w keys ih =>
      obtain ⟨hw, hkeys⟩ := List.nodup_cons.mp hkeys
      have hrest : ∀ u ∈ keys, ∀ x ∈ bucket u, key x = u := fun u hu =>
        hbucket u (List.mem_cons_of_mem w hu)
      have hround : roundEntries ((w :: keys).map bucket) r
          = (bucket w)[r]?.toList ++ roundEntries (keys.map bucket) r := by
        cases h : (bucket w)[r]? <;> simp [roundEntries, h]
      have hfirst : ∀ x ∈ (bucket w)[r]?.toList, key x = w := by
        intro x hx
        exact hbucket w List.mem_cons_self x (List.mem_of_getElem? (Option.mem_toList.mp hx))
      rw [hround, List.filter_append]
      rcases List.mem_cons.mp hv with rfl | hv
      · have hnone : (roundEntries (keys.map bucket) r).filter (key · = v) = [] := by
          apply List.filter_eq_nil_iff.mpr
          intro x hx
          obtain ⟨l, hl, hxl⟩ := List.mem_filterMap.mp hx
          obtain ⟨u, hu, rfl⟩ := List.mem_map.mp hl
          rw [hrest u hu x (List.mem_of_getElem? hxl), decide_eq_true_iff]
          rintro rfl
          exact hw hu
        rw [hnone, List.append_nil]
        apply List.filter_eq_self.mpr
        intro x hx
        exact decide_eq_true (hfirst x hx)
      · have hnone : (bucket w)[r]?.toList.filter (key · = v) = [] := by
          apply List.filter_eq_nil_iff.mpr
          intro x hx
          rw [hfirst x hx, decide_eq_true_iff]
          rintro rfl
          exact hw hv
        rw [hnone, List.nil_append]
        exact ih hkeys hrest hv

/-- The entries that the list of a key gives in the first rounds. -/
theorem filter_flatMap_roundEntries {key : α → κ} {bucket : κ → List α} {keys : List κ}
    (hkeys : keys.Nodup) (hbucket : ∀ v ∈ keys, ∀ x ∈ bucket v, key x = v) (r : ℕ) {v : κ}
    (hv : v ∈ keys) :
  ((List.range r).flatMap (roundEntries (keys.map bucket))).filter (key · = v) = (bucket v).take r
  := by
  induction r with
  | zero => rfl
  | succ r ih =>
      rw [List.range_succ, List.flatMap_append, List.flatMap_singleton, List.filter_append, ih,
        filter_roundEntries hkeys hbucket r hv, List.take_add_one]

/-- The beginnings of the interleaving take from each list its first `r` or `r + 1` entries. -/
theorem exists_filter_take_interleave {key : α → κ} {bucket : κ → List α} {keys : List κ}
    (hkeys : keys.Nodup) (hbucket : ∀ v ∈ keys, ∀ x ∈ bucket v, key x = v) (n : ℕ) :
  ∃ r, ∀ v ∈ keys,
    ((interleave (keys.map bucket)).take n).filter (key · = v) = (bucket v).take r
      ∨ ((interleave (keys.map bucket)).take n).filter (key · = v) = (bucket v).take (r + 1)
  := by
  obtain ⟨r, m, htake⟩ :=
    exists_take_flatMap_range (roundEntries (keys.map bucket)) (rounds (keys.map bucket)) n
  use r
  intro v hv
  rw [interleave, htake, List.filter_append, filter_flatMap_roundEntries hkeys hbucket r hv]
  have hround := filter_roundEntries hkeys hbucket r hv
  rw [← List.take_append_drop m (roundEntries (keys.map bucket) r), List.filter_append] at hround
  cases hentry : (bucket v)[r]? with
  | none =>
      rw [hentry] at hround
      rw [(List.append_eq_nil_iff.mp hround).1, List.append_nil]
      exact Or.inl rfl
  | some x =>
      rw [hentry] at hround
      rcases List.append_eq_singleton_iff.mp hround with ⟨hnil, -⟩ | ⟨hone, -⟩
      · rw [hnil, List.append_nil]
        exact Or.inl rfl
      · rw [hone, List.take_add_one, hentry]
        exact Or.inr rfl

/-! ### The loop with cursors -/

/-- Visiting entries in order until the state is full. -/
def visitUntil (visit : σ → α → σ) (full : σ → Bool) : σ → List α → σ
  | s, [] => s
  | s, a :: as => if full s then s else visitUntil visit full (visit s a) as

theorem visitUntil_of_full {visit : σ → α → σ} {full : σ → Bool} {s : σ} (h : full s = true)
    (as : List α) :
  visitUntil visit full s as = s
  := by
  cases as <;> simp [visitUntil, h]

theorem visitUntil_append (visit : σ → α → σ) (full : σ → Bool) (s : σ) (as bs : List α) :
  visitUntil visit full s (as ++ bs) = visitUntil visit full (visitUntil visit full s as) bs
  := by
  induction as generalizing s with
  | nil => rfl
  | cons a as ih =>
      by_cases h : full s
      · simp [visitUntil, h, visitUntil_of_full h bs]
      · simp [visitUntil, h, ih]

theorem visitUntil_never (visit : σ → α → σ) (s : σ) (as : List α) :
  visitUntil visit (fun _ => false) s as = as.foldl visit s
  := by
  induction as generalizing s with
  | nil => rfl
  | cons a as ih => simp [visitUntil, ih]

/-- Collecting entries until there are `n` of them takes the first `n`. -/
theorem visitUntil_take (n : ℕ) (acc as : List α) (h : acc.length ≤ n) :
  visitUntil (fun s a => s ++ [a]) (fun s => decide (n ≤ s.length)) acc as
    = acc ++ as.take (n - acc.length)
  := by
  induction as generalizing acc with
  | nil => simp [visitUntil]
  | cons a as ih =>
      by_cases hn : n ≤ acc.length
      · have h0 : n - acc.length = 0 := by omega
        simp [visitUntil, hn, h0]
      · have hs : n - acc.length = n - (acc ++ [a]).length + 1 := by
          simp only [List.length_append, List.length_singleton]
          omega
        simp only [visitUntil, hn, decide_false, Bool.false_eq_true, if_false]
        rw [ih (acc ++ [a]) (by simp; omega), hs, List.take_succ_cons]
        simp

/-- One round over the lists: the cursors after it, the state after it, and whether some
cursor moved. -/
def cursorRound (visit : σ → α → σ) (full : σ → Bool) :
    List (List α) → List ℕ → σ → List ℕ × σ × Bool
  | l :: ls, i :: is, s =>
    match l[i]? with
    | none =>
      let rest := cursorRound visit full ls is s
      (i :: rest.1, rest.2.1, rest.2.2)
    | some a =>
      if full (visit s a) then ((i + 1) :: is, visit s a, true)
      else
        let rest := cursorRound visit full ls is (visit s a)
        ((i + 1) :: rest.1, rest.2.1, true)
  | _, is, s => (is, s, false)

/-- Rounds over the lists until the state is full or no cursor moves; `none` when the fuel
does not suffice. -/
def cursorLoop (visit : σ → α → σ) (full : σ → Bool) (ls : List (List α)) :
    ℕ → List ℕ → σ → Option σ
  | 0, _, _ => none
  | fuel + 1, is, s =>
    if full s then some s
    else
      let next := cursorRound visit full ls is s
      if next.2.2 then cursorLoop visit full ls fuel next.1 next.2.1 else some next.2.1

/-- The cursors after `r` full rounds. -/
def cursorsAfter (ls : List (List α)) (r : ℕ) : List ℕ :=
  ls.map (fun l => min r l.length)

theorem getElem?_min_length (l : List α) (r : ℕ) :
  l[min r l.length]? = l[r]?
  := by
  by_cases h : r < l.length
  · rw [Nat.min_eq_left (Nat.le_of_lt h)]
  · rw [Nat.min_eq_right (by omega), List.getElem?_eq_none (le_refl _),
      List.getElem?_eq_none (by omega)]

/-- What one round does, from cursors that have made `r` rounds. -/
theorem cursorRound_spec (visit : σ → α → σ) (full : σ → Bool) (ls : List (List α)) (r : ℕ)
    (s : σ) (hs : full s = false) :
  (cursorRound visit full ls (cursorsAfter ls r) s).2.1
      = visitUntil visit full s (roundEntries ls r)
    ∧ (cursorRound visit full ls (cursorsAfter ls r) s).2.2 = !(roundEntries ls r).isEmpty
    ∧ (full (cursorRound visit full ls (cursorsAfter ls r) s).2.1 = false →
        (cursorRound visit full ls (cursorsAfter ls r) s).1 = cursorsAfter ls (r + 1))
  := by
  induction ls generalizing s with
  | nil => simp [cursorRound, cursorsAfter, roundEntries, visitUntil]
  | cons l ls ih =>
      simp only [cursorsAfter, List.map_cons, cursorRound, getElem?_min_length]
      cases h : l[r]? with
      | none =>
          obtain ⟨hstate, hstop, hcursors⟩ := ih s hs
          have hr : l.length ≤ r := List.getElem?_eq_none_iff.mp h
          have hround : roundEntries (l :: ls) r = roundEntries ls r := by simp [roundEntries, h]
          rw [hround]
          refine ⟨hstate, hstop, ?_⟩
          intro hfull
          simp only [cursorsAfter] at hcursors
          simp only [hcursors hfull, List.cons.injEq, and_true]
          omega
      | some a =>
          have hr : r < l.length := (List.getElem?_eq_some_iff.mp h).1
          have hround : roundEntries (l :: ls) r = a :: roundEntries ls r := by simp [roundEntries, h]
          have hmin : min r l.length + 1 = min (r + 1) l.length := by omega
          rw [hround, visitUntil, hs, hmin]
          by_cases hv : full (visit s a)
          · simp [hv, visitUntil_of_full hv]
          · obtain ⟨hstate, _, hcursors⟩ := ih (visit s a) (by simpa using hv)
            simp only [hv, Bool.false_eq_true, if_false]
            refine ⟨hstate, by simp, ?_⟩
            intro hfull
            simp only [cursorsAfter] at hcursors
            rw [hcursors hfull]

/-- From cursors that have made `r` rounds, the loop ends and has visited the later rounds in
order up to the first full state. -/
theorem cursorLoop_spec (visit : σ → α → σ) (full : σ → Bool) (ls : List (List α))
    (n r fuel : ℕ) (s : σ) (hn : rounds ls ≤ r + n) (hfuel : n < fuel) :
  cursorLoop visit full ls fuel (cursorsAfter ls r) s
    = some (visitUntil visit full s ((List.range n).flatMap (fun k => roundEntries ls (r + k))))
  := by
  induction n generalizing r fuel s with
  | zero =>
      obtain ⟨fuel, rfl⟩ := Nat.exists_eq_add_of_lt hfuel
      have hround : roundEntries ls r = [] := roundEntries_eq_nil.mpr hn
      by_cases hs : full s
      · simp [cursorLoop, hs, visitUntil]
      · obtain ⟨hstate, hmoved, _⟩ := cursorRound_spec visit full ls r s (by simpa using hs)
        simp [cursorLoop, hs, hmoved, hstate, hround, visitUntil]
  | succ n ih =>
      obtain ⟨fuel, rfl⟩ := Nat.exists_eq_add_of_lt hfuel
      have hrange : (List.range (n + 1)).flatMap (fun k => roundEntries ls (r + k))
          = roundEntries ls r
            ++ (List.range n).flatMap (fun k => roundEntries ls (r + 1 + k)) := by
        rw [List.range_succ_eq_map, List.flatMap_cons, List.flatMap_map]
        simp [Nat.add_assoc, Nat.add_comm 1]
      rw [hrange, visitUntil_append]
      by_cases hs : full s
      · simp [cursorLoop, hs, visitUntil_of_full hs]
      obtain ⟨hstate, hmoved, hcursors⟩ :=
        cursorRound_spec visit full ls r s (by simpa using hs)
      rw [cursorLoop, if_neg hs]
      simp only [hmoved, hstate] at hcursors ⊢
      by_cases hnil : roundEntries ls r = []
      · have hrest : (List.range n).flatMap (fun k => roundEntries ls (r + 1 + k)) = [] := by
          apply List.flatMap_eq_nil_iff.mpr
          intro k _
          have hr := roundEntries_eq_nil.mp hnil
          apply roundEntries_eq_nil.mpr
          omega
        simp [hnil, hrest, visitUntil]
      · simp only [List.isEmpty_eq_false_iff.mpr hnil, Bool.not_false, if_true]
        by_cases hfull : full (visitUntil visit full s (roundEntries ls r))
        · have hpos : n + 1 + fuel = n + fuel + 1 := by omega
          rw [hpos, cursorLoop, if_pos hfull, visitUntil_of_full hfull]
        · rw [hcursors (by simpa using hfull)]
          apply ih
          · omega
          · omega

/-- With fuel for every round the loop ends, having visited the interleaving in order up to
the first full state. -/
theorem cursorLoop_eq (visit : σ → α → σ) (full : σ → Bool) (ls : List (List α)) (fuel : ℕ)
    (s : σ) (hfuel : rounds ls < fuel) :
  cursorLoop visit full ls fuel (ls.map (fun _ => 0)) s
    = some (visitUntil visit full s (interleave ls))
  := by
  have h := cursorLoop_spec visit full ls (rounds ls) 0 fuel s (by omega) hfuel
  simpa [cursorsAfter, interleave] using h

end RoundRobin
