import Mathlib.Data.List.Basic
import Mathlib.Data.List.Nodup
import Mathlib.Data.List.Pairwise
import Mathlib.Data.Finset.Card
import Mathlib.Order.Lattice
import ShootingStar.Lib.Keyed

/-!
# Recency lists

A recency list holds at most `capacity` slots with distinct keys, the most recently touched
first.  A slot written at `t` expires at `deadline t`.  `get` moves the slot it finds to the front,
or drops it when it has expired; `put` writes a slot at the front and drops what then exceeds
the capacity.

A history is a list of calls with the clock readings they were made at, the latest call first.
After every history the list is ordered by the last touch (`run_ordered`) and holds what was
last written (`mem_run`).  With clock readings that do not decrease, a key is found before its
deadline unless `capacity` other keys were touched since (`get_of_lastPut`).
-/

namespace RecencyList

variable {κ ν : Type*} [DecidableEq κ]

/-- A stored key and value, with the time the slot expires. -/
structure Slot (κ ν : Type*) where
  key : κ
  value : ν
  expiresAt : ℤ

/-- A call on the list. -/
inductive Call (κ ν : Type*) where
  | get (key : κ)
  | put (key : κ) (value : ν)

/-- A call and the clock reading it is made at. -/
structure Event (κ ν : Type*) where
  time : ℤ
  call : Call κ ν

/-! ### Operations -/

/-- The slots other than the one of `k`. -/
def remove (k : κ) (l : List (Slot κ ν)) : List (Slot κ ν) :=
  l.filter (·.key ≠ k)

/-- Looking up `k`: the list afterwards, and the value found. -/
def get (now : ℤ) (k : κ) (l : List (Slot κ ν)) : List (Slot κ ν) × Option ν :=
  match l.find? (·.key = k) with
  | none => (l, none)
  | some slot =>
    if slot.expiresAt ≤ now then (remove k l, none) else (slot :: remove k l, some slot.value)

/-- Writing `v` under `k`. -/
def put (capacity : ℕ) (deadline : ℤ → ℤ) (now : ℤ) (k : κ) (v : ν) (l : List (Slot κ ν)) :
    List (Slot κ ν) :=
  if capacity = 0 then l else (⟨k, v, deadline now⟩ :: remove k l).take capacity

/-- The list after a history. -/
def run (capacity : ℕ) (deadline : ℤ → ℤ) : List (Event κ ν) → List (Slot κ ν)
  | [] => []
  | ⟨now, .get k⟩ :: h => (get now k (run capacity deadline h)).1
  | ⟨now, .put k v⟩ :: h => put capacity deadline now k v (run capacity deadline h)

/-- The keys touched in a history, the latest first: a put touches its key, and so does a get
that finds a value. -/
def touches (capacity : ℕ) (deadline : ℤ → ℤ) : List (Event κ ν) → List κ
  | [] => []
  | ⟨now, .get k⟩ :: h =>
    if (get now k (run capacity deadline h)).2.isSome then k :: touches capacity deadline h
    else touches capacity deadline h
  | ⟨_, .put k _⟩ :: h => k :: touches capacity deadline h

/-- The time and the value of the latest put of `k`. -/
def lastPut (k : κ) : List (Event κ ν) → Option (ℤ × ν)
  | [] => none
  | ⟨_, .get _⟩ :: h => lastPut k h
  | ⟨now, .put k' v⟩ :: h => if k' = k then some (now, v) else lastPut k h

/-- The keys touched since the last touch of `k`. -/
def since (k : κ) (touched : List κ) : Finset κ :=
  (touched.takeWhile (· ≠ k)).toFinset

/-- The keys of `l` are distinct and ordered by their last touch. -/
structure Ordered (touched : List κ) (l : List (Slot κ ν)) : Prop where
  nodup : (l.map Slot.key).Nodup
  mem_touched : ∀ slot ∈ l, slot.key ∈ touched
  recent : (l.map Slot.key).Pairwise (fun k k' => touched.idxOf k < touched.idxOf k')

/-! ### What one call does -/

theorem mem_remove {k : κ} {l : List (Slot κ ν)} {slot : Slot κ ν} :
  slot ∈ remove k l ↔ slot ∈ l ∧ slot.key ≠ k
  := by
  simp [remove]

theorem find?_eq_none {k : κ} {l : List (Slot κ ν)} :
  l.find? (·.key = k) = none ↔ k ∉ l.map Slot.key
  := by
  simp

/-- In a list with distinct keys a slot is found under its key. -/
theorem find?_eq_some {l : List (Slot κ ν)} (h : (l.map Slot.key).Nodup) {slot : Slot κ ν}
    (hs : slot ∈ l) :
  l.find? (·.key = slot.key) = some slot
  := Keyed.find?_eq_some_of_nodup h hs

/-- What a get does: it misses, it drops an expired slot, or it moves the slot it finds to the
front. -/
theorem get_cases (now : ℤ) (k : κ) (l : List (Slot κ ν)) :
  (k ∉ l.map Slot.key ∧ get now k l = (l, none))
    ∨ (∃ slot ∈ l, slot.key = k ∧ slot.expiresAt ≤ now ∧ get now k l = (remove k l, none))
    ∨ (∃ slot ∈ l, slot.key = k ∧ now < slot.expiresAt
        ∧ get now k l = (slot :: remove k l, some slot.value))
  := by
  cases hf : l.find? (·.key = k) with
  | none =>
      left
      use find?_eq_none.mp hf
      simp [get, hf]
  | some slot =>
      have hk : slot.key = k := by simpa using List.find?_some hf
      right
      by_cases hexp : slot.expiresAt ≤ now
      · left
        use slot, List.mem_of_find?_eq_some hf, hk, hexp
        simp [get, hf, hexp]
      · right
        use slot, List.mem_of_find?_eq_some hf, hk, lt_of_not_ge hexp
        simp [get, hf, hexp]

/-- A get brings in no key. -/
theorem keys_get_subset (now : ℤ) (k : κ) (l : List (Slot κ ν)) :
  (get now k l).1.map Slot.key ⊆ l.map Slot.key
  := by
  have hremove : (remove k l).map Slot.key ⊆ l.map Slot.key :=
    List.map_subset _ (List.filter_subset_self l)
  rcases get_cases now k l with ⟨-, he⟩ | ⟨_, -, -, -, he⟩ | ⟨slot, hs, -, -, he⟩
  · rw [he]
    apply List.Subset.refl
  · rw [he]
    exact hremove
  · rw [he]
    exact List.cons_subset.mpr ⟨List.mem_map_of_mem hs, hremove⟩

/-- A put brings in no key but its own. -/
theorem keys_put_subset (capacity : ℕ) (deadline : ℤ → ℤ) (now : ℤ) (k : κ) (v : ν)
    (l : List (Slot κ ν)) :
  (put capacity deadline now k v l).map Slot.key ⊆ k :: l.map Slot.key
  := by
  rw [put]
  split
  · apply List.subset_cons_self
  · apply List.Subset.trans (List.map_subset _ (List.take_subset _ _))
    apply List.cons_subset_cons
    exact List.map_subset _ (List.filter_subset_self l)

theorem length_remove_lt {l : List (Slot κ ν)} {slot : Slot κ ν} (hs : slot ∈ l) :
  (remove slot.key l).length < l.length
  := by
  apply List.length_filter_lt_length_iff_exists.mpr
  exact ⟨slot, hs, by simp⟩

/-- Touching `k` keeps the slots of other keys ordered. -/
theorem Ordered.cons_touch {touched : List κ} {l : List (Slot κ ν)} (h : Ordered touched l)
    (k : κ) :
  Ordered (k :: touched) (remove k l)
  := by
  have hsub : (remove k l).Sublist l := List.filter_sublist
  constructor
  · apply h.nodup.sublist (hsub.map Slot.key)
  · intro slot hs
    apply List.mem_cons_of_mem
    apply h.mem_touched slot (mem_remove.mp hs).1
  · rw [List.pairwise_map]
    have hrecent := List.pairwise_map.mp (h.recent.sublist (hsub.map Slot.key))
    apply hrecent.imp_of_mem
    intro a b ha hb hab
    rw [List.idxOf_cons_ne _ (mem_remove.mp ha).2.symm,
      List.idxOf_cons_ne _ (mem_remove.mp hb).2.symm]
    omega

/-- A slot put in front of the others after a touch of its key keeps the list ordered. -/
theorem Ordered.cons {touched : List κ} {l : List (Slot κ ν)} (h : Ordered touched l)
    (slot : Slot κ ν) :
  Ordered (slot.key :: touched) (slot :: remove slot.key l)
  := by
  have hrest := h.cons_touch slot.key
  constructor
  · rw [List.map_cons, List.nodup_cons]
    use fun hk => ?_, hrest.nodup
    obtain ⟨a, ha, hak⟩ := List.mem_map.mp hk
    exact (mem_remove.mp ha).2 hak
  · intro a ha
    rcases List.mem_cons.mp ha with rfl | ha
    · apply List.mem_cons_self
    · apply hrest.mem_touched a ha
  · rw [List.map_cons, List.pairwise_cons]
    use fun k hk => ?_, hrest.recent
    obtain ⟨a, ha, rfl⟩ := List.mem_map.mp hk
    rw [List.idxOf_cons_self, List.idxOf_cons_ne _ (mem_remove.mp ha).2.symm]
    omega

theorem Ordered.sublist {touched : List κ} {l l' : List (Slot κ ν)} (h : Ordered touched l)
    (hs : l'.Sublist l) :
  Ordered touched l'
  := ⟨h.nodup.sublist (hs.map _), fun a ha => h.mem_touched a (hs.subset ha),
    h.recent.sublist (hs.map _)⟩

/-- The keys touched since the last touch of `k` are those touched more recently than `k`. -/
theorem mem_since {k k' : κ} {touched : List κ} :
  k' ∈ since k touched ↔ touched.idxOf k' < touched.idxOf k
  := by
  rw [since, List.mem_toFinset]
  induction touched with
  | nil => simp
  | cons a touched ih =>
      by_cases hk : a = k
      · subst hk
        simp
      · rw [List.takeWhile_cons_of_pos (by simpa using hk), List.idxOf_cons_ne _ hk,
          List.mem_cons]
        by_cases hk' : a = k'
        · subst hk'
          simp
        · rw [List.idxOf_cons_ne _ hk', ih]
          have hne : ¬ k' = a := fun e => hk' e.symm
          simp [hne]

/-- Touching another key does not forget the keys touched since the last touch of `k`. -/
theorem since_subset_cons {k a : κ} (h : a ≠ k) (touched : List κ) :
  since k touched ⊆ since k (a :: touched)
  := by
  intro k' hk'
  rw [since, List.takeWhile_cons_of_pos (by simpa using h), List.toFinset_cons]
  apply Finset.mem_insert_of_mem hk'

/-- A slot dropped from behind the first `n` was touched before `n` other keys. -/
theorem Ordered.le_card_since {touched : List κ} {l : List (Slot κ ν)} (hl : Ordered touched l)
    {n : ℕ} {slot : Slot κ ν} (hs : slot ∈ l) (hdrop : slot ∉ l.take n) :
  n ≤ (since slot.key touched).card
  := by
  have hlen : n ≤ l.length := by
    by_contra hlt
    apply hdrop
    rw [List.take_of_length_le (by omega)]
    apply hs
  have hsplit : slot ∈ l.drop n := by
    rw [← List.take_append_drop n l, List.mem_append] at hs
    apply hs.resolve_left hdrop
  have hrecent := hl.recent
  rw [← List.take_append_drop n l, List.map_append, List.pairwise_append] at hrecent
  have hsub : ((l.take n).map Slot.key).toFinset ⊆ since slot.key touched := by
    intro k hk
    apply mem_since.mpr
    apply hrecent.2.2 k (List.mem_toFinset.mp hk)
    apply List.mem_map_of_mem hsplit
  have hnodup : ((l.take n).map Slot.key).Nodup :=
    hl.nodup.sublist ((List.take_sublist n l).map Slot.key)
  calc n = ((l.take n).map Slot.key).toFinset.card := by
        rw [List.toFinset_card_of_nodup hnodup, List.length_map, List.length_take,
          Nat.min_eq_left hlen]
    _ ≤ (since slot.key touched).card := Finset.card_le_card hsub

/-- The one slot that may be dropped from behind the first `n` was touched before the others. -/
theorem Ordered.least_recent {touched : List κ} {l : List (Slot κ ν)} (hl : Ordered touched l)
    {n : ℕ} (hlen : l.length ≤ n + 1) {slot other : Slot κ ν} (hs : slot ∈ l)
    (hdrop : slot ∉ l.take n) (hother : other ∈ l) (hne : other ≠ slot) :
  touched.idxOf other.key < touched.idxOf slot.key
  := by
  have hrecent := hl.recent
  rw [← List.take_append_drop n l] at hs hother hrecent
  have hslot : slot ∈ l.drop n := (List.mem_append.mp hs).resolve_left hdrop
  obtain ⟨last, hlast⟩ : ∃ last, l.drop n = [last] := by
    apply List.length_eq_one_iff.mp
    have := List.length_pos_of_mem hslot
    rw [List.length_drop] at this ⊢
    omega
  rw [hlast] at hslot hother hrecent
  obtain rfl : slot = last := List.mem_singleton.mp hslot
  have hother : other ∈ l.take n :=
    (List.mem_append.mp hother).resolve_right (fun h => hne (List.mem_singleton.mp h))
  rw [List.map_append, List.pairwise_append] at hrecent
  exact hrecent.2.2 _ (List.mem_map_of_mem hother) _ (by simp)

/-! ### Runs -/

section Runs

variable (capacity : ℕ) (deadline : ℤ → ℤ)

/-- After every history the list holds at most `capacity` slots. -/
theorem length_run_le (h : List (Event κ ν)) :
  (run capacity deadline h).length ≤ capacity
  := by
  induction h with
  | nil => simp [run]
  | cons e h ih =>
      obtain ⟨now, k | ⟨k, v⟩⟩ := e
      · rw [run]
        rcases get_cases now k (run capacity deadline h) with
          ⟨_, hget⟩ | ⟨slot, hs, rfl, _, hget⟩ | ⟨slot, hs, rfl, _, hget⟩
        · rw [hget]
          apply ih
        · rw [hget]
          apply (length_remove_lt hs).le.trans ih
        · rw [hget]
          apply (length_remove_lt hs).trans_le ih
      · rw [run, put]
        split
        · apply ih
        · apply List.length_take_le

omit capacity in
/-- A list without capacity stays empty. -/
theorem run_zero (h : List (Event κ ν)) :
  run 0 deadline h = []
  := List.eq_nil_of_length_eq_zero (Nat.le_zero.mp (length_run_le 0 deadline h))

/-- After every history the keys are distinct and ordered by their last touch. -/
theorem run_ordered (h : List (Event κ ν)) :
  Ordered (touches capacity deadline h) (run capacity deadline h)
  := by
  induction h with
  | nil => exact ⟨by simp [run], by simp [run], by simp [run]⟩
  | cons e h ih =>
      obtain ⟨now, k | ⟨k, v⟩⟩ := e
      · rw [run, touches]
        rcases get_cases now k (run capacity deadline h) with
          ⟨_, hget⟩ | ⟨slot, hs, rfl, _, hget⟩ | ⟨slot, hs, rfl, _, hget⟩
        · simpa [hget] using ih
        · rw [hget]
          exact ih.sublist List.filter_sublist
        · rw [hget]
          exact ih.cons slot
      · rw [run, touches, put]
        split
        · rename_i hd
          rw [hd, run_zero]
          exact ⟨by simp, by simp, by simp⟩
        · apply (ih.cons ⟨k, v, deadline now⟩).sublist (List.take_sublist _ _)

/-- After every history a slot holds what was last put under its key, until the deadline of that
put. -/
theorem mem_run (h : List (Event κ ν)) {slot : Slot κ ν} (hs : slot ∈ run capacity deadline h) :
  ∃ t, lastPut slot.key h = some (t, slot.value) ∧ slot.expiresAt = deadline t
  := by
  induction h with
  | nil => simp [run] at hs
  | cons e h ih =>
      obtain ⟨now, k | ⟨k, v⟩⟩ := e
      · apply ih
        rw [run] at hs
        rcases get_cases now k (run capacity deadline h) with
          ⟨_, hget⟩ | ⟨found, hfound, _, _, hget⟩ | ⟨found, hfound, _, _, hget⟩
        · simpa [hget] using hs
        · rw [hget] at hs
          apply (mem_remove.mp hs).1
        · rw [hget] at hs
          rcases List.mem_cons.mp hs with rfl | hs
          · apply hfound
          · apply (mem_remove.mp hs).1
      · rw [run, put] at hs
        split at hs
        · rename_i hd
          simp [hd, run_zero] at hs
        · rcases List.mem_cons.mp (List.mem_of_mem_take hs) with rfl | hs
          · exact ⟨now, by simp [lastPut], rfl⟩
          · obtain ⟨hmem, hne⟩ := mem_remove.mp hs
            simpa [lastPut, hne.symm] using ih hmem

omit deadline in
/-- What was last put was put in the history. -/
theorem mem_of_lastPut {h : List (Event κ ν)} {k : κ} {t : ℤ} {v : ν}
    (hput : lastPut k h = some (t, v)) :
  ⟨t, .put k v⟩ ∈ h
  := by
  induction h with
  | nil => simp [lastPut] at hput
  | cons e h ih =>
      obtain ⟨now, k' | ⟨k', v'⟩⟩ := e
      · exact List.mem_cons_of_mem _ (ih hput)
      · rw [lastPut] at hput
        split at hput
        · subst k'
          obtain ⟨rfl, rfl⟩ : now = t ∧ v' = v := by simpa using hput
          apply List.mem_cons_self
        · exact List.mem_cons_of_mem _ (ih hput)

/-- A value a get finds is the one last put, before its deadline. -/
theorem lastPut_of_get (h : List (Event κ ν)) {now : ℤ} {k : κ} {v : ν}
    (hget : (get now k (run capacity deadline h)).2 = some v) :
  ∃ t, lastPut k h = some (t, v) ∧ now < deadline t
  := by
  rcases get_cases now k (run capacity deadline h) with
    ⟨_, he⟩ | ⟨_, _, _, _, he⟩ | ⟨slot, hs, rfl, hlt, he⟩
  · simp [he] at hget
  · simp [he] at hget
  · obtain ⟨t, hput, hexp⟩ := mem_run capacity deadline h hs
    rw [he] at hget
    obtain rfl : slot.value = v := by simpa using hget
    exact ⟨t, hput, hexp ▸ hlt⟩

/-- What can become of a key put at `t`: its slot is still there, or some call was made when it had
expired, or `capacity` other keys were touched since its last touch. -/
def Retained (capacity : ℕ) (deadline : ℤ → ℤ) (h : List (Event κ ν)) (k : κ) (t : ℤ) (v : ν) :
    Prop :=
  (⟨k, v, deadline t⟩ : Slot κ ν) ∈ run capacity deadline h
    ∨ (∃ e ∈ h, deadline t ≤ e.time)
    ∨ capacity ≤ (since k (touches capacity deadline h)).card

omit [DecidableEq κ] in
theorem exists_time_le_cons {h : List (Event κ ν)} {time : ℤ} (hold : ∃ e ∈ h, time ≤ e.time)
    (e : Event κ ν) :
  ∃ e' ∈ e :: h, time ≤ e'.time
  := by
  obtain ⟨e', he', hle⟩ := hold
  exact ⟨e', List.mem_cons_of_mem _ he', hle⟩

/-- A lookup after the key was last put. -/
theorem Retained.get {h : List (Event κ ν)} {k : κ} {t : ℤ} {v : ν}
    (hput : lastPut k h = some (t, v)) (hr : Retained capacity deadline h k t v) (now : ℤ)
    (k' : κ) :
  Retained capacity deadline (⟨now, .get k'⟩ :: h) k t v
  := by
  have hown : ∀ slot ∈ run capacity deadline h, slot.key = k → slot.expiresAt = deadline t
      ∧ slot.value = v := by
    rintro slot hs rfl
    obtain ⟨t', hput', ht'⟩ := mem_run capacity deadline h hs
    obtain ⟨rfl, rfl⟩ : t = t' ∧ v = slot.value := by simpa [hput] using hput'
    exact ⟨ht', rfl⟩
  rw [Retained, run, touches]
  rcases get_cases now k' (run capacity deadline h) with
    ⟨_, hget⟩ | ⟨slot, hs, rfl, hexp, hget⟩ | ⟨slot, hs, rfl, _, hget⟩
  · rw [hget]
    exact hr.imp_right (Or.imp_left fun hold => exists_time_le_cons hold _)
  · rw [hget]
    by_cases hk : slot.key = k
    · right; left
      exact ⟨_, List.mem_cons_self, (hown slot hs hk).1 ▸ hexp⟩
    · rcases hr with hmem | hold | hcard
      · left
        exact mem_remove.mpr ⟨hmem, fun e => hk e.symm⟩
      · exact Or.inr (Or.inl (exists_time_le_cons hold _))
      · exact Or.inr (Or.inr hcard)
  · rw [hget]
    by_cases hk : slot.key = k
    · obtain ⟨hexpires, rfl⟩ := hown slot hs hk
      left
      rw [← hexpires, ← hk]
      apply List.mem_cons_self
    · rcases hr with hmem | hold | hcard
      · left
        exact List.mem_cons_of_mem _ (mem_remove.mpr ⟨hmem, fun e => hk e.symm⟩)
      · exact Or.inr (Or.inl (exists_time_le_cons hold _))
      · right; right
        exact hcard.trans (Finset.card_le_card (since_subset_cons hk _))

/-- Another key put after the key. -/
theorem Retained.put (hc : 0 < capacity) {h : List (Event κ ν)} {k : κ} {t : ℤ}
    {v : ν} (hr : Retained capacity deadline h k t v) (now : ℤ) {k' : κ} (hk : k' ≠ k) (v' : ν) :
  Retained capacity deadline (⟨now, .put k' v'⟩ :: h) k t v
  := by
  rw [Retained, run, touches, RecencyList.put, if_neg (by omega)]
  rcases hr with hmem | hold | hcard
  · have hmem' : (⟨k, v, deadline t⟩ : Slot κ ν)
        ∈ ⟨k', v', deadline now⟩ :: remove k' (run capacity deadline h) :=
      List.mem_cons_of_mem _ (mem_remove.mpr ⟨hmem, fun e => hk e.symm⟩)
    by_cases hkept : (⟨k, v, deadline t⟩ : Slot κ ν)
        ∈ (⟨k', v', deadline now⟩ :: remove k' (run capacity deadline h)).take capacity
    · exact Or.inl hkept
    · have hordered := (run_ordered capacity deadline h).cons ⟨k', v', deadline now⟩
      exact Or.inr (Or.inr (hordered.le_card_since hmem' hkept))
  · exact Or.inr (Or.inl (exists_time_le_cons hold _))
  · right; right
    exact hcard.trans (Finset.card_le_card (since_subset_cons hk _))

/-- What became of a key last put at `t`. -/
theorem retained (hc : 0 < capacity) (h : List (Event κ ν)) {k : κ} {t : ℤ}
    {v : ν} (hput : lastPut k h = some (t, v)) :
  Retained capacity deadline h k t v
  := by
  induction h with
  | nil => simp [lastPut] at hput
  | cons e h ih =>
      obtain ⟨now, k' | ⟨k', v'⟩⟩ := e
      · rw [lastPut] at hput
        exact (ih hput).get capacity deadline hput now k'
      · rw [lastPut] at hput
        by_cases hk : k' = k
        · subst hk
          obtain ⟨rfl, rfl⟩ : now = t ∧ v' = v := by simpa using hput
          left
          rw [run, RecencyList.put, if_neg (by omega), List.take_cons hc]
          apply List.mem_cons_self
        · rw [if_neg hk] at hput
          exact (ih hput).put capacity deadline hc now hk v'

/-- With clock readings that do not decrease, a key is found before its deadline unless `capacity`
other keys were touched since its last touch. -/
theorem get_of_lastPut (hc : 0 < capacity) (h : List (Event κ ν)) {now : ℤ}
    (hnow : ∀ e ∈ h, e.time ≤ now) {k : κ} {t : ℤ} {v : ν} (hput : lastPut k h = some (t, v))
    (hfresh : now < deadline t) (hcard : (since k (touches capacity deadline h)).card < capacity) :
  (get now k (run capacity deadline h)).2 = some v
  := by
  rcases retained capacity deadline hc h hput with hmem | ⟨e, he, hle⟩ | hle
  · have hfind := find?_eq_some (run_ordered capacity deadline h).nodup hmem
    simp only [get]
    rw [hfind]
    simp [not_le.mpr hfresh]
  · have := hnow e he
    omega
  · omega

/-- A key a put drops was touched before every other key that was there, and before the key
the put writes. -/
theorem put_drops_least_recent (h : List (Event κ ν)) {now : ℤ} {k k' : κ} {v : ν}
    (hs : k' ∈ (run capacity deadline h).map Slot.key)
    (hdrop : k' ∉ (put capacity deadline now k v (run capacity deadline h)).map Slot.key) :
  ∀ other ∈ k :: (run capacity deadline h).map Slot.key, other ≠ k' →
    (k :: touches capacity deadline h).idxOf other < (k :: touches capacity deadline h).idxOf k'
  := by
  have hen : capacity ≠ 0 := by
    intro hd
    rw [hd, run_zero] at hs
    simp at hs
  rw [put, if_neg hen] at hdrop
  have hordered := (run_ordered capacity deadline h).cons ⟨k, v, deadline now⟩
  have hlen : (⟨k, v, deadline now⟩ :: remove k (run capacity deadline h)).length
      ≤ capacity + 1 := by
    have hremove : (remove k (run capacity deadline h)).length ≤ (run capacity deadline h).length :=
      List.length_filter_le _ _
    have hrun := length_run_le capacity deadline h
    rw [List.length_cons]
    omega
  have hmem : ∀ other ∈ k :: (run capacity deadline h).map Slot.key,
      ∃ slot ∈ ⟨k, v, deadline now⟩ :: remove k (run capacity deadline h), slot.key = other := by
    intro other hother
    by_cases hk : other = k
    · subst hk
      exact ⟨_, List.mem_cons_self, rfl⟩
    · obtain ⟨slot, hslot, rfl⟩ := List.mem_map.mp ((List.mem_cons.mp hother).resolve_left hk)
      exact ⟨slot, List.mem_cons_of_mem _ (mem_remove.mpr ⟨hslot, hk⟩), rfl⟩
  obtain ⟨slot, hslot, rfl⟩ := hmem k' (List.mem_cons_of_mem _ hs)
  intro other hother hne
  obtain ⟨slot', hslot', rfl⟩ := hmem other hother
  apply hordered.least_recent hlen hslot _ hslot' (fun e => hne (e ▸ rfl))
  exact fun htake => hdrop (List.mem_map_of_mem htake)

end Runs

end RecencyList
