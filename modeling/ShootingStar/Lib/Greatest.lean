import Mathlib.Data.List.MinMax
import ShootingStar.Lib.Keyed

/-!
# The greatest entry of each key

A dictionary that replaces an entry by one of the same key and a greater rank ends with the greatest
entry of each key, the first one of several (`accumulate_keep`).  When entries of one key and rank
are equal, these are the entries that no entry of their key exceeds (`mem_greatest_iff`), so lists
with the same entries keep the same ones (`greatest_perm`).
-/

namespace Greatest

variable {α β κ : Type*} [LinearOrder β] [DecidableEq κ] {key : α → κ} {rank : α → β}

/-- A greater entry replaces the one kept so far. -/
def keep (rank : α → β) (x : α) : Option α → α
  | none => x
  | some existing => if rank existing < rank x then x else existing

/-- One entry for each key, in the order the keys are first seen. -/
def greatest (key : α → κ) (rank : α → β) (xs : List α) : List α :=
  (Keyed.collect key (keep rank) xs).map Prod.snd

/-- What is kept of a list is its first greatest entry. -/
theorem accumulate_keep (rank : α → β) (xs : List α) :
  Keyed.accumulate (keep rank) xs = xs.argmax rank
  := by
  induction xs using List.reverseRecOn with
  | nil => rfl
  | append_singleton xs x ih =>
      rw [Keyed.accumulate_concat, List.argmax_concat, ih]
      cases xs.argmax rank with
      | none => rfl
      | some existing =>
          dsimp only [keep]
          split <;> rfl

/-- What is kept under a key is one of its entries. -/
theorem of_mem_collect_keep {xs : List α} {p : κ × α} (h : p ∈ Keyed.collect key (keep rank) xs) :
  key p.2 = p.1 ∧ p.2 ∈ xs
  := by
  apply Keyed.of_mem_collect (fun k x => key x = k ∧ x ∈ xs) _ h
  intro x hx o ho
  cases o with
  | none => exact ⟨rfl, hx⟩
  | some existing =>
      rw [keep]
      split
      · exact ⟨rfl, hx⟩
      · exact ho existing rfl

theorem mem_of_mem_greatest {xs : List α} {x : α} (h : x ∈ greatest key rank xs) :
  x ∈ xs
  := by
  obtain ⟨p, hp, rfl⟩ := List.mem_map.mp h
  exact (of_mem_collect_keep hp).2

/-- The keys of the entries kept. -/
theorem map_key_greatest (key : α → κ) (rank : α → β) (xs : List α) :
  (greatest key rank xs).map key = (xs.map key).eraseDups
  := by
  rw [← Keyed.map_fst_collect key (keep rank), greatest, List.map_map]
  apply List.map_congr_left
  intro p hp
  exact (of_mem_collect_keep hp).1

theorem nodup_map_key_greatest (key : α → κ) (rank : α → β) (xs : List α) :
  ((greatest key rank xs).map key).Nodup
  := by
  rw [map_key_greatest]
  apply Keyed.nodup_eraseDups

/-- An entry kept is not exceeded by an entry of its key. -/
theorem rank_le_of_mem_greatest {xs : List α} {x y : α} (h : x ∈ greatest key rank xs)
    (hy : y ∈ xs) (hkey : key y = key x) :
  rank y ≤ rank x
  := by
  obtain ⟨p, hp, rfl⟩ := List.mem_map.mp h
  have hmax := Keyed.accumulate_of_mem_collect hp
  rw [accumulate_keep] at hmax
  apply List.le_of_mem_argmax _ hmax
  rw [List.mem_filter, hkey, (of_mem_collect_keep hp).1]
  exact ⟨hy, decide_eq_true rfl⟩

/-- The entries kept are those that no entry of their key exceeds. -/
theorem mem_greatest_iff {xs : List α}
    (hinj : ∀ x ∈ xs, ∀ y ∈ xs, key x = key y → rank x = rank y → x = y) {x : α} :
  x ∈ greatest key rank xs ↔ x ∈ xs ∧ ∀ y ∈ xs, key y = key x → rank y ≤ rank x
  := by
  constructor
  · intro h
    exact ⟨mem_of_mem_greatest h, fun y hy hkey => rank_le_of_mem_greatest h hy hkey⟩
  · rintro ⟨hx, hle⟩
    have hkey : key x ∈ (greatest key rank xs).map key := by
      rw [map_key_greatest, List.mem_eraseDups]
      exact List.mem_map_of_mem hx
    obtain ⟨y, hy, hyx⟩ := List.mem_map.mp hkey
    have hyxs := mem_of_mem_greatest hy
    have hxy := rank_le_of_mem_greatest hy hx hyx.symm
    rwa [← hinj y hyxs x hx hyx (le_antisymm (hle y hyxs hyx) hxy)]

/-- The entries kept of a list with the same entries. -/
theorem greatest_perm {xs ys : List α}
    (hinj : ∀ x ∈ xs, ∀ y ∈ xs, key x = key y → rank x = rank y → x = y)
    (h : ∀ x, x ∈ ys ↔ x ∈ xs) :
  (greatest key rank ys).Perm (greatest key rank xs)
  := by
  have hinj' : ∀ x ∈ ys, ∀ y ∈ ys, key x = key y → rank x = rank y → x = y :=
    fun x hx y hy => hinj x ((h x).mp hx) y ((h y).mp hy)
  have hnodup : ∀ l : List α, (greatest key rank l).Nodup :=
    fun l => List.Nodup.of_map key (nodup_map_key_greatest key rank l)
  apply (List.perm_ext_iff_of_nodup (hnodup ys) (hnodup xs)).mpr
  intro x
  rw [mem_greatest_iff hinj, mem_greatest_iff hinj']
  simp only [h]

/-! ### The greatest and the least entry of a list -/

theorem max?_eq_of_perm {l l' : List β} (h : l'.Perm l) :
  l'.max? = l.max?
  := by
  cases hmax : l.max? with
  | none =>
      rw [List.max?_eq_none_iff] at hmax ⊢
      rw [hmax] at h
      exact h.eq_nil
  | some a =>
      rw [List.max?_eq_some_iff] at hmax ⊢
      simpa only [h.mem_iff] using hmax

theorem min?_eq_of_perm {l l' : List β} (h : l'.Perm l) :
  l'.min? = l.min?
  := by
  cases hmin : l.min? with
  | none =>
      rw [List.min?_eq_none_iff] at hmin ⊢
      rw [hmin] at h
      exact h.eq_nil
  | some a =>
      rw [List.min?_eq_some_iff] at hmin ⊢
      simpa only [h.mem_iff] using hmin

end Greatest
