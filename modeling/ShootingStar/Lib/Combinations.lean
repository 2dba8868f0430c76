import Mathlib.Data.List.Basic
import Mathlib.Data.List.Nodup
import Mathlib.Data.List.Perm.Basic
import Mathlib.Data.List.Flatten
import Mathlib.Order.Lattice

/-!
# Pairs of entries of a list

`combinations l` lists the pairs of entries of `l`, the first entry of a pair before the second.
In a list strictly sorted by a key they are the pairs whose first key is smaller
(`combinations_eq_orderedPairs`), and these do not depend on the order of the list.
-/

namespace Combinations

variable {α β : Type*} [LinearOrder β] {key : α → β}

/-- The pairs of entries of a list, each entry with the later ones. -/
def combinations : List α → List (α × α)
  | [] => []
  | x :: xs => xs.map (fun y => (x, y)) ++ combinations xs

omit [LinearOrder β] in
theorem combinations_eq_nil {l : List α} (h : l.length < 2) :
  combinations l = []
  := by
  match l with
  | [] => rfl
  | [_] => rfl

/-- The pairs of entries whose first key is smaller. -/
def orderedPairs (key : α → β) (l : List α) : List (α × α) :=
  l.flatMap fun x => (l.filter (fun y => key x < key y)).map fun y => (x, y)

theorem mem_orderedPairs {l : List α} {p : α × α} :
  p ∈ orderedPairs key l ↔ p.1 ∈ l ∧ p.2 ∈ l ∧ key p.1 < key p.2
  := by
  obtain ⟨x, y⟩ := p
  simp [orderedPairs]

/-- The ordered pairs of a permuted list. -/
theorem orderedPairs_perm {l l' : List α} (h : l.Perm l') :
  (orderedPairs key l).Perm (orderedPairs key l')
  := by
  apply h.flatMap
  intro x _
  apply List.Perm.map
  apply h.filter

/-- In a list strictly sorted by a key the earlier entry of a pair is the one of smaller key. -/
theorem combinations_eq_orderedPairs {l : List α} (h : l.Pairwise (fun x y => key x < key y)) :
  combinations l = orderedPairs key l
  := by
  induction l with
  | nil => rfl
  | cons x xs ih =>
      have hx : ∀ y ∈ xs, key x < key y := fun _ hy => List.rel_of_pairwise_cons h hy
      have hfirst : (x :: xs).filter (fun y => key x < key y) = xs := by
        rw [List.filter_cons_of_neg (by simp)]
        apply List.filter_eq_self.mpr
        intro y hy
        simpa using hx y hy
      have hrest : xs.flatMap (fun y => ((x :: xs).filter (fun z => key y < key z)).map fun z => (y, z))
          = orderedPairs key xs := by
        apply List.flatMap_congr
        intro y hy
        rw [List.filter_cons_of_neg (by simpa using (hx y hy).le)]
      rw [combinations, orderedPairs, List.flatMap_cons, hfirst, hrest, ih h.of_cons]

/-- The keys of the pairs of a list with distinct keys are distinct. -/
theorem nodup_map_orderedPairs {l : List α} (h : (l.map key).Nodup) :
  ((orderedPairs key l).map fun p => (key p.1, key p.2)).Nodup
  := by
  have hinj : ∀ x ∈ l, ∀ y ∈ l, key x = key y → x = y := fun _ hx _ hy => List.inj_on_of_nodup_map h hx hy
  have hnodup := List.Nodup.of_map key h
  apply List.Nodup.map_on
  · rintro ⟨x, y⟩ hp ⟨x', y'⟩ hp' he
    obtain ⟨hx, hy, -⟩ := mem_orderedPairs.mp hp
    obtain ⟨hx', hy', -⟩ := mem_orderedPairs.mp hp'
    obtain ⟨hxx, hyy⟩ := Prod.mk.inj he
    rw [hinj x hx x' hx' hxx, hinj y hy y' hy' hyy]
  · apply List.nodup_flatMap.mpr
    constructor
    · intro x _
      apply List.Nodup.map _ (hnodup.filter _)
      intro y y' he
      exact (Prod.mk.inj he).2
    · apply hnodup.imp
      intro x x' hne p hp hp'
      obtain ⟨_, _, rfl⟩ := List.mem_map.mp hp
      obtain ⟨_, _, he⟩ := List.mem_map.mp hp'
      exact hne (Prod.mk.inj he).1.symm

end Combinations
