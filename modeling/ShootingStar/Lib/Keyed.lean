import Mathlib.Data.List.Basic
import Mathlib.Data.List.Nodup
import Mathlib.Data.List.TakeWhile
import Mathlib.Data.List.Perm.Basic
import Mathlib.Data.List.Perm.Subperm
import Mathlib.Data.List.Lattice
import Mathlib.Data.List.Flatten
import Mathlib.Data.List.Induction
import Mathlib.Data.Finset.Card
import Mathlib.Order.Basic

/-!
# Keyed collections

A dictionary in insertion order is a list of pairs with distinct first components.
`upsert` updates the value stored under a key, or appends the key.  Folding `upsert`
over a list (`collect`) lists the keys in the order they are first seen, each with the
values of its own entries accumulated in order (`map_fst_collect`, `lookup_collect`).

`groups key xs` lists the keys of `xs` in the order they are first seen, each with the
entries of `xs` that carry it.  Grouping the parts of a list cut by a function of the key
gives the groups of the list, up to their order (`groups_shards_perm`), and on a list
whose keys are contiguous the groups are the maximal runs (`runs_eq_groups`), which a loop that
holds one run at a time goes through (`foldl_runStep`).
-/

namespace Keyed

variable {α β κ ν : Type*} [DecidableEq κ]

/-! ### First occurrences -/

theorem eraseDups_concat (l : List κ) (a : κ) :
  (l ++ [a]).eraseDups = if a ∈ l then l.eraseDups else l.eraseDups ++ [a]
  := by
  rw [List.eraseDups_append]
  by_cases h : a ∈ l
  · simp [List.removeAll, h]
  · simp [List.removeAll, h, List.eraseDups_cons]

theorem nodup_eraseDups (l : List κ) :
  l.eraseDups.Nodup
  := by
  induction l using List.reverseRecOn with
  | nil => simp
  | append_singleton l a ih =>
      rw [eraseDups_concat]
      split
      · apply ih
      · rename_i h
        apply ih.append (List.nodup_singleton a)
        simpa using h

theorem eraseDups_of_nodup {l : List κ} (h : l.Nodup) :
  l.eraseDups = l
  := by
  induction l using List.reverseRecOn with
  | nil => simp
  | append_singleton l a ih =>
      rw [List.nodup_append] at h
      rw [eraseDups_concat, if_neg, ih h.1]
      intro ha
      apply h.2.2 a ha a (by simp) rfl

/-- Keeping the first occurrences commutes with filtering. -/
theorem eraseDups_filter (p : κ → Bool) (l : List κ) :
  (l.filter p).eraseDups = l.eraseDups.filter p
  := by
  induction l using List.reverseRecOn with
  | nil => simp
  | append_singleton l a ih =>
      by_cases hp : p a
      · by_cases ha : a ∈ l <;> simp [List.filter_append, eraseDups_concat, hp, ha, ih]
      · by_cases ha : a ∈ l <;> simp [List.filter_append, eraseDups_concat, hp, ha, ih]

theorem eraseDups_perm {l l' : List κ} (h : l.Perm l') :
  l.eraseDups.Perm l'.eraseDups
  := by
  apply (List.perm_ext_iff_of_nodup (nodup_eraseDups l) (nodup_eraseDups l')).mpr
  intro a
  rw [List.mem_eraseDups, List.mem_eraseDups, h.mem_iff]

theorem length_eraseDups_le (l : List κ) :
  l.eraseDups.length ≤ l.length
  := by
  apply List.Subperm.length_le
  apply List.Nodup.subperm (nodup_eraseDups l)
  intro a
  exact List.mem_eraseDups.mp

theorem card_toFinset (l : List κ) :
  l.toFinset.card = l.eraseDups.length
  := by
  rw [← List.toFinset_card_of_nodup (nodup_eraseDups l)]
  congr 1
  ext a
  rw [List.mem_toFinset, List.mem_toFinset, List.mem_eraseDups]

omit [DecidableEq κ] in
/-- Distinct keys are distinct in every part. -/
theorem nodup_map_of_subperm {key : α → κ} {l l' : List α} (h : l.Subperm l')
    (hl' : (l'.map key).Nodup) :
  (l.map key).Nodup
  := by
  obtain ⟨part, hpart, hsub⟩ := h
  exact (hpart.map key).nodup_iff.mp (hl'.sublist (hsub.map key))

/-- A beginning of a list has a beginning of its distinct entries. -/
theorem eraseDups_take_begins (l : List κ) (n : ℕ) :
  (l.take n).eraseDups <+: l.eraseDups
  := by
  have hsplit : (l.take n ++ l.drop n).eraseDups = _ := List.eraseDups_append
  rw [List.take_append_drop] at hsplit
  rw [hsplit]
  apply List.prefix_append

/-- The first `n` entries hold as many distinct entries as they can exactly when they are distinct
or hold all the entries of the list. -/
theorem length_eraseDups_take_iff (l : List κ) (n : ℕ) :
  (l.take n).eraseDups.length = min n l.eraseDups.length
    ↔ (l.take n).Nodup ∨ l ⊆ l.take n
  := by
  have hprefix := eraseDups_take_begins l n
  have hlength := length_eraseDups_le (l.take n)
  have htake := List.length_take_le n l
  constructor
  · intro h
    rcases Nat.le_total n l.eraseDups.length with hle | hle
    · left
      rw [Nat.min_eq_left hle] at h
      have hperm : (l.take n).eraseDups.Perm (l.take n) := by
        apply List.Subperm.perm_of_length_le _ (by omega)
        apply List.Nodup.subperm (nodup_eraseDups _)
        intro a
        exact List.mem_eraseDups.mp
      exact hperm.nodup_iff.mp (nodup_eraseDups _)
    · right
      rw [Nat.min_eq_right hle] at h
      have heq := hprefix.eq_of_length h
      intro a ha
      rw [← List.mem_eraseDups, heq, List.mem_eraseDups]
      exact ha
  · rintro (hnodup | hsub)
    · rw [eraseDups_of_nodup hnodup] at hprefix ⊢
      have hle := hprefix.length_le
      rw [List.length_take] at hle ⊢
      have hall := length_eraseDups_le l
      omega
    · have hperm : (l.take n).eraseDups.Perm l.eraseDups := by
        apply (List.perm_ext_iff_of_nodup (nodup_eraseDups _) (nodup_eraseDups _)).mpr
        intro a
        rw [List.mem_eraseDups, List.mem_eraseDups]
        exact ⟨fun h => List.mem_of_mem_take h, fun h => hsub h⟩
      rw [hperm.length_eq]
      have := hperm.length_eq
      omega

/-- When the first `n` entries hold as many distinct entries as they can, these are the first `n`
distinct entries of the list. -/
theorem eraseDups_take {l : List κ} {n : ℕ}
    (h : (l.take n).eraseDups.length = min n l.eraseDups.length) :
  (l.take n).eraseDups = l.eraseDups.take n
  := by
  have hmin : l.eraseDups.take n = l.eraseDups.take (min n l.eraseDups.length) :=
    List.take_eq_take_min
  rw [hmin, ← h]
  exact List.prefix_iff_eq_take.mp (eraseDups_take_begins l n)

/-- The entries of `l` appended to `acc` in order, without those whose key is there already. -/
def addFirsts (key : α → κ) (acc l : List α) : List α :=
  l.foldl (fun acc x => if key x ∈ acc.map key then acc else acc ++ [x]) acc

/-- The first entry of every key. -/
def firsts (key : α → κ) (l : List α) : List α :=
  addFirsts key [] l

theorem firsts_concat (key : α → κ) (l : List α) (x : α) :
  firsts key (l ++ [x])
    = if key x ∈ (firsts key l).map key then firsts key l else firsts key l ++ [x]
  := by
  rw [firsts, addFirsts, List.foldl_concat]
  rfl

theorem firsts_append (key : α → κ) (l l' : List α) :
  firsts key (l ++ l') = addFirsts key (firsts key l) l'
  := by
  rw [firsts, addFirsts, List.foldl_append]
  rfl

/-- The keys of the first entries. -/
theorem map_firsts (key : α → κ) (l : List α) :
  (firsts key l).map key = (l.map key).eraseDups
  := by
  induction l using List.reverseRecOn with
  | nil => simp [firsts, addFirsts]
  | append_singleton l x ih =>
      rw [firsts_concat, List.map_append, List.map_singleton, eraseDups_concat, ih]
      simp only [List.mem_eraseDups]
      split
      · rw [ih]
      · rw [List.map_append, ih, List.map_singleton]

theorem firsts_sublist (key : α → κ) (l : List α) :
  (firsts key l).Sublist l
  := by
  induction l using List.reverseRecOn with
  | nil => simp [firsts, addFirsts]
  | append_singleton l x ih =>
      rw [firsts_concat]
      split
      · exact ih.trans (List.sublist_append_left l [x])
      · exact ih.append_right [x]

/-- Entries of distinct keys are all first. -/
theorem firsts_of_nodup {key : α → κ} {l : List α} (h : (l.map key).Nodup) :
  firsts key l = l
  := by
  apply (firsts_sublist key l).eq_of_length
  rw [← List.length_map key, map_firsts, eraseDups_of_nodup h, List.length_map]

/-- The entries of one key among the first entries: the first entry of the key. -/
theorem filter_firsts (key : α → κ) (l : List α) (k : κ) :
  (firsts key l).filter (key · = k) = (l.find? (key · = k)).toList
  := by
  induction l using List.reverseRecOn with
  | nil => rfl
  | append_singleton l x ih =>
      have hkeys : k ∈ (firsts key l).map key ↔ (l.find? (key · = k)).isSome := by
        rw [map_firsts, List.mem_eraseDups, List.find?_isSome]
        simp [List.mem_map]
      rw [firsts_concat, List.find?_append]
      by_cases hx : key x = k
      · subst hx
        split
        next hmem =>
          rw [ih, Option.or_of_isSome (hkeys.mp hmem)]
        next hmem =>
          have hnone : l.find? (key · = key x) = none := by
            simpa using mt hkeys.mpr hmem
          rw [List.filter_append, ih, hnone]
          simp
      · split
        · simp [ih, hx]
        · simp [List.filter_append, ih, hx]

/-- Taking first entries commutes with a map that renames keys injectively. -/
theorem firsts_map {κ' : Type*} [DecidableEq κ'] {key : α → κ} {key' : β → κ'} {f : α → β}
    {rename : κ → κ'} (hrename : Function.Injective rename) (hkey : ∀ x, key' (f x) = rename (key x))
    (l : List α) :
  firsts key' (l.map f) = (firsts key l).map f
  := by
  induction l using List.reverseRecOn with
  | nil => rfl
  | append_singleton l x ih =>
      have hmem : key' (f x) ∈ ((firsts key l).map f).map key'
          ↔ key x ∈ (firsts key l).map key := by
        have hkeys : ((firsts key l).map f).map key' = ((firsts key l).map key).map rename := by
          rw [List.map_map, List.map_map]
          apply List.map_congr_left
          intro y _
          exact hkey y
        rw [hkeys, hkey]
        exact List.mem_map_of_injective hrename
      rw [List.map_append, List.map_singleton, firsts_concat, firsts_concat, ih]
      simp only [hmem]
      split
      · rfl
      · rw [List.map_append, List.map_singleton]

/-- One turn of a loop that keeps the set of the keys seen: the entry of `x`, if it has one, is
appended unless its key has been seen. -/
def addUnseen (key : β → κ) (entry : α → Option β) (acc : List κ × List β) (x : α) :
    List κ × List β :=
  match entry x with
  | none => acc
  | some e => if key e ∈ acc.1 then acc else (key e :: acc.1, acc.2 ++ [e])

/-- The keys seen are those of the entries. -/
def Seen (key : β → κ) (acc : List κ × List β) : Prop :=
  ∀ k, k ∈ acc.1 ↔ k ∈ acc.2.map key

omit [DecidableEq κ] in
theorem seen_nil (key : β → κ) :
  Seen key ([], [])
  := fun k => by simp

/-- The loop appends the first entry of every key not seen before. -/
theorem foldl_addUnseen (key : β → κ) (entry : α → Option β) (l : List α)
    {acc : List κ × List β} (hacc : Seen key acc) :
  Seen key (l.foldl (addUnseen key entry) acc)
    ∧ (l.foldl (addUnseen key entry) acc).2 = addFirsts key acc.2 (l.filterMap entry)
  := by
  induction l generalizing acc with
  | nil => exact ⟨hacc, rfl⟩
  | cons x l ih =>
      rw [List.foldl_cons]
      cases hx : entry x with
      | none =>
          rw [List.filterMap_cons_none hx, addUnseen, hx]
          exact ih hacc
      | some e =>
          have hstep : addUnseen key entry acc x
              = if key e ∈ acc.1 then acc else (key e :: acc.1, acc.2 ++ [e]) := by
            rw [addUnseen, hx]
          rw [List.filterMap_cons_some hx, addFirsts, List.foldl_cons, hstep]
          by_cases hseen : key e ∈ acc.1
          · rw [if_pos ((hacc _).mp hseen), if_pos hseen]
            exact ih hacc
          · rw [if_neg (mt (hacc _).mpr hseen), if_neg hseen]
            apply ih
            intro k
            rw [List.map_append, List.mem_append, List.map_singleton, List.mem_singleton,
              List.mem_cons, hacc k]
            exact or_comm

/-! ### Dictionaries -/

/-- With distinct keys an entry is found under its key. -/
theorem find?_eq_some_of_nodup {key : α → κ} {l : List α} (h : (l.map key).Nodup) {a : α}
    (ha : a ∈ l) :
  l.find? (key · = key a) = some a
  := by
  obtain ⟨b, hb⟩ : ∃ b, l.find? (key · = key a) = some b := by
    apply Option.isSome_iff_exists.mp
    rw [List.find?_isSome]
    exact ⟨a, ha, decide_eq_true rfl⟩
  have hkey : key b = key a := by
    simpa using List.find?_some hb
  rw [hb, List.inj_on_of_nodup_map h (List.mem_of_find?_eq_some hb) ha hkey]

/-- The dictionary with the value under `k` replaced by `f` of it, `f none` being stored
at the end when `k` is not a key. -/
def upsert (k : κ) (f : Option ν → ν) : List (κ × ν) → List (κ × ν)
  | [] => [(k, f none)]
  | (k', v) :: d => if k' = k then (k', f (some v)) :: d else (k', v) :: upsert k f d

/-- The keys of an updated dictionary. -/
theorem map_fst_upsert (k : κ) (f : Option ν → ν) (d : List (κ × ν)) :
  (upsert k f d).map Prod.fst
    = if k ∈ d.map Prod.fst then d.map Prod.fst else d.map Prod.fst ++ [k]
  := by
  induction d with
  | nil => simp [upsert]
  | cons p d ih =>
      obtain ⟨k', v⟩ := p
      by_cases h : k' = k
      · simp [upsert, h]
      · have h' : ¬ k = k' := fun e => h e.symm
        simp only [upsert, h, if_false, List.map_cons, ih, List.mem_cons, h', false_or]
        split <;> rfl

/-- The keys of an updated dictionary are distinct. -/
theorem nodup_map_fst_upsert (k : κ) (f : Option ν → ν) {d : List (κ × ν)}
    (hd : (d.map Prod.fst).Nodup) :
  ((upsert k f d).map Prod.fst).Nodup
  := by
  rw [map_fst_upsert]
  by_cases h : k ∈ d.map Prod.fst
  · rwa [if_pos h]
  · rw [if_neg h, ← List.concat_eq_append]
    exact hd.concat h

theorem upsert_ne_nil (k : κ) (f : Option ν → ν) (d : List (κ × ν)) :
  upsert k f d ≠ []
  := by
  cases d with
  | nil => simp [upsert]
  | cons p d =>
      rw [upsert]
      split <;> simp

/-- Updating a key the dictionary lacks appends it. -/
theorem upsert_of_not_mem {k : κ} (f : Option ν → ν) {d : List (κ × ν)}
    (h : k ∉ d.map Prod.fst) :
  upsert k f d = d ++ [(k, f none)]
  := by
  induction d with
  | nil => rfl
  | cons p d ih =>
      obtain ⟨k', v⟩ := p
      simp only [List.map_cons, List.mem_cons, not_or] at h
      have hne : ¬ k' = k := fun e => h.1 e.symm
      simp [upsert, hne, ih h.2]

theorem lookup_cons_eq_ite (k k' : κ) (v : ν) (d : List (κ × ν)) :
  ((k', v) :: d).lookup k = if k = k' then some v else d.lookup k
  := by
  by_cases h : k = k'
  · simp [h]
  · simp [List.lookup_cons, h, beq_eq_false_iff_ne.mpr h]

/-- The value under a key of an updated dictionary. -/
theorem lookup_upsert (k k' : κ) (f : Option ν → ν) (d : List (κ × ν)) :
  (upsert k f d).lookup k' = if k' = k then some (f (d.lookup k)) else d.lookup k'
  := by
  induction d with
  | nil => simp [upsert, lookup_cons_eq_ite]
  | cons p d ih =>
      obtain ⟨j, v⟩ := p
      by_cases hj : j = k
      · subst hj
        simp only [upsert, if_true, lookup_cons_eq_ite]
        split <;> rfl
      · have hk : ¬ k = j := fun e => hj e.symm
        simp only [upsert, hj, if_false, lookup_cons_eq_ite, ih, hk]
        by_cases h : k' = j
        · simp [h, hj]
        · simp [h]

/-- Storing the value that is there changes nothing. -/
theorem upsert_of_lookup_eq {k : κ} {v : ν} {d : List (κ × ν)} (h : d.lookup k = some v) :
  upsert k (fun _ => v) d = d
  := by
  induction d with
  | nil => cases h
  | cons p d ih =>
      obtain ⟨j, w⟩ := p
      rw [lookup_cons_eq_ite] at h
      rw [upsert]
      by_cases hj : j = k
      · rw [if_pos hj.symm] at h
        rw [if_pos hj, Option.some.inj h]
      · rw [if_neg (Ne.symm hj)] at h
        rw [if_neg hj, ih h]

/-- Updating commutes with a map that renames keys injectively. -/
theorem upsert_map {κ' ν' : Type*} [DecidableEq κ'] {rename : κ → κ'} {value : ν → ν'}
    (hrename : Function.Injective rename) (k : κ) {f : Option ν → ν} {f' : Option ν' → ν'}
    (hf : ∀ found, f' (found.map value) = value (f found)) (d : List (κ × ν)) :
  upsert (rename k) f' (d.map (Prod.map rename value)) = (upsert k f d).map (Prod.map rename value)
  := by
  induction d with
  | nil =>
      rw [upsert, List.map_singleton, Prod.map_apply, ← hf none]
      rfl
  | cons p d ih =>
      obtain ⟨j, v⟩ := p
      rw [List.map_cons, Prod.map_apply, upsert, upsert, ih]
      by_cases h : j = k
      · rw [if_pos h, if_pos (congrArg rename h), List.map_cons, Prod.map_apply, ← hf (some v)]
        rfl
      · rw [if_neg h, if_neg (hrename.ne h)]
        rfl

/-- What an update leaves of some of the keys. -/
theorem filter_upsert (p : κ → Bool) (k : κ) (f : Option ν → ν) (d : List (κ × ν)) :
  (upsert k f d).filter (fun e => p e.1)
    = if p k then upsert k f (d.filter fun e => p e.1) else d.filter fun e => p e.1
  := by
  induction d with
  | nil => cases hk : p k <;> simp [upsert, hk]
  | cons e d ih =>
      obtain ⟨j, v⟩ := e
      rw [upsert]
      by_cases hj : j = k
      · subst hj
        cases hk : p j <;> simp [upsert, hk]
      · rw [if_neg hj]
        cases hk : p k <;> cases hp : p j <;> simp_all [upsert]

/-- The value accumulated from entries taken in order. -/
def accumulate (f : α → Option ν → ν) (xs : List α) : Option ν :=
  xs.foldl (fun o x => some (f x o)) none

@[simp]
theorem accumulate_nil (f : α → Option ν → ν) :
  accumulate f [] = none
  := rfl

theorem accumulate_concat (f : α → Option ν → ν) (xs : List α) (x : α) :
  accumulate f (xs ++ [x]) = some (f x (accumulate f xs))
  := by
  simp [accumulate, List.foldl_append]

theorem accumulate_eq_none {f : α → Option ν → ν} {xs : List α} :
  accumulate f xs = none ↔ xs = []
  := by
  induction xs using List.reverseRecOn with
  | nil => simp
  | append_singleton xs x _ => simp [accumulate_concat]

/-- When each entry replaces the value, the last counts. -/
theorem accumulate_replace (g : α → ν) (xs : List α) :
  accumulate (fun x _ => g x) xs = xs.getLast?.map g
  := by
  induction xs using List.reverseRecOn with
  | nil => rfl
  | append_singleton xs x _ => rw [accumulate_concat, List.getLast?_concat, Option.map_some]

/-- Accumulating from a default value is a fold from that value. -/
theorem accumulate_getD (d : ν) (g : ν → α → ν) {xs : List α} (h : xs ≠ []) :
  accumulate (fun x o => g (o.getD d) x) xs = some (xs.foldl g d)
  := by
  induction xs using List.reverseRecOn with
  | nil => exact absurd rfl h
  | append_singleton xs x ih =>
      rw [accumulate_concat, List.foldl_append]
      by_cases hx : xs = []
      · simp [hx]
      · simp [ih hx]

/-- The dictionary built by updating it once for each entry of a list. -/
def collect (key : α → κ) (f : α → Option ν → ν) (xs : List α) : List (κ × ν) :=
  xs.foldl (fun d x => upsert (key x) (f x) d) []

theorem collect_concat (key : α → κ) (f : α → Option ν → ν) (xs : List α) (x : α) :
  collect key f (xs ++ [x]) = upsert (key x) (f x) (collect key f xs)
  := by
  simp [collect, List.foldl_append]

theorem collect_append (key : α → κ) (f : α → Option ν → ν) (xs ys : List α) :
  collect key f (xs ++ ys) = ys.foldl (fun d y => upsert (key y) (f y) d) (collect key f xs)
  := by
  rw [collect, List.foldl_append]
  rfl

/-- The keys of `collect key f xs` are the keys of `xs`, in the order first seen. -/
theorem map_fst_collect (key : α → κ) (f : α → Option ν → ν) (xs : List α) :
  (collect key f xs).map Prod.fst = (xs.map key).eraseDups
  := by
  induction xs using List.reverseRecOn with
  | nil => simp [collect]
  | append_singleton xs x ih =>
      rw [collect_concat, map_fst_upsert, ih, List.map_append, List.map_cons, List.map_nil,
        eraseDups_concat]
      simp only [List.mem_eraseDups]

/-- Some of the keys of a dictionary are collected from the entries of these keys. -/
theorem filter_collect (p : κ → Bool) (key : α → κ) (f : α → Option ν → ν) (xs : List α) :
  (collect key f xs).filter (fun e => p e.1) = collect key f (xs.filter fun x => p (key x))
  := by
  induction xs using List.reverseRecOn with
  | nil => rfl
  | append_singleton xs x ih =>
      rw [collect_concat, filter_upsert, ih, List.filter_append, List.filter_singleton]
      cases p (key x) with
      | true => rw [if_pos rfl, cond_true, collect_concat]
      | false => rw [if_neg Bool.false_ne_true, cond_false, List.append_nil]

/-- Entries of distinct keys are collected as they are. -/
theorem collect_of_nodup {key : α → κ} {f : α → Option ν → ν} {xs : List α}
    (h : (xs.map key).Nodup) :
  collect key f xs = xs.map fun x => (key x, f x none)
  := by
  induction xs using List.reverseRecOn with
  | nil => rfl
  | append_singleton xs x ih =>
      rw [List.map_append, List.map_singleton, List.nodup_append] at h
      obtain ⟨hxs, -, hne⟩ := h
      rw [collect_concat, upsert_of_not_mem, ih hxs, List.map_append, List.map_singleton]
      rw [map_fst_collect, List.mem_eraseDups]
      intro hmem
      exact hne _ hmem _ (List.mem_singleton_self _) rfl

/-- The value under `k` is accumulated from the entries with key `k`. -/
theorem lookup_collect (key : α → κ) (f : α → Option ν → ν) (xs : List α) (k : κ) :
  (collect key f xs).lookup k = accumulate f (xs.filter (key · = k))
  := by
  induction xs using List.reverseRecOn with
  | nil => simp [collect]
  | append_singleton xs x ih =>
      rw [collect_concat, lookup_upsert, List.filter_append]
      by_cases h : key x = k
      · subst h
        simp [accumulate_concat, ih]
      · have h' : ¬ k = key x := fun e => h e.symm
        simp [h, h', ih]

theorem lookup_eq_of_mem {d : List (κ × ν)} (hd : (d.map Prod.fst).Nodup) {k : κ} {v : ν}
    (h : (k, v) ∈ d) :
  d.lookup k = some v
  := by
  induction d with
  | nil => simp at h
  | cons p d ih =>
      obtain ⟨k', v'⟩ := p
      simp only [List.map_cons, List.nodup_cons] at hd
      rcases List.mem_cons.mp h with he | hm
      · obtain ⟨rfl, rfl⟩ := Prod.mk.inj he
        simp
      · have hne : ¬ k = k' := by
          rintro rfl
          apply hd.1
          exact List.mem_map.mpr ⟨(k, v), hm, rfl⟩
        simp [lookup_cons_eq_ite, hne, ih hd.2 hm]

theorem mem_of_lookup_eq {d : List (κ × ν)} {k : κ} {v : ν} (h : d.lookup k = some v) :
  (k, v) ∈ d
  := by
  obtain ⟨l, l', hd, _⟩ := List.lookup_eq_some_iff.mp h
  simp [hd]

theorem lookup_eq_none {d : List (κ × ν)} {k : κ} :
  d.lookup k = none ↔ k ∉ d.map Prod.fst
  := by
  rw [List.lookup_eq_none_iff]
  simp only [List.mem_map, not_exists, not_and, bne_iff_ne]
  exact ⟨fun h p hp e => h p hp e.symm, fun h p hp e => h p hp e.symm⟩

/-- The value of a key that is kept. -/
theorem lookup_filter (p : κ → Bool) {k : κ} (hk : p k = true) (d : List (κ × ν)) :
  (d.filter fun entry => p entry.1).lookup k = d.lookup k
  := by
  induction d with
  | nil => rfl
  | cons entry d ih =>
      obtain ⟨k', v⟩ := entry
      rw [lookup_cons_eq_ite]
      by_cases hp : p k' = true
      · rw [List.filter_cons_of_pos (by simpa using hp), lookup_cons_eq_ite, ih]
      · have hne : k ≠ k' := by
          rintro rfl
          exact hp hk
        rw [List.filter_cons_of_neg (by simpa using hp), if_neg hne, ih]

/-- The value of one of the keys that are kept. -/
theorem lookup_filter_mem {keys : List κ} {k : κ} (hk : k ∈ keys) (d : List (κ × ν)) :
  (d.filter fun entry => decide (entry.1 ∈ keys)).lookup k = d.lookup k
  := lookup_filter (fun k => decide (k ∈ keys)) (decide_eq_true hk) d

omit [DecidableEq κ] in
/-- Where each result has the key it comes from, the keys of the results are some of these. -/
theorem map_filterMap_sublist {f : κ → Option α} {key : α → κ}
    (h : ∀ k a, f k = some a → key a = k) (l : List κ) :
  ((l.filterMap f).map key).Sublist l
  := by
  induction l with
  | nil => exact List.Sublist.refl _
  | cons k l ih =>
      rw [List.filterMap_cons]
      cases hk : f k with
      | none => exact ih.cons k
      | some a =>
          rw [List.map_cons, h k a hk]
          exact ih.cons_cons k

/-- The order of the entries of distinct keys does not matter. -/
theorem lookup_perm {d d' : List (κ × ν)} (hd : (d.map Prod.fst).Nodup) (hp : d.Perm d') (k : κ) :
  d.lookup k = d'.lookup k
  := by
  have hd' : (d'.map Prod.fst).Nodup := (hp.map Prod.fst).nodup_iff.mp hd
  cases hlookup : d'.lookup k with
  | none =>
      rw [lookup_eq_none] at hlookup ⊢
      rwa [(hp.map Prod.fst).mem_iff]
  | some v => exact lookup_eq_of_mem hd (hp.mem_iff.mpr (mem_of_lookup_eq hlookup))

/-- What holds of the value under each key, and is kept by an update, holds of the updated
dictionary. -/
theorem forall_mem_upsert {P : κ → ν → Prop} {k : κ} {f : Option ν → ν} {d : List (κ × ν)}
    (hd : (d.map Prod.fst).Nodup) (h : ∀ p ∈ d, P p.1 p.2)
    (hf : (∀ v, d.lookup k = some v → P k v) → P k (f (d.lookup k))) :
  ∀ p ∈ upsert k f d, P p.1 p.2
  := by
  have hlookup : ∀ k v, d.lookup k = some v → P k v :=
    fun k v hv => h (k, v) (mem_of_lookup_eq hv)
  rintro ⟨k', v⟩ hp
  have hv := lookup_eq_of_mem (nodup_map_fst_upsert k f hd) hp
  rw [lookup_upsert] at hv
  split at hv
  next heq =>
    cases heq
    cases hv
    exact hf (hlookup k)
  next => exact hlookup k' v hv

/-- A dictionary is determined by its keys and its lookups. -/
theorem map_eq_of_lookup {d : List (κ × ν)} (hd : (d.map Prod.fst).Nodup) (g : κ → Option ν)
    (h : ∀ k ∈ d.map Prod.fst, d.lookup k = g k) :
  d.map (fun p => (p.1, some p.2)) = (d.map Prod.fst).map (fun k => (k, g k))
  := by
  rw [List.map_map]
  apply List.map_congr_left
  rintro ⟨k, v⟩ hp
  have hk := h k (List.mem_map_of_mem hp)
  rw [lookup_eq_of_mem hd hp] at hk
  simp [← hk]

/-- Dictionaries of the same keys in the same order that hold the same values are equal. -/
theorem eq_of_lookup {d d' : List (κ × ν)} (hkeys : d.map Prod.fst = d'.map Prod.fst)
    (hd : (d.map Prod.fst).Nodup) (h : ∀ k ∈ d.map Prod.fst, d.lookup k = d'.lookup k) :
  d = d'
  := by
  have hd' : (d'.map Prod.fst).Nodup := hkeys ▸ hd
  have hmap : d.map (fun p => (p.1, some p.2)) = d'.map fun p => (p.1, some p.2) := by
    rw [map_eq_of_lookup hd (fun k => d'.lookup k) h,
      map_eq_of_lookup hd' (fun k => d'.lookup k) (fun _ _ => rfl), hkeys]
  apply List.map_injective_iff.mpr _ hmap
  intro p p' hp
  obtain ⟨hfst, hsnd⟩ := Prod.mk.inj hp
  exact Prod.ext hfst (Option.some.inj hsnd)

/-- An entry of a dictionary of accumulated entries is accumulated from the entries of its
key. -/
theorem accumulate_of_mem_collect {key : α → κ} {f : α → Option ν → ν} {xs : List α}
    {p : κ × ν} (h : p ∈ collect key f xs) :
  accumulate f (xs.filter (key · = p.1)) = some p.2
  := by
  rw [← lookup_collect]
  apply lookup_eq_of_mem _ h
  rw [map_fst_collect]
  apply nodup_eraseDups

/-- What every update keeps holds of the entries of a dictionary of accumulated entries. -/
theorem of_mem_collect (P : κ → ν → Prop) {key : α → κ} {f : α → Option ν → ν} {xs : List α}
    (hstep : ∀ x ∈ xs, ∀ o : Option ν, (∀ v ∈ o, P (key x) v) → P (key x) (f x o))
    {p : κ × ν} (h : p ∈ collect key f xs) :
  P p.1 p.2
  := by
  have hacc : ∀ ys : List α, (∀ x ∈ ys, x ∈ xs ∧ key x = p.1) → ∀ v ∈ accumulate f ys, P p.1 v := by
    intro ys
    induction ys using List.reverseRecOn with
    | nil => simp
    | append_singleton ys y ih =>
        intro hys v hv
        obtain ⟨hy, hkey⟩ := hys y (by simp)
        rw [accumulate_concat, Option.mem_some_iff] at hv
        rw [← hv, ← hkey]
        apply hstep y hy
        rw [hkey]
        apply ih
        intro x hx
        exact hys x (List.mem_append_left _ hx)
  apply hacc _ _ _ (accumulate_of_mem_collect h)
  intro x hx
  simpa using List.mem_filter.mp hx

/-! ### Groups -/

/-- The keys of `xs` in the order first seen, each with the entries that carry it. -/
def groups (key : α → κ) (xs : List α) : List (κ × List α) :=
  (xs.map key).eraseDups.map (fun k => (k, xs.filter (key · = k)))

theorem map_fst_groups (key : α → κ) (xs : List α) :
  (groups key xs).map Prod.fst = (xs.map key).eraseDups
  := by
  simp [groups, Function.comp_def]

theorem mem_groups {key : α → κ} {xs : List α} {g : κ × List α} :
  g ∈ groups key xs ↔ g.1 ∈ xs.map key ∧ g.2 = xs.filter (key · = g.1)
  := by
  obtain ⟨k, l⟩ := g
  simp only [groups, List.mem_map, List.mem_eraseDups, Prod.mk.injEq]
  constructor
  · rintro ⟨k, hk, rfl, rfl⟩
    exact ⟨hk, rfl⟩
  · rintro ⟨hk, hl⟩
    exact ⟨k, hk, rfl, hl.symm⟩

theorem ne_nil_of_mem_groups {key : α → κ} {xs : List α} {g : κ × List α}
    (h : g ∈ groups key xs) :
  g.2 ≠ []
  := by
  obtain ⟨hk, hl⟩ := mem_groups.mp h
  obtain ⟨x, hx, hxk⟩ := List.mem_map.mp hk
  rw [hl]
  apply List.ne_nil_of_mem (a := x)
  simp [hx, hxk]

theorem lookup_groups {key : α → κ} {xs : List α} {k : κ} (h : k ∈ xs.map key) :
  (groups key xs).lookup k = some (xs.filter (key · = k))
  := by
  apply lookup_eq_of_mem
  · rw [map_fst_groups]
    apply nodup_eraseDups
  · exact mem_groups.mpr ⟨h, rfl⟩

/-- `collect` accumulates the entries of each group. -/
theorem collect_eq_groups (key : α → κ) (f : α → Option ν → ν) (xs : List α) :
  (collect key f xs).map (fun p => (p.1, some p.2))
    = (groups key xs).map (fun g => (g.1, accumulate f g.2))
  := by
  have hnodup : ((collect key f xs).map Prod.fst).Nodup := by
    rw [map_fst_collect]
    apply nodup_eraseDups
  rw [map_eq_of_lookup hnodup _ (fun k _ => lookup_collect key f xs k), map_fst_collect]
  simp [groups]

/-- `collect` from a default value folds each group from that value. -/
theorem collect_getD_eq_groups (key : α → κ) (d : ν) (g : ν → α → ν) (xs : List α) :
  collect key (fun x o => g (o.getD d) x) xs
    = (groups key xs).map (fun p => (p.1, p.2.foldl g d))
  := by
  have h := collect_eq_groups key (fun x o => g (o.getD d) x) xs
  have h' : (groups key xs).map
        (fun p => (p.1, accumulate (fun x o => g (o.getD d) x) p.2))
      = ((groups key xs).map (fun p => (p.1, p.2.foldl g d))).map
        (fun p => (p.1, some p.2)) := by
    rw [List.map_map]
    apply List.map_congr_left
    intro p hp
    simp [accumulate_getD d g (ne_nil_of_mem_groups hp)]
  rw [h'] at h
  apply List.map_injective_iff.mpr _ h
  rintro ⟨k, v⟩ ⟨k', v'⟩ e
  simpa using e

/-- The entries of a dictionary of folds from a default value. -/
theorem mem_collect_getD (key : α → κ) (d : ν) (g : ν → α → ν) (xs : List α) (k : κ) (v : ν) :
  (k, v) ∈ collect key (fun x o => g (o.getD d) x) xs
    ↔ k ∈ xs.map key ∧ v = (xs.filter (key · = k)).foldl g d
  := by
  rw [collect_getD_eq_groups, List.mem_map]
  constructor
  · rintro ⟨group, hgroup, heq⟩
    obtain ⟨hkey, hentries⟩ := mem_groups.mp hgroup
    obtain ⟨rfl, rfl⟩ := Prod.mk.inj heq
    exact ⟨hkey, by rw [hentries]⟩
  · rintro ⟨hkey, rfl⟩
    use (k, xs.filter (key · = k)), mem_groups.mpr ⟨hkey, rfl⟩

/-- Counting the entries of each key gives the lengths of the groups. -/
theorem collect_count_eq_groups (key : α → κ) (xs : List α) :
  collect key (fun _ (count : Option ℕ) => count.getD 0 + 1) xs
    = (groups key xs).map fun g => (g.1, g.2.length)
  := by
  rw [collect_getD_eq_groups key 0 (fun count _ => count + 1)]
  simp only [List.foldl_add_const, Nat.zero_add, Nat.one_mul]

/-- Appending what each entry gives to the list under its key collects the groups. -/
theorem collect_append_map_eq_groups (key : α → κ) (f : α → β) (xs : List α) :
  collect key (fun x (l : Option (List β)) => l.getD [] ++ [f x]) xs
    = (groups key xs).map fun g => (g.1, g.2.map f)
  := by
  have happend : ∀ (l : List α) (acc : List β),
      l.foldl (fun l x => l ++ [f x]) acc = acc ++ l.map f := by
    intro l
    induction l with
    | nil => simp
    | cons x l ih => simp [ih]
  rw [collect_getD_eq_groups key [] (fun l x => l ++ [f x])]
  simp only [happend, List.nil_append]

/-- Appending each entry to the list under its key collects the groups. -/
theorem collect_append_eq_groups (key : α → κ) (xs : List α) :
  collect key (fun x (l : Option (List α)) => l.getD [] ++ [x]) xs = groups key xs
  := by
  rw [collect_append_map_eq_groups key fun x => x]
  simp only [List.map_id']

/-- A fold from a default value, looked up. -/
theorem lookup_collect_getD (key : α → κ) (d : ν) (g : ν → α → ν) (xs : List α) (k : κ) :
  ((collect key (fun x o => g (o.getD d) x) xs).lookup k).getD d
    = (xs.filter (key · = k)).foldl g d
  := by
  rw [lookup_collect]
  by_cases h : xs.filter (key · = k) = []
  · simp [h]
  · simp [accumulate_getD d g h]

/-- The number of the entries of a key, looked up. -/
theorem lookup_collect_count (key : α → κ) (xs : List α) (k : κ) :
  ((collect key (fun _ (count : Option ℕ) => count.getD 0 + 1) xs).lookup k).getD 0
    = (xs.filter (key · = k)).length
  := by
  rw [lookup_collect_getD key 0 (fun count _ => count + 1), List.foldl_add_const, Nat.zero_add,
    Nat.one_mul]

/-- A function of the groups that does not depend on the order within a group takes
permuted lists to permuted results. -/
theorem groups_map_perm {key : α → κ} {xs ys : List α} (h : xs.Perm ys)
    (f : κ × List α → β) (hf : ∀ k l l', l.Perm l' → f (k, l) = f (k, l')) :
  ((groups key xs).map f).Perm ((groups key ys).map f)
  := by
  simp only [groups, List.map_map]
  apply List.Perm.trans ((eraseDups_perm (h.map key)).map _)
  apply List.Perm.of_eq
  apply List.map_congr_left
  intro k _
  apply hf
  apply h.filter

omit [DecidableEq κ] in
/-- An update that commutes with itself accumulates the same value in any order. -/
theorem accumulate_eq_of_perm {f : α → Option ν → ν}
    (hf : ∀ x y o, f y (some (f x o)) = f x (some (f y o))) {xs ys : List α} (h : xs.Perm ys) :
  accumulate f xs = accumulate f ys
  := by
  apply h.foldl_eq'
  intro x _ y _ o
  exact congrArg some (hf x y o)

/-- An update that commutes with itself builds the same dictionary in any order, up to the order of
the keys. -/
theorem collect_perm {key : α → κ} {f : α → Option ν → ν}
    (hf : ∀ x y o, f y (some (f x o)) = f x (some (f y o))) {xs ys : List α} (h : xs.Perm ys) :
  (collect key f xs).Perm (collect key f ys)
  := by
  have hsome : Function.Injective fun p : κ × ν => (p.1, some p.2) := by
    rintro ⟨k, v⟩ ⟨k', v'⟩ hp
    simpa using hp
  apply (List.map_perm_map_iff hsome).mp
  rw [collect_eq_groups, collect_eq_groups]
  apply groups_map_perm h
  intro k l l' hl
  rw [accumulate_eq_of_perm hf hl]

/-! ### Shards -/

omit [DecidableEq κ] in
/-- The parts of a list of distinct elements cut by a function with values below `n` make
up the list. -/
theorem flatMap_filter_perm {l : List β} (hl : l.Nodup) (shard : β → ℕ) {n : ℕ}
    (h : ∀ k ∈ l, shard k < n) :
  ((List.range n).flatMap (fun s => l.filter (shard · = s))).Perm l
  := by
  apply (List.perm_ext_iff_of_nodup _ hl).mpr
  · intro k
    simp only [List.mem_flatMap, List.mem_range, List.mem_filter, decide_eq_true_eq]
    constructor
    · rintro ⟨_, _, hk, _⟩
      exact hk
    · intro hk
      exact ⟨shard k, h k hk, hk, rfl⟩
  · apply List.nodup_flatMap.mpr
    constructor
    · intro s _
      apply hl.filter
    · apply List.Pairwise.imp _ List.nodup_range
      intro s t hst k hs ht
      simp only [List.mem_filter, decide_eq_true_eq] at hs ht
      apply hst
      rw [← hs.2, ← ht.2]

/-- No group is lost, split or duplicated when a list is cut into `n` shards by a function
of the key. -/
theorem groups_shards_perm (key : α → κ) (shard : κ → ℕ) {n : ℕ} (xs : List α)
    (h : ∀ x ∈ xs, shard (key x) < n) :
  ((List.range n).flatMap (fun s => groups key (xs.filter (fun x => shard (key x) = s)))).Perm
    (groups key xs)
  := by
  have hkeys : ∀ s, groups key (xs.filter (fun x => shard (key x) = s))
      = ((xs.map key).eraseDups.filter (shard · = s)).map
          (fun k => (k, xs.filter (key · = k))) := by
    intro s
    have hmap : (xs.filter (fun x => shard (key x) = s)).map key
        = (xs.map key).filter (shard · = s) := by
      rw [List.filter_map]
      rfl
    rw [groups, hmap, eraseDups_filter]
    apply List.map_congr_left
    intro k hk
    have hks : shard k = s := by simpa using (List.mem_filter.mp hk).2
    congr 1
    rw [List.filter_filter]
    apply List.filter_congr
    intro x _
    by_cases hx : key x = k
    · simp [hx, hks]
    · simp [hx]
  simp only [hkeys]
  rw [← List.map_flatMap]
  apply List.Perm.map
  apply flatMap_filter_perm (nodup_eraseDups _)
  intro k hk
  obtain ⟨x, hx, rfl⟩ := List.mem_map.mp (List.mem_eraseDups.mp hk)
  apply h x hx

/-! ### Contiguous keys -/

/-- Equal keys are contiguous: an entry between two entries of one key has that key. -/
def Contiguous (key : α → κ) (xs : List α) : Prop :=
  ∀ a b c, [a, b, c].Sublist xs → key a = key c → key b = key a

omit [DecidableEq κ] in
theorem Contiguous.sublist {key : α → κ} {xs ys : List α} (h : Contiguous key xs)
    (hs : ys.Sublist xs) :
  Contiguous key ys
  := fun a b c habc => h a b c (habc.trans hs)

omit [DecidableEq κ] in
/-- Keys in order are contiguous. -/
theorem contiguous_of_pairwise_le [PartialOrder κ] {key : α → κ} {xs : List α}
    (h : xs.Pairwise (fun x y => key x ≤ key y)) :
  Contiguous key xs
  := by
  intro a b c habc hac
  have hpairs := h.sublist habc
  simp only [List.pairwise_cons, List.mem_cons, List.not_mem_nil, or_false] at hpairs
  have hab := hpairs.1 b (Or.inl rfl)
  have hbc := hpairs.2.1 c rfl
  exact le_antisymm (hbc.trans hac.ge) hab

omit [DecidableEq κ] in
/-- Dropping entries and rewriting the others without changing their keys keeps keys contiguous. -/
theorem Contiguous.filterMap {key : α → κ} {key' : β → κ} {f : α → Option β}
    (hf : ∀ a b, f a = some b → key' b = key a) {xs : List α} (h : Contiguous key xs) :
  Contiguous key' (xs.filterMap f)
  := by
  intro a b c habc hac
  obtain ⟨l, hl, hlabc⟩ := List.sublist_filterMap_iff.mp habc
  obtain ⟨l₁, a', l, rfl, -, ha, hlbc⟩ := List.filterMap_eq_cons_iff.mp hlabc.symm
  obtain ⟨l₂, b', l, rfl, -, hb, hlc⟩ := List.filterMap_eq_cons_iff.mp hlbc
  obtain ⟨l₃, c', l, rfl, -, hc, -⟩ := List.filterMap_eq_cons_iff.mp hlc
  rw [hf a' a ha, hf b' b hb]
  rw [hf a' a ha, hf c' c hc] at hac
  apply h a' b' c' _ hac
  apply List.Sublist.trans _ hl
  simp

/-- The maximal runs of consecutive entries with equal keys. -/
def runs (key : α → κ) : List α → List (κ × List α)
  | [] => []
  | x :: xs =>
    match runs key xs with
    | [] => [(key x, [x])]
    | (k, l) :: gs => if k = key x then (k, x :: l) :: gs else (key x, [x]) :: (k, l) :: gs

theorem groups_cons (key : α → κ) (x : α) (xs : List α) :
  groups key (x :: xs)
    = (key x, x :: xs.filter (key · = key x)) :: groups key (xs.filter (key · ≠ key x))
  := by
  have hkeys : (xs.filter (key · ≠ key x)).map key = (xs.map key).filter (fun k => !k == key x) := by
    rw [List.filter_map]
    congr 1
    apply List.filter_congr
    intro y _
    simp [Bool.beq_eq_decide_eq]
  rw [groups, List.map_cons, List.eraseDups_cons, ← hkeys, List.map_cons]
  congr 1
  · simp
  · rw [groups]
    apply List.map_congr_left
    intro k hk
    have hkx : key x ≠ k := by
      rintro rfl
      rw [List.mem_eraseDups] at hk
      obtain ⟨y, hy, hyx⟩ := List.mem_map.mp hk
      simp [hyx] at hy
    congr 1
    rw [List.filter_filter, List.filter_cons_of_neg (by simpa using hkx)]
    apply List.filter_congr
    intro y _
    by_cases hy : key y = k
    · simp [hy, hkx.symm]
    · simp [hy]

/-- The groups hold the entries. -/
theorem flatMap_groups_perm (key : α → κ) (xs : List α) :
  ((groups key xs).flatMap Prod.snd).Perm xs
  := by
  induction hn : xs.length using Nat.strongRecOn generalizing xs with
  | ind n ih =>
      cases xs with
      | nil => exact List.Perm.refl _
      | cons x xs =>
          have hlength : (xs.filter (key · ≠ key x)).length < n := by
            rw [← hn, List.length_cons]
            exact Nat.lt_succ_of_le (List.length_filter_le _ _)
          have hneg : xs.filter (key · ≠ key x) = xs.filter (fun y => !decide (key y = key x)) := by
            simp
          rw [groups_cons, List.flatMap_cons, List.cons_append]
          apply List.Perm.cons
          apply ((ih _ hlength _ rfl).append_left _).trans
          rw [hneg]
          exact List.filter_append_perm _ xs

/-- On contiguous keys the groups are the maximal runs. -/
theorem runs_eq_groups {key : α → κ} {xs : List α} (h : Contiguous key xs) :
  runs key xs = groups key xs
  := by
  induction xs with
  | nil => rfl
  | cons x xs ih =>
      rw [runs, ih (h.sublist (List.sublist_cons_self x xs)), groups_cons]
      cases xs with
      | nil => rfl
      | cons y ys =>
          rw [groups_cons]
          by_cases hy : key y = key x
          · have hne : ¬ ¬ key y = key x := fun e => e hy
            simp [hy]
          · have hx : ∀ z ∈ ys, ¬ key z = key x := by
              intro z hz hzx
              apply hy
              apply h x y z _ hzx.symm
              apply List.Sublist.cons_cons
              apply List.Sublist.cons_cons
              apply List.singleton_sublist.mpr hz
            have hnil : ys.filter (key · = key x) = [] := by
              simpa using hx
            have hall : ys.filter (key · ≠ key x) = ys := by
              simpa using hx
            simp only [if_neg hy]
            rw [List.filter_cons_of_neg (by simpa using hy), hnil,
              List.filter_cons_of_pos (by simpa using hy), hall, groups_cons]

theorem map_head?_runs (key : α → κ) (xs : List α) :
  (runs key xs).head?.map Prod.fst = xs.head?.map key
  := by
  cases xs with
  | nil => rfl
  | cons x xs =>
      rw [runs]
      split
      · rfl
      · split
        · rename_i h
          simp [h]
        · rfl

/-- Entries of one key before an entry of another key are a run. -/
theorem runs_append {key : α → κ} {k : κ} {xs : List α} (hne : xs ≠ [])
    (hxs : ∀ x ∈ xs, key x = k) {ys : List α} (hys : ∀ y ∈ ys.head?, key y ≠ k) :
  runs key (xs ++ ys) = (k, xs) :: runs key ys
  := by
  induction xs with
  | nil => exact absurd rfl hne
  | cons x xs ih =>
      have hx : key x = k := hxs x List.mem_cons_self
      rw [List.cons_append, runs]
      by_cases hnil : xs = []
      · subst hnil
        have hhead := map_head?_runs key ys
        rw [List.nil_append, hx]
        cases hruns : runs key ys with
        | nil => rfl
        | cons g gs =>
            obtain ⟨y, hy, hyg⟩ : ∃ y, ys.head? = some y ∧ key y = g.1 := by
              rw [hruns] at hhead
              simpa using hhead.symm
            have hg : g.1 ≠ k := hyg ▸ hys y hy
            simp only [if_neg hg]
      · rw [ih hnil (fun y hy => hxs y (List.mem_cons_of_mem x hy))]
        simp [hx]

/-- The entries from the first of another key on. -/
theorem key_ne_of_mem_head?_dropWhile {key : α → κ} {k : κ} {xs : List α} :
  ∀ y ∈ (xs.dropWhile (key · = k)).head?, key y ≠ k
  := by
  intro y hy
  have hdrop := List.head?_dropWhile_not (fun y => decide (key y = k)) xs
  rw [Option.mem_def.mp hy] at hdrop
  simpa using hdrop

theorem key_eq_of_mem_cons_takeWhile {key : α → κ} {x : α} {xs : List α} :
  ∀ y ∈ x :: xs.takeWhile (key · = key x), key y = key x
  := by
  intro y hy
  rcases List.mem_cons.mp hy with rfl | hy
  · rfl
  · simpa using List.mem_takeWhile_imp hy

/-- The first run, and the runs of the entries after it. -/
theorem runs_cons (key : α → κ) (x : α) (xs : List α) :
  runs key (x :: xs)
    = (key x, x :: xs.takeWhile (key · = key x)) :: runs key (xs.dropWhile (key · = key x))
  := by
  nth_rewrite 1 [← List.takeWhile_append_dropWhile (p := fun y => decide (key y = key x)) (l := xs)]
  rw [← List.cons_append]
  apply runs_append (List.cons_ne_nil _ _)
  · exact key_eq_of_mem_cons_takeWhile
  · exact key_ne_of_mem_head?_dropWhile

/-- A run: entries of one key, between entries of other keys. -/
structure IsRun (key : α → κ) (xs : List α) (g : κ × List α) : Prop where
  ne_nil : g.2 ≠ []
  key_eq : ∀ x ∈ g.2, key x = g.1
  maximal : ∃ before after, xs = before ++ g.2 ++ after ∧ (∀ x ∈ before.getLast?, key x ≠ g.1)
    ∧ ∀ x ∈ after.head?, key x ≠ g.1

/-- The runs are runs. -/
theorem isRun_of_mem_runs {key : α → κ} {xs : List α} {g : κ × List α} (h : g ∈ runs key xs) :
  IsRun key xs g
  := by
  induction hn : xs.length using Nat.strongRecOn generalizing xs with
  | ind n ih =>
      cases xs with
      | nil => cases h
      | cons x xs =>
          have htail : ∀ y ∈ (xs.dropWhile (key · = key x)).head?, key y ≠ key x :=
            key_ne_of_mem_head?_dropWhile
          have hrun : ∀ y ∈ x :: xs.takeWhile (key · = key x), key y = key x :=
            key_eq_of_mem_cons_takeWhile
          have hsplit : x :: xs
              = x :: xs.takeWhile (key · = key x) ++ xs.dropWhile (key · = key x) := by
            rw [List.cons_append, List.takeWhile_append_dropWhile]
          rw [runs_cons] at h
          rcases List.mem_cons.mp h with rfl | h
          · exact ⟨List.cons_ne_nil _ _, hrun, [], _, hsplit, by simp, htail⟩
          · have hlength := (List.dropWhile_suffix (fun y => decide (key y = key x)) (l := xs)).length_le
            obtain ⟨hne, hkey, before, after, hxs, hbefore, hafter⟩ :=
              ih _ (by rw [← hn, List.length_cons]; omega) h rfl
            refine ⟨hne, hkey, x :: xs.takeWhile (key · = key x) ++ before, after, ?_, ?_, hafter⟩
            · rw [hsplit, hxs]
              simp only [List.append_assoc]
            · intro y hy
              cases before with
              | nil =>
                  rw [List.append_nil] at hy
                  rw [hrun y (List.mem_of_mem_getLast? hy)]
                  rw [List.nil_append] at hxs
                  obtain ⟨w, l, hw⟩ := List.exists_cons_of_ne_nil hne
                  have hhead := htail w (by rw [hxs, hw]; rfl)
                  rw [hkey w (by rw [hw]; exact List.mem_cons_self)] at hhead
                  exact hhead.symm
              | cons z zs =>
                  apply hbefore y
                  rwa [List.getLast?_append_of_ne_nil _ (List.cons_ne_nil z zs)] at hy

/-- The runs hold the entries in order. -/
theorem flatMap_runs (key : α → κ) (xs : List α) :
  (runs key xs).flatMap Prod.snd = xs
  := by
  induction hn : xs.length using Nat.strongRecOn generalizing xs with
  | ind n ih =>
      cases xs with
      | nil => rfl
      | cons x xs =>
          have hlength := (List.dropWhile_suffix (fun y => decide (key y = key x)) (l := xs)).length_le
          rw [runs_cons, List.flatMap_cons, ih _ (by rw [← hn, List.length_cons]; omega) _ rfl,
            List.cons_append, List.takeWhile_append_dropWhile]

omit [DecidableEq κ] in
/-- Entries of one key before entries of other keys. -/
theorem Contiguous.append {key : α → κ} {k : κ} {xs ys : List α} (hxs : ∀ x ∈ xs, key x = k)
    (hys : ∀ y ∈ ys, key y ≠ k) (h : Contiguous key ys) :
  Contiguous key (xs ++ ys)
  := by
  intro a b c habc hac
  obtain ⟨l, l', he, hl, hl'⟩ := List.sublist_append_iff.mp habc
  rcases l with _ | ⟨a', l⟩
  · rw [List.nil_append] at he
    exact h a b c (he ▸ hl') hac
  · rw [List.cons_append] at he
    obtain ⟨rfl, htail⟩ := List.cons.inj he
    have ha := hxs a (hl.subset List.mem_cons_self)
    rcases l with _ | ⟨b', l⟩
    · rw [List.nil_append] at htail
      have hc := hys c (hl'.subset (htail ▸ by simp))
      exact absurd (hac.symm.trans ha) hc
    · rw [List.cons_append] at htail
      obtain ⟨rfl, -⟩ := List.cons.inj htail
      rw [ha, hxs b (hl.subset (by simp))]

/-- Keys are contiguous exactly when no two runs have the same key. -/
theorem contiguous_iff {key : α → κ} {xs : List α} :
  Contiguous key xs ↔ ((runs key xs).map Prod.fst).Nodup
  := by
  constructor
  · intro h
    rw [runs_eq_groups h, map_fst_groups]
    apply nodup_eraseDups
  · have hkeys : ∀ g ∈ runs key xs, ∀ x ∈ g.2, key x = g.1 :=
      fun g hg => (isRun_of_mem_runs hg).key_eq
    have hxs := flatMap_runs key xs
    intro hnodup
    rw [← hxs]
    generalize runs key xs = gs at hkeys hnodup
    induction gs with
    | nil =>
        intro a b c habc
        cases habc
    | cons g gs ih =>
        rw [List.map_cons, List.nodup_cons] at hnodup
        rw [List.flatMap_cons]
        have htail := fun g' hg' => hkeys g' (List.mem_cons_of_mem g hg')
        apply Contiguous.append (hkeys g List.mem_cons_self)
        · intro y hy heq
          obtain ⟨g', hg', hy⟩ := List.mem_flatMap.mp hy
          apply hnodup.1
          rw [← heq, htail g' hg' y hy]
          exact List.mem_map_of_mem hg'
        · exact ih htail hnodup.2

/-- A loop that collects the entries of the current key and emits them when the key changes. -/
structure RunLoop (κ α σ : Type*) where
  currentKey : Option κ := none
  currentEntries : List α := []
  state : σ

/-- One turn of the loop. -/
def runStep {σ : Type*} (key : α → κ) (emit : σ → List α → σ) (loop : RunLoop κ α σ) (x : α) :
    RunLoop κ α σ :=
  if key x ≠ loop.currentKey.getD (key x) then
    { currentKey := some (key x)
      currentEntries := [x]
      state := emit loop.state loop.currentEntries }
  else
    { loop with
      currentKey := some (key x)
      currentEntries := loop.currentEntries ++ [x] }

/-- The run that the loop has not emitted. -/
def RunLoop.pending {σ : Type*} (loop : RunLoop κ α σ) : List (κ × List α) :=
  (loop.currentKey.map fun k => (k, loop.currentEntries)).toList

theorem foldl_runStep_of_current {σ : Type*} (key : α → κ) (emit : σ → List α → σ) (s : σ)
    {k : κ} {cur : List α} (hne : cur ≠ []) (hcur : ∀ x ∈ cur, key x = k) (xs : List α) :
  ∃ emitted, runs key (cur ++ xs)
      = emitted ++ (xs.foldl (runStep key emit) ⟨some k, cur, s⟩).pending
    ∧ (xs.foldl (runStep key emit) ⟨some k, cur, s⟩).state
      = (emitted.map Prod.snd).foldl emit s
  := by
  induction xs generalizing k cur s with
  | nil =>
      use []
      rw [runs_append hne hcur (by simp)]
      exact ⟨rfl, rfl⟩
  | cons x xs ih =>
      rw [List.foldl_cons, runStep, Option.getD_some]
      split
      · rename_i hx
        obtain ⟨emitted, hruns, hstate⟩ := ih (emit s cur) (List.cons_ne_nil x [])
          (by simp : ∀ y ∈ [x], key y = key x)
        use (k, cur) :: emitted
        rw [runs_append hne hcur (by simpa using hx), List.cons_append]
        exact ⟨congrArg _ hruns, hstate⟩
      · rename_i hx
        have hcur' : ∀ y ∈ cur ++ [x], key y = key x := by
          intro y hy
          rw [not_not] at hx
          rcases List.mem_append.mp hy with hy | hy
          · rw [hcur y hy, hx]
          · rw [List.mem_singleton.mp hy]
        obtain ⟨emitted, hruns, hstate⟩ := ih s (by simp) hcur'
        use emitted
        rw [List.append_assoc] at hruns
        exact ⟨hruns, hstate⟩

/-- The loop emits the runs in order, and the last one is pending. -/
theorem foldl_runStep {σ : Type*} (key : α → κ) (emit : σ → List α → σ) (s : σ) (xs : List α) :
  ∃ emitted, runs key xs = emitted ++ (xs.foldl (runStep key emit) { state := s }).pending
    ∧ (xs.foldl (runStep key emit) { state := s }).state = (emitted.map Prod.snd).foldl emit s
  := by
  cases xs with
  | nil => exact ⟨[], rfl, rfl⟩
  | cons x xs =>
      rw [List.foldl_cons, runStep, Option.getD_none, if_neg (not_not.mpr rfl)]
      exact foldl_runStep_of_current key emit s (List.cons_ne_nil x [])
        (by simp : ∀ y ∈ [x], key y = key x) xs

end Keyed
