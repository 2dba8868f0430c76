import Mathlib.Data.List.Basic
import Mathlib.Data.List.Zip
import ShootingStar.Lib.Keyed

/-!
# Tables with an index

A table is a list of entries and a map from keys to positions in the list.  Visiting a key
updates its entry in place, or appends an entry when the key is new and there is room.  A table
built by visits is a dictionary in insertion order (`visitAll_dict`).  With room for `n` entries
it keeps the first `n` keys and goes on updating them (`visitAll_dict_take`).
-/

variable {κ ν α : Type*} [DecidableEq κ]

/-- Entries, and the position of the entry of each key. -/
structure Table (κ ν : Type*) where
  entries : List ν := []
  index : List (κ × ℕ) := []

namespace Table

/-- Visiting `k`: its entry is updated with `f`, or `f none` is appended if there is room. -/
def visit (room : Bool) (k : κ) (f : Option ν → ν) (t : Table κ ν) : Table κ ν :=
  match t.index.lookup k with
  | some i => { t with entries := t.entries.modify i (fun v => f (some v)) }
  | none =>
    if room then
      { entries := t.entries ++ [f none], index := t.index ++ [(k, t.entries.length)] }
    else t

/-- The keys and the entries, in the order of insertion. -/
def dict (t : Table κ ν) : List (κ × ν) :=
  (t.index.map Prod.fst).zip t.entries

/-- The index maps the keys to the positions of the entries, in order. -/
structure Wf (t : Table κ ν) : Prop where
  index_eq : t.index = (t.index.map Prod.fst).zipIdx
  length_eq : t.index.length = t.entries.length

omit [DecidableEq κ] in
theorem wf_empty :
  Wf ({} : Table κ ν)
  := by
  constructor <;> rfl

omit [DecidableEq κ] in
theorem Wf.map_fst_dict {t : Table κ ν} (h : Wf t) :
  t.dict.map Prod.fst = t.index.map Prod.fst
  := by
  rw [dict, List.map_fst_zip]
  rw [List.length_map, h.length_eq]

omit [DecidableEq κ] in
theorem Wf.map_snd_dict {t : Table κ ν} (h : Wf t) :
  t.dict.map Prod.snd = t.entries
  := by
  rw [dict, List.map_snd_zip]
  rw [List.length_map, h.length_eq]

omit [DecidableEq κ] in
theorem Wf.length_dict {t : Table κ ν} (h : Wf t) :
  t.dict.length = t.entries.length
  := by
  rw [← h.map_snd_dict, List.length_map]

theorem lookup_zipIdx (ks : List κ) (n : ℕ) (k : κ) :
  (ks.zipIdx n).lookup k = if k ∈ ks then some (n + ks.idxOf k) else none
  := by
  induction ks generalizing n with
  | nil => rfl
  | cons k' ks ih =>
      rw [List.zipIdx_cons, Keyed.lookup_cons_eq_ite, ih]
      by_cases hk : k = k'
      · subst hk
        simp
      · have hk' : ¬ k' = k := fun e => hk e.symm
        by_cases hmem : k ∈ ks
        · simp only [hk, hmem, if_false, if_true, List.mem_cons, or_true, Option.some.injEq]
          rw [List.idxOf_cons_ne _ hk']
          omega
        · simp [hk, hmem]

/-- Modifying the entry at the position of a key updates the dictionary. -/
theorem zip_modify_idxOf {ks : List κ} {vs : List ν} (hlen : ks.length = vs.length) {k : κ}
    (hk : k ∈ ks) (f : Option ν → ν) :
  ks.zip (vs.modify (ks.idxOf k) (fun v => f (some v))) = Keyed.upsert k f (ks.zip vs)
  := by
  induction ks generalizing vs with
  | nil => simp at hk
  | cons k' ks ih =>
      cases vs with
      | nil => simp at hlen
      | cons v vs =>
          by_cases he : k' = k
          · subst he
            simp [Keyed.upsert]
          · have hmem : k ∈ ks := (List.mem_cons.mp hk).resolve_left (fun e => he e.symm)
            rw [List.idxOf_cons_ne _ he, List.modify_succ_cons, List.zip_cons_cons,
              List.zip_cons_cons, Keyed.upsert, if_neg he, ih (by simpa using hlen) hmem]

/-- A visit keeps the index in order. -/
theorem Wf.visit {t : Table κ ν} (h : Wf t) (room : Bool) (k : κ) (f : Option ν → ν) :
  Wf (t.visit room k f)
  := by
  rw [Table.visit]
  split
  next i _ => exact ⟨h.index_eq, by simp [h.length_eq]⟩
  next _ =>
    split
    · constructor
      · simp only [List.map_append, List.map_cons, List.map_nil, List.zipIdx_append]
        rw [← h.index_eq]
        simp [h.length_eq]
      · simp [h.length_eq]
    · exact h

/-- A visit updates the dictionary when the key is there or there is room. -/
theorem Wf.dict_visit {t : Table κ ν} (h : Wf t) (room : Bool) (k : κ) (f : Option ν → ν) :
  (t.visit room k f).dict
    = if k ∈ t.dict.map Prod.fst ∨ room = true then Keyed.upsert k f t.dict else t.dict
  := by
  have hlookup : t.index.lookup k
      = if k ∈ t.index.map Prod.fst then some ((t.index.map Prod.fst).idxOf k) else none := by
    rw [h.index_eq, lookup_zipIdx, ← h.index_eq, Nat.zero_add]
  rw [Table.visit, hlookup, h.map_fst_dict]
  by_cases hk : k ∈ t.index.map Prod.fst
  · rw [if_pos hk, if_pos (Or.inl hk)]
    apply zip_modify_idxOf _ hk
    rw [List.length_map, h.length_eq]
  · rw [if_neg hk]
    have hdict : k ∉ t.dict.map Prod.fst := h.map_fst_dict ▸ hk
    cases room with
    | false => simp [hk]
    | true =>
        rw [Keyed.upsert_of_not_mem f hdict]
        simp only [dict, if_true, or_true, List.map_append]
        rw [List.zip_append (by rw [List.length_map, h.length_eq])]
        rfl

/-- The first `n` entries of an updated dictionary. -/
theorem take_upsert (n : ℕ) (k : κ) (f : Option ν → ν) (d : List (κ × ν)) :
  (Keyed.upsert k f d).take n
    = if k ∈ (d.take n).map Prod.fst ∨ d.length < n then Keyed.upsert k f (d.take n)
      else d.take n
  := by
  induction d generalizing n with
  | nil => cases n <;> simp [Keyed.upsert]
  | cons p d ih =>
      obtain ⟨k', v⟩ := p
      cases n with
      | zero => simp
      | succ n =>
          by_cases hk : k' = k
          · simp [Keyed.upsert, hk]
          · have hk' : ¬ k = k' := fun e => hk e.symm
            simp only [Keyed.upsert, hk, if_false, List.take_succ_cons, ih, List.map_cons,
              List.mem_cons, hk', false_or, List.length_cons, Nat.add_lt_add_iff_right]
            split <;> rfl

/-- The table after visiting the keys of `xs` in order. -/
def visitAll (room : Table κ ν → Bool) (key : α → κ) (f : α → Option ν → ν) (xs : List α) :
    Table κ ν :=
  xs.foldl (fun t x => t.visit (room t) (key x) (f x)) {}

theorem visitAll_concat (room : Table κ ν → Bool) (key : α → κ) (f : α → Option ν → ν)
    (xs : List α) (x : α) :
  visitAll room key f (xs ++ [x])
    = (visitAll room key f xs).visit (room (visitAll room key f xs)) (key x) (f x)
  := by
  rw [visitAll, List.foldl_append]
  rfl

theorem wf_visitAll (room : Table κ ν → Bool) (key : α → κ) (f : α → Option ν → ν)
    (xs : List α) :
  Wf (visitAll room key f xs)
  := by
  induction xs using List.reverseRecOn with
  | nil => exact wf_empty
  | append_singleton xs x ih =>
      rw [visitAll_concat]
      exact ih.visit _ _ _

/-- A table with room for `n` entries holds the first `n` keys, with all their updates. -/
theorem visitAll_dict_take {room : Table κ ν → Bool} {n : ℕ}
    (hroom : ∀ t, room t = true ↔ t.entries.length < n) (key : α → κ) (f : α → Option ν → ν)
    (xs : List α) :
  (visitAll room key f xs).dict = (Keyed.collect key f xs).take n
  := by
  induction xs using List.reverseRecOn with
  | nil => simp [visitAll, dict, Keyed.collect]
  | append_singleton xs x ih =>
      have hwf := wf_visitAll room key f xs
      have hlen : room (visitAll room key f xs) = true
          ↔ (Keyed.collect key f xs).length < n := by
        rw [hroom, ← hwf.length_dict, ih, List.length_take]
        omega
      rw [visitAll_concat, hwf.dict_visit, ih, Keyed.collect_concat, take_upsert]
      simp only [hlen]

/-- A table that always has room is a dictionary. -/
theorem visitAll_dict (key : α → κ) (f : α → Option ν → ν) (xs : List α) :
  (visitAll (fun _ => true) key f xs).dict = Keyed.collect key f xs
  := by
  induction xs using List.reverseRecOn with
  | nil => rfl
  | append_singleton xs x ih =>
      rw [visitAll_concat, (wf_visitAll _ key f xs).dict_visit, if_pos (Or.inr rfl), ih,
        Keyed.collect_concat]

end Table
