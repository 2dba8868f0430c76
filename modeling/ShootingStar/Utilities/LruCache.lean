import Mathlib
import ShootingStar.Lib.Keyed
import ShootingStar.Lib.RecencyList

/-!
# The LRU cache

The cache keeps its entries in a linked list, the most recently touched first, and an index
from keys to iterators into that list.  A list node is modelled by its entry and the address
its iterators hold; reading through an iterator whose node is gone has no result, so an
operation that does it returns `none`.  Every call holds the mutex, so a history is a sequence
of calls with the clock readings they make.  Clock readings and durations are 64-bit counts of
nanoseconds.  `Put` adds the lifetime to the clock reading without a check, and a sum that
overflows wraps around to the past (`expiresAt`).

The index and the list stay linked (`Linked`), no call reads through a stale iterator, and the
list is the recency list of the history (`run_refines`).  An entry is found until its lifetime
ends exactly when its deadline does not overflow (`run_never_evicts_early_iff`).
-/

open RecencyList (Slot Call Event)

/-- A node of the list: the address its iterators hold, and its entry. -/
abbrev Node (κ ν : Type*) := ℕ × Slot κ ν

/-- The cache: its limits, the nodes of `entries_` from front to back, `index_`, and the address
of the next node to be allocated. -/
structure LruCache (κ ν : Type*) where
  capacity : ℕ
  ttl : ℤ
  entries : List (Node κ ν)
  index : List (κ × ℕ)
  nextNode : ℕ

namespace LruCache

variable {κ ν : Type*} [DecidableEq κ]

/-! ### Operations -/

/-- A cache as it is constructed. -/
def init (capacity : ℕ) (ttl : ℤ) : LruCache κ ν where
  capacity := capacity
  ttl := ttl
  entries := []
  index := []
  nextNode := 0

/-- The entry an iterator points at. -/
def deref (node : ℕ) (entries : List (Node κ ν)) : Option (Slot κ ν) :=
  entries.lookup node

/-- The list without a node. -/
def erase (node : ℕ) (entries : List (Node κ ν)) : List (Node κ ν) :=
  entries.filter (·.1 ≠ node)

/-- The index without a key. -/
def eraseKey (k : κ) (index : List (κ × ℕ)) : List (κ × ℕ) :=
  index.filter (·.1 ≠ k)

/-- An entry expires at its deadline. -/
def isExpired (entry : Slot κ ν) (now : ℤ) : Bool :=
  entry.expiresAt ≤ now

/-- `Get`: the cache afterwards, and the value found. -/
def get (now : ℤ) (k : κ) (c : LruCache κ ν) : Option (LruCache κ ν × Option ν) :=
  match c.index.lookup k with
  | none => some (c, none)
  | some node =>
    (deref node c.entries).map fun entry =>
      if isExpired entry now then
        ({ c with entries := erase node c.entries, index := eraseKey k c.index }, none)
      else
        ({ c with entries := (node, entry) :: erase node c.entries }, some entry.value)

/-- The eviction loop of `Put`: drop nodes from the back while there are too many. -/
def evict (c : LruCache κ ν) : LruCache κ ν :=
  if h : c.capacity < c.entries.length then
    let back := c.entries.getLast (List.ne_nil_of_length_pos (by omega))
    evict { c with entries := c.entries.dropLast, index := eraseKey back.2.key c.index }
  else c
termination_by c.entries.length
decreasing_by
  rw [List.length_dropLast]
  omega

/-- The cache after pushing a new entry to the front and indexing it. -/
def pushFront (entry : Slot κ ν) (c : LruCache κ ν) : LruCache κ ν :=
  { c with
    entries := (c.nextNode, entry) :: c.entries
    index := Keyed.upsert entry.key (fun _ => c.nextNode) c.index
    nextNode := c.nextNode + 1 }

/-- The greatest clock reading, and the greatest duration. -/
def maxTime : ℤ := 2 ^ 63 - 1

/-- `now + ttl_` for a positive lifetime: a sum above the range wraps around. -/
def expiresAt (ttl now : ℤ) : ℤ :=
  if maxTime < now + ttl then now + ttl - 2 ^ 64 else now + ttl

/-- `Put`: the cache afterwards. -/
def put (now : ℤ) (k : κ) (v : ν) (c : LruCache κ ν) : Option (LruCache κ ν) :=
  if c.capacity = 0 ∨ c.ttl ≤ 0 then some c
  else
    match c.index.lookup k with
    | some node =>
      (deref node c.entries).map fun entry =>
        { c with
          entries := (node, { entry with value := v, expiresAt := expiresAt c.ttl now })
            :: erase node c.entries }
    | none => some (evict (pushFront ⟨k, v, expiresAt c.ttl now⟩ c))

/-- The cache after a history, the latest call first. -/
def run (capacity : ℕ) (ttl : ℤ) : List (Event κ ν) → Option (LruCache κ ν)
  | [] => some (init capacity ttl)
  | ⟨now, .get k⟩ :: h => ((run capacity ttl h).bind (get now k)).map Prod.fst
  | ⟨now, .put k v⟩ :: h => (run capacity ttl h).bind (put now k v)

/-- The keys touched in a history, the latest first: a put touches its key, and so does a get
that hits. -/
def touches (capacity : ℕ) (ttl : ℤ) : List (Event κ ν) → List κ
  | [] => []
  | ⟨now, .get k⟩ :: h =>
    match (run capacity ttl h).bind (get now k) with
    | some (_, some _) => k :: touches capacity ttl h
    | _ => touches capacity ttl h
  | ⟨_, .put k _⟩ :: h => k :: touches capacity ttl h

/-! ### The link between the index and the list -/

/-- The keys of the list, from front to back. -/
def keys (c : LruCache κ ν) : List κ :=
  c.entries.map (·.2.key)

/-- The entries of the list, from front to back. -/
def view (c : LruCache κ ν) : List (Slot κ ν) :=
  c.entries.map Prod.snd

omit [DecidableEq κ] in
theorem map_key_view (c : LruCache κ ν) :
  c.view.map Slot.key = c.keys
  := by
  simp [view, keys]

omit [DecidableEq κ] in
theorem mem_view {c : LruCache κ ν} {node : ℕ} {entry : Slot κ ν}
    (h : (node, entry) ∈ c.entries) :
  entry ∈ c.view
  := List.mem_map.mpr ⟨(node, entry), h, rfl⟩

/-- The index and the list are in one-to-one correspondence: nodes, keys of the list and keys
of the index are distinct, and the index maps a key to a node exactly when that node of the
list holds an entry of that key. -/
structure Linked (c : LruCache κ ν) : Prop where
  nodes_nodup : (c.entries.map Prod.fst).Nodup
  keys_nodup : c.keys.Nodup
  index_nodup : (c.index.map Prod.fst).Nodup
  mem_index : ∀ k node, (k, node) ∈ c.index ↔ ∃ entry, (node, entry) ∈ c.entries ∧ entry.key = k
  fresh : ∀ p ∈ c.entries, p.1 < c.nextNode

omit [DecidableEq κ] in
theorem linked_init (capacity : ℕ) (ttl : ℤ) :
  Linked (init capacity ttl : LruCache κ ν)
  := by
  constructor <;> simp [init, keys]

omit [DecidableEq κ] in
theorem mem_erase {node : ℕ} {entries : List (Node κ ν)} {p : Node κ ν} :
  p ∈ erase node entries ↔ p ∈ entries ∧ p.1 ≠ node
  := by
  simp [erase]

theorem mem_eraseKey {k : κ} {index : List (κ × ℕ)} {p : κ × ℕ} :
  p ∈ eraseKey k index ↔ p ∈ index ∧ p.1 ≠ k
  := by
  simp [eraseKey]

omit [DecidableEq κ] in
/-- Nodes with the same address are the same. -/
theorem Linked.eq_of_node {c : LruCache κ ν} (h : Linked c) {p q : Node κ ν}
    (hp : p ∈ c.entries) (hq : q ∈ c.entries) (hpq : p.1 = q.1) :
  p = q
  := List.inj_on_of_nodup_map h.nodes_nodup hp hq hpq

omit [DecidableEq κ] in
/-- Nodes with the same key are the same. -/
theorem Linked.eq_of_key {c : LruCache κ ν} (h : Linked c) {p q : Node κ ν}
    (hp : p ∈ c.entries) (hq : q ∈ c.entries) (hpq : p.2.key = q.2.key) :
  p = q
  := List.inj_on_of_nodup_map h.keys_nodup hp hq hpq

omit [DecidableEq κ] in
/-- An iterator to a node of the list can be read. -/
theorem Linked.deref_eq {c : LruCache κ ν} (h : Linked c) {node : ℕ} {entry : Slot κ ν}
    (hmem : (node, entry) ∈ c.entries) :
  deref node c.entries = some entry
  := Keyed.lookup_eq_of_mem h.nodes_nodup hmem

/-- An iterator from the index points at an entry of its key. -/
theorem Linked.mem_of_lookup {c : LruCache κ ν} (h : Linked c) {k : κ} {node : ℕ}
    (hk : c.index.lookup k = some node) :
  ∃ entry, (node, entry) ∈ c.entries ∧ entry.key = k
  := (h.mem_index k node).mp (Keyed.mem_of_lookup_eq hk)

/-- A key the index lacks is not in the list. -/
theorem Linked.not_mem_keys {c : LruCache κ ν} (h : Linked c) {k : κ}
    (hk : c.index.lookup k = none) :
  k ∉ c.keys
  := by
  intro hmem
  obtain ⟨⟨node, entry⟩, hentry, rfl⟩ := List.mem_map.mp hmem
  apply Keyed.lookup_eq_none.mp hk
  exact List.mem_map_of_mem ((h.mem_index _ _).mpr ⟨entry, hentry, rfl⟩)

/-- Erasing the node of a key removes the entry of that key. -/
theorem Linked.map_erase {c : LruCache κ ν} (h : Linked c) {node : ℕ} {entry : Slot κ ν}
    (hmem : (node, entry) ∈ c.entries) :
  (erase node c.entries).map Prod.snd = RecencyList.remove entry.key c.view
  := by
  rw [view, RecencyList.remove, List.filter_map, erase]
  congr 1
  apply List.filter_congr
  intro p hp
  apply decide_eq_decide.mpr
  apply not_congr
  exact ⟨fun e => by rw [h.eq_of_node hp hmem e], fun e => by rw [h.eq_of_key hp hmem e]⟩

/-- Erasing a node and its key keeps the link. -/
theorem Linked.erase {c : LruCache κ ν} (h : Linked c) {node : ℕ} {entry : Slot κ ν}
    (hmem : (node, entry) ∈ c.entries) :
  Linked { c with entries := erase node c.entries, index := eraseKey entry.key c.index }
  := by
  have hsub : (LruCache.erase node c.entries).Sublist c.entries := List.filter_sublist
  constructor
  · exact h.nodes_nodup.sublist (hsub.map _)
  · exact h.keys_nodup.sublist (hsub.map _)
  · exact h.index_nodup.sublist (List.filter_sublist.map _)
  · intro k node'
    simp only [mem_eraseKey, mem_erase, h.mem_index]
    constructor
    · rintro ⟨⟨entry', hentry', rfl⟩, hne⟩
      use entry', ⟨hentry', fun e => hne ?_⟩
      rw [(Prod.mk.inj (h.eq_of_node hentry' hmem e)).2]
    · rintro ⟨entry', ⟨hentry', hne⟩, rfl⟩
      use ⟨entry', hentry', rfl⟩, fun e => hne ?_
      exact (Prod.mk.inj (h.eq_of_key hentry' hmem e)).1
  · exact fun p hp => h.fresh p (mem_erase.mp hp).1

omit [DecidableEq κ] in
/-- Moving a node to the front, with an entry of the same key, keeps the link. -/
theorem Linked.front {c : LruCache κ ν} (h : Linked c) {node : ℕ} {entry entry' : Slot κ ν}
    (hmem : (node, entry) ∈ c.entries) (hkey : entry'.key = entry.key) :
  Linked { c with entries := (node, entry') :: LruCache.erase node c.entries }
  := by
  have hsub : (LruCache.erase node c.entries).Sublist c.entries := List.filter_sublist
  constructor
  · rw [List.map_cons, List.nodup_cons]
    use fun hnode => ?_, h.nodes_nodup.sublist (hsub.map _)
    obtain ⟨p, hp, e⟩ := List.mem_map.mp hnode
    exact (mem_erase.mp hp).2 e
  · rw [keys, List.map_cons, List.nodup_cons]
    use fun hkeys => ?_, h.keys_nodup.sublist (hsub.map _)
    obtain ⟨p, hp, e⟩ := List.mem_map.mp hkeys
    obtain ⟨hp, hne⟩ := mem_erase.mp hp
    exact hne (by rw [h.eq_of_key hp hmem (e.trans hkey)])
  · exact h.index_nodup
  · intro k node'
    simp only [h.mem_index, List.mem_cons, mem_erase, Prod.mk.injEq]
    constructor
    · rintro ⟨e, he, rfl⟩
      by_cases hnode : node' = node
      · subst hnode
        rw [(Prod.mk.inj (h.eq_of_node he hmem rfl)).2]
        exact ⟨entry', Or.inl ⟨rfl, rfl⟩, hkey⟩
      · exact ⟨e, Or.inr ⟨he, hnode⟩, rfl⟩
    · rintro ⟨e, ⟨rfl, rfl⟩ | ⟨he, _⟩, rfl⟩
      · exact ⟨entry, hmem, hkey.symm⟩
      · exact ⟨e, he, rfl⟩
  · intro p hp
    rcases List.mem_cons.mp hp with rfl | hp
    · exact h.fresh (node, entry) hmem
    · exact h.fresh p (mem_erase.mp hp).1

/-- Pushing an entry whose key the index lacks keeps the link. -/
theorem Linked.pushFront {c : LruCache κ ν} (h : Linked c) (entry : Slot κ ν)
    (hk : c.index.lookup entry.key = none) :
  Linked (pushFront entry c)
  := by
  have hindex := Keyed.lookup_eq_none.mp hk
  have hkeys := h.not_mem_keys hk
  have hnode : ∀ entry', (c.nextNode, entry') ∉ c.entries :=
    fun entry' hp => (h.fresh _ hp).ne rfl
  constructor
  · rw [LruCache.pushFront, List.map_cons, List.nodup_cons]
    use fun hmem => ?_, h.nodes_nodup
    obtain ⟨p, hp, e⟩ := List.mem_map.mp hmem
    exact (h.fresh p hp).ne e
  · rw [keys, LruCache.pushFront, List.map_cons, List.nodup_cons]
    exact ⟨hkeys, h.keys_nodup⟩
  · rw [LruCache.pushFront, Keyed.map_fst_upsert, if_neg hindex, List.nodup_append]
    use h.index_nodup, List.nodup_singleton _
    rintro a ha b hb rfl
    rw [List.mem_singleton] at hb
    exact hindex (hb ▸ ha)
  · intro k node
    rw [LruCache.pushFront, Keyed.upsert_of_not_mem _ hindex, List.mem_append, h.mem_index]
    simp only [List.mem_cons, List.not_mem_nil, or_false, Prod.mk.injEq]
    constructor
    · rintro (⟨e, he, rfl⟩ | ⟨rfl, rfl⟩)
      · exact ⟨e, Or.inr he, rfl⟩
      · exact ⟨entry, Or.inl ⟨rfl, rfl⟩, rfl⟩
    · rintro ⟨e, ⟨rfl, rfl⟩ | he, rfl⟩
      · exact Or.inr ⟨rfl, rfl⟩
      · exact Or.inl ⟨e, he, rfl⟩
  · intro p hp
    rcases List.mem_cons.mp hp with rfl | hp
    · exact Nat.lt_succ_self _
    · exact Nat.lt_succ_of_lt (h.fresh p hp)

/-! ### What a call does -/

theorem expiresAt_of_le {ttl now : ℤ} (h : now + ttl ≤ maxTime) :
  expiresAt ttl now = now + ttl
  := by
  rw [expiresAt, if_neg (by omega)]

theorem expiresAt_le (ttl now : ℤ) :
  expiresAt ttl now ≤ now + ttl
  := by
  rw [expiresAt]
  split <;> omega

/-- A deadline that overflows has passed when it is set. -/
theorem expiresAt_lt_of_lt {ttl now : ℤ} (hmax : ttl ≤ maxTime) (h : maxTime < now + ttl) :
  expiresAt ttl now < now
  := by
  rw [expiresAt, if_pos h]
  rw [maxTime] at hmax
  omega

/-- The number of entries a cache keeps: none without a lifetime. -/
def limit (capacity : ℕ) (ttl : ℤ) : ℕ :=
  if ttl ≤ 0 then 0 else capacity

theorem limit_le (capacity : ℕ) (ttl : ℤ) :
  limit capacity ttl ≤ capacity
  := by
  rw [limit]
  split <;> omega

theorem limit_eq_zero {capacity : ℕ} {ttl : ℤ} :
  limit capacity ttl = 0 ↔ capacity = 0 ∨ ttl ≤ 0
  := by
  rw [limit]
  split <;> omega

theorem limit_of_pos {ttl : ℤ} (httl : 0 < ttl) (capacity : ℕ) :
  limit capacity ttl = capacity
  := by
  rw [limit, if_neg (by omega)]

theorem evict_of_le {c : LruCache κ ν} (h : c.entries.length ≤ c.capacity) :
  evict c = c
  := by
  rw [evict, dif_neg (by omega)]

/-- Dropping the node at the back keeps the link. -/
theorem Linked.dropLast {c : LruCache κ ν} (h : Linked c) (hne : c.entries ≠ []) :
  Linked { c with
    entries := c.entries.dropLast
    index := eraseKey (c.entries.getLast hne).2.key c.index }
  := by
  have hsplit := List.dropLast_append_getLast hne
  have hlast : LruCache.erase (c.entries.getLast hne).1 c.entries = c.entries.dropLast := by
    have hnodup := h.nodes_nodup
    rw [← hsplit, List.map_append, List.nodup_append] at hnodup
    nth_rewrite 2 [← hsplit]
    rw [LruCache.erase, List.filter_append, List.filter_eq_self.mpr, List.filter_eq_nil_iff.mpr,
      List.append_nil]
    · simp
    · intro p hp
      have hnode := hnodup.2.2 p.1 (List.mem_map_of_mem hp) (c.entries.getLast hne).1 (by simp)
      simpa using hnode
  rw [← hlast]
  exact h.erase (List.getLast_mem hne)

/-- The eviction loop keeps the first `capacity` nodes, and the link. -/
theorem evict_spec {c : LruCache κ ν} (h : Linked c) :
  Linked (evict c) ∧ (evict c).entries = c.entries.take c.capacity
    ∧ (evict c).capacity = c.capacity ∧ (evict c).ttl = c.ttl
  := by
  induction c using evict.induct with
  | case1 c hlt back ih =>
      have hne : c.entries ≠ [] := List.ne_nil_of_length_pos (by omega)
      obtain ⟨hlinked, hentries, hcapacity, httl⟩ := ih (h.dropLast hne)
      rw [evict, dif_pos hlt]
      refine ⟨hlinked, hentries.trans ?_, hcapacity, httl⟩
      have hcut : c.capacity ≤ c.entries.length - 1 := by omega
      simp only [List.dropLast_eq_take, List.take_take, Nat.min_eq_left hcut]
  | case2 c hle =>
      rw [evict_of_le (by omega), List.take_of_length_le (by omega)]
      exact ⟨h, rfl, rfl, rfl⟩

/-- `Get` reads no stale iterator, keeps the link, and is `RecencyList.get` on the entries. -/
theorem get_refines {c : LruCache κ ν} (h : Linked c) (now : ℤ) (k : κ) :
  ∃ c', c.get now k = some (c', (RecencyList.get now k c.view).2) ∧ Linked c'
    ∧ c'.view = (RecencyList.get now k c.view).1 ∧ c'.capacity = c.capacity ∧ c'.ttl = c.ttl
  := by
  cases hk : c.index.lookup k with
  | none =>
      have hfind : c.view.find? (·.key = k) = none := by
        rw [RecencyList.find?_eq_none, map_key_view]
        exact h.not_mem_keys hk
      use c
      simp [get, hk, RecencyList.get, hfind, h]
  | some node =>
      obtain ⟨entry, hmem, rfl⟩ := h.mem_of_lookup hk
      have hfind : c.view.find? (·.key = entry.key) = some entry := by
        apply RecencyList.find?_eq_some
        · rw [map_key_view]
          exact h.keys_nodup
        · exact mem_view hmem
      by_cases hexp : entry.expiresAt ≤ now
      · use { c with entries := LruCache.erase node c.entries
                     index := eraseKey entry.key c.index }
        refine ⟨?_, h.erase hmem, ?_, rfl, rfl⟩
        · simp [get, hk, h.deref_eq hmem, isExpired, RecencyList.get, hfind, hexp]
        · rw [view, h.map_erase hmem]
          simp [RecencyList.get, hfind, hexp]
      · use { c with entries := (node, entry) :: LruCache.erase node c.entries }
        refine ⟨?_, h.front hmem rfl, ?_, rfl, rfl⟩
        · simp [get, hk, h.deref_eq hmem, isExpired, RecencyList.get, hfind, hexp]
        · rw [view, List.map_cons, h.map_erase hmem]
          simp [RecencyList.get, hfind, hexp]

/-- `Put` reads no stale iterator, keeps the link, and is `RecencyList.put` on the entries of a
cache within its capacity. -/
theorem put_refines {c : LruCache κ ν} (h : Linked c) (hsize : c.entries.length ≤ c.capacity)
    (now : ℤ) (k : κ) (v : ν) :
  ∃ c', c.put now k v = some c' ∧ Linked c'
    ∧ c'.view
      = RecencyList.put (limit c.capacity c.ttl) (expiresAt c.ttl) now k v c.view
    ∧ c'.capacity = c.capacity ∧ c'.ttl = c.ttl
  := by
  by_cases hen : c.capacity = 0 ∨ c.ttl ≤ 0
  · use c
    simp [put, hen, RecencyList.put, limit_eq_zero, h]
  have hlimit : limit c.capacity c.ttl = c.capacity := limit_of_pos (by omega) _
  have hkeeps : c.capacity ≠ 0 := fun hzero => hen (Or.inl hzero)
  cases hk : c.index.lookup k with
  | none =>
      obtain ⟨hlinked, hentries, hcapacity, httl⟩ :=
        evict_spec (h.pushFront ⟨k, v, expiresAt c.ttl now⟩ hk)
      use evict (pushFront ⟨k, v, expiresAt c.ttl now⟩ c)
      refine ⟨?_, hlinked, ?_, hcapacity, httl⟩
      · simp [put, hen, hk]
      · have hremove : RecencyList.remove k c.view = c.view := by
          apply List.filter_eq_self.mpr
          intro slot hslot
          simp only [ne_eq, decide_eq_true_eq]
          rintro rfl
          apply h.not_mem_keys hk
          rw [← map_key_view]
          exact List.mem_map_of_mem hslot
        rw [view, hentries, RecencyList.put, hlimit, if_neg hkeeps, hremove, List.map_take]
        rfl
  | some node =>
      obtain ⟨entry, hmem, rfl⟩ := h.mem_of_lookup hk
      use { c with
        entries := (node, ⟨entry.key, v, expiresAt c.ttl now⟩) :: LruCache.erase node c.entries }
      refine ⟨?_, h.front hmem rfl, ?_, rfl, rfl⟩
      · simp [put, hen, hk, h.deref_eq hmem]
      · have hlen : (RecencyList.remove entry.key c.view).length < c.capacity := by
          apply (RecencyList.length_remove_lt (mem_view hmem)).trans_le
          simpa [view] using hsize
        rw [view, List.map_cons, h.map_erase hmem, RecencyList.put, hlimit, if_neg hkeeps,
          List.take_of_length_le]
        rw [List.length_cons]
        omega

/-! ### Runs -/

section Runs

variable (capacity : ℕ) (ttl : ℤ)

/-- The recency list of a history of the cache. -/
abbrev recency (h : List (Event κ ν)) : List (Slot κ ν) :=
  RecencyList.run (limit capacity ttl) (expiresAt ttl) h

theorem length_recency_le (h : List (Event κ ν)) :
  (recency capacity ttl h).length ≤ capacity
  := (RecencyList.length_run_le _ _ h).trans (limit_le capacity ttl)

/-- After every history the index and the list are linked, and the entries are those of the
recency list. -/
theorem run_refines (h : List (Event κ ν)) :
  ∃ c, run capacity ttl h = some c ∧ Linked c ∧ c.view = recency capacity ttl h
    ∧ c.capacity = capacity ∧ c.ttl = ttl
  := by
  induction h with
  | nil => exact ⟨init capacity ttl, rfl, linked_init capacity ttl, rfl, rfl, rfl⟩
  | cons e h ih =>
      obtain ⟨c, hrun, hlinked, hview, rfl, rfl⟩ := ih
      obtain ⟨now, k | ⟨k, v⟩⟩ := e
      · obtain ⟨c', hget, hlinked', hview', hcapacity, httl⟩ := get_refines hlinked now k
        use c'
        refine ⟨?_, hlinked', ?_, hcapacity, httl⟩
        · simp [run, hrun, hget]
        · rw [hview', hview]
          rfl
      · have hsize : c.entries.length ≤ c.capacity := by
          have hlen := length_recency_le c.capacity c.ttl h
          rw [← hview] at hlen
          simpa [view] using hlen
        obtain ⟨c', hput, hlinked', hview', hcapacity, httl⟩ := put_refines hlinked hsize now k v
        use c'
        refine ⟨?_, hlinked', ?_, hcapacity, httl⟩
        · simp [run, hrun, hput]
        · rw [hview', hview]
          rfl

variable {capacity ttl}

/-- The cache after a history. -/
theorem of_run_eq {h : List (Event κ ν)} {c : LruCache κ ν} (hrun : run capacity ttl h = some c) :
  Linked c ∧ c.view = recency capacity ttl h ∧ c.entries.length ≤ c.capacity
  := by
  obtain ⟨c', hrun', hlinked, hview, hcapacity, -⟩ := run_refines capacity ttl h
  obtain rfl : c' = c := Option.some.inj (hrun'.symm.trans hrun)
  refine ⟨hlinked, hview, ?_⟩
  have hlen := length_recency_le capacity ttl h
  rw [← hview] at hlen
  simpa [view, hcapacity] using hlen

/-- A get after a history reads no stale iterator. -/
theorem exists_get {h : List (Event κ ν)} {c : LruCache κ ν} (hrun : run capacity ttl h = some c)
    (now : ℤ) (k : κ) :
  ∃ c' found, c.get now k = some (c', found)
  := by
  obtain ⟨hlinked, -, -⟩ := of_run_eq hrun
  obtain ⟨c', hget, -⟩ := get_refines hlinked now k
  exact ⟨c', _, hget⟩

/-- A put after a history reads no stale iterator. -/
theorem exists_put {h : List (Event κ ν)} {c : LruCache κ ν} (hrun : run capacity ttl h = some c)
    (now : ℤ) (k : κ) (v : ν) :
  ∃ c', c.put now k v = some c'
  := by
  obtain ⟨hlinked, -, hsize⟩ := of_run_eq hrun
  obtain ⟨c', hput, -⟩ := put_refines hlinked hsize now k v
  exact ⟨c', hput⟩

/-- Calls after a history bring in no key but the one put. -/
theorem keys_subset {h : List (Event κ ν)} {c c' : LruCache κ ν} {now : ℤ} {k : κ}
    (hrun : run capacity ttl h = some c) :
  (∀ found, c.get now k = some (c', found) → c'.keys ⊆ c.keys)
    ∧ ∀ v, c.put now k v = some c' → c'.keys ⊆ k :: c.keys
  := by
  obtain ⟨hlinked, -, hsize⟩ := of_run_eq hrun
  simp only [← map_key_view]
  constructor
  · intro found hget
    obtain ⟨c'', hget', -, hview, -⟩ := get_refines hlinked now k
    obtain rfl : c'' = c' := (Prod.mk.inj (Option.some.inj (hget'.symm.trans hget))).1
    rw [hview]
    apply RecencyList.keys_get_subset
  · intro v hput
    obtain ⟨c'', hput', -, hview, -⟩ := put_refines hlinked hsize now k v
    obtain rfl : c'' = c' := Option.some.inj (hput'.symm.trans hput)
    rw [hview]
    apply RecencyList.keys_put_subset

/-- A value found after a history was last put less than `ttl` before. -/
theorem lastPut_of_get {h : List (Event κ ν)} {c c' : LruCache κ ν} {now : ℤ} {k : κ} {v : ν}
    (hrun : run capacity ttl h = some c) (hget : c.get now k = some (c', some v)) :
  ∃ t, RecencyList.lastPut k h = some (t, v) ∧ now < t + ttl
  := by
  obtain ⟨hlinked, hview, -⟩ := of_run_eq hrun
  obtain ⟨_, hget', -⟩ := get_refines hlinked now k
  rw [hget, hview] at hget'
  have hfound := (Prod.mk.inj (Option.some.inj hget')).2.symm
  obtain ⟨t, hput, hlt⟩ := RecencyList.lastPut_of_get _ _ h hfound
  exact ⟨t, hput, hlt.trans_le (expiresAt_le ttl t)⟩

/-- An entry of the cache has the value last put under its key. -/
theorem lastPut_of_mem_view {h : List (Event κ ν)} {c : LruCache κ ν} {entry : Slot κ ν}
    (hrun : run capacity ttl h = some c) (hentry : entry ∈ c.view) :
  ∃ t, RecencyList.lastPut entry.key h = some (t, entry.value)
  := by
  obtain ⟨-, hview, -⟩ := of_run_eq hrun
  rw [hview] at hentry
  obtain ⟨t, hput, -⟩ := RecencyList.mem_run _ _ h hentry
  exact ⟨t, hput⟩

/-- A key without an entry is not found. -/
theorem found_eq_none {h : List (Event κ ν)} {c c' : LruCache κ ν} {now : ℤ} {k : κ}
    {found : Option ν} (hrun : run capacity ttl h = some c) (hk : k ∉ c.keys)
    (hget : c.get now k = some (c', found)) :
  found = none
  := by
  obtain ⟨hlinked, -, -⟩ := of_run_eq hrun
  obtain ⟨_, hget', -⟩ := get_refines hlinked now k
  rw [← map_key_view] at hk
  rw [hget, RecencyList.get, RecencyList.find?_eq_none.mpr hk] at hget'
  exact (Prod.mk.inj (Option.some.inj hget')).2

variable (capacity ttl)

/-- The keys touched are those the recency list touches. -/
theorem touches_eq (h : List (Event κ ν)) :
  touches capacity ttl h = RecencyList.touches (limit capacity ttl) (expiresAt ttl) h
  := by
  induction h with
  | nil => rfl
  | cons e h ih =>
      obtain ⟨now, k | ⟨k, v⟩⟩ := e
      · obtain ⟨c, hrun, hlinked, hview, -, -⟩ := run_refines capacity ttl h
        obtain ⟨c', hget, -⟩ := get_refines hlinked now k
        rw [hview] at hget
        rw [touches, RecencyList.touches, hrun, Option.bind_some, hget, ih]
        cases (RecencyList.get now k (recency capacity ttl h)).2 <;> simp
      · rw [touches, RecencyList.touches, ih]

/-- After every history the index and the list are in one-to-one correspondence, the keys are
distinct, there are at most `capacity` entries, and they are ordered by their last touch.  A
value `Get` then returns was last put under that key, less than `ttl` before. -/
theorem run_linked_ordered_fresh (h : List (Event κ ν)) :
  ∃ c, run capacity ttl h = some c ∧ Linked c ∧ c.keys.Nodup ∧ c.entries.length ≤ capacity
    ∧ (∀ k ∈ c.keys, k ∈ touches capacity ttl h)
    ∧ c.keys.Pairwise (fun k k' =>
        (touches capacity ttl h).idxOf k < (touches capacity ttl h).idxOf k')
    ∧ ∀ now k c' v, c.get now k = some (c', some v) →
        ∃ t, RecencyList.lastPut k h = some (t, v) ∧ now - t < ttl
  := by
  obtain ⟨c, hrun, hlinked, hview, -, -⟩ := run_refines capacity ttl h
  have hordered := RecencyList.run_ordered (limit capacity ttl) (expiresAt ttl) h
  rw [touches_eq]
  refine ⟨c, hrun, hlinked, hlinked.keys_nodup, ?_, ?_, ?_, ?_⟩
  · have hlen := length_recency_le capacity ttl h
    rw [← hview] at hlen
    simpa [view] using hlen
  · intro k hk
    rw [← map_key_view, hview] at hk
    obtain ⟨slot, hslot, rfl⟩ := List.mem_map.mp hk
    exact hordered.mem_touched slot hslot
  · rw [← map_key_view, hview]
    exact hordered.recent
  · intro now k c' v hget
    obtain ⟨t, hput, hlt⟩ := lastPut_of_get hrun hget
    exact ⟨t, hput, by omega⟩

end Runs

/-- The clock readings of a history, the latest call first, do not decrease. -/
def ClockOrdered (h : List (Event κ ν)) : Prop :=
  h.Pairwise (fun later earlier => earlier.time ≤ later.time)

/-- When `k` was last put less than `ttl` ago and fewer than `capacity` other keys were touched
since the last touch of `k`, `Get k` hits exactly if the deadline of that put did not overflow.  A
key that a `Put` removes was touched before every other key there at that moment. -/
theorem run_never_evicts_early_iff {capacity : ℕ} {ttl : ℤ} (hcapacity : 0 < capacity)
    (httl : 0 < ttl) (hmax : ttl ≤ maxTime) (h : List (Event κ ν)) :
  ∃ c, run capacity ttl h = some c
    ∧ (∀ now k t v, ClockOrdered (⟨now, .get k⟩ :: h) →
        RecencyList.lastPut k h = some (t, v) → now - t < ttl →
        (RecencyList.since k (touches capacity ttl h)).card < capacity →
        ((∃ c', c.get now k = some (c', some v)) ↔ t + ttl ≤ maxTime))
    ∧ (∀ now k v c', c.put now k v = some c' →
        ∀ removed ∈ k :: c.keys, removed ∉ c'.keys → ∀ other ∈ k :: c.keys, other ≠ removed →
          (touches capacity ttl (⟨now, .put k v⟩ :: h)).idxOf other
            < (touches capacity ttl (⟨now, .put k v⟩ :: h)).idxOf removed)
  := by
  obtain ⟨c, hrun, hlinked, hview, hcap, ht⟩ := run_refines capacity ttl h
  have hlimit : limit capacity ttl = capacity := limit_of_pos httl capacity
  use c, hrun
  constructor
  · intro now k t v hclock hput hfresh hcard
    have hnow : ∀ e ∈ h, e.time ≤ now := (List.pairwise_cons.mp hclock).1
    obtain ⟨c', hget, -⟩ := get_refines hlinked now k
    rw [hget, hview]
    constructor
    · rintro ⟨_, hhit⟩
      have hfound := (Prod.mk.inj (Option.some.inj hhit)).2
      obtain ⟨t', hput', hlt⟩ := RecencyList.lastPut_of_get _ _ h hfound
      obtain rfl : t = t' := by simpa [hput] using hput'
      by_contra hover
      have hpast := expiresAt_lt_of_lt hmax (not_le.mp hover)
      have hle := hnow _ (RecencyList.mem_of_lastPut hput)
      exact absurd hlt (not_lt.mpr (hpast.le.trans hle))
    · intro hfits
      rw [touches_eq, hlimit] at hcard
      have hhit := RecencyList.get_of_lastPut capacity (expiresAt ttl) hcapacity h hnow hput
        (by rw [expiresAt_of_le hfits]; omega) hcard
      exact ⟨c', by rw [recency, hlimit, hhit]⟩
  · intro now k v c' hput removed hremoved hgone other hother hne
    obtain ⟨-, -, hsize⟩ := of_run_eq hrun
    obtain ⟨c'', hput', -, hview', -⟩ := put_refines hlinked hsize now k v
    obtain rfl : c'' = c' := Option.some.inj (hput'.symm.trans hput)
    rw [← map_key_view, hview', hcap, ht, hview, recency, hlimit] at hgone
    rw [← map_key_view, hview, recency, hlimit] at hremoved hother
    rw [touches, touches_eq, hlimit]
    apply RecencyList.put_drops_least_recent capacity (expiresAt ttl) h _ hgone other hother hne
    apply (List.mem_cons.mp hremoved).resolve_left
    rintro rfl
    apply hgone
    rw [RecencyList.put, if_neg hcapacity.ne', List.take_cons hcapacity]
    exact List.mem_cons_self

/-- In a cache of two entries, key 1 is found after key 2 is put. -/
theorem run_never_evicts_early_iff_two :
  ∃ c : LruCache ℕ ℕ, run 2 10 [⟨1, .put 2 7⟩, ⟨0, .put 1 5⟩] = some c
    ∧ ∃ c', c.get 3 1 = some (c', some 5)
  := by
  obtain ⟨c, hrun, hhit, -⟩ := @run_never_evicts_early_iff ℕ ℕ _ 2 10 (by decide) (by decide)
    (by decide) [⟨1, .put 2 7⟩, ⟨0, .put 1 5⟩]
  use c, hrun
  apply (hhit 3 1 0 5 _ rfl (by decide) (by decide)).mpr
  · decide
  · simp [ClockOrdered]

/-- With the greatest lifetime a key put at time 1 is already expired when it is put: it is not
found at time 2, though nothing else was touched. -/
theorem get_misses_maxTime :
  ClockOrdered [⟨2, .get 1⟩, (⟨1, .put 1 5⟩ : Event ℕ ℕ)]
    ∧ RecencyList.lastPut 1 [(⟨1, .put 1 5⟩ : Event ℕ ℕ)] = some (1, 5) ∧ 2 - 1 < maxTime
    ∧ (RecencyList.since 1 (touches 1 maxTime [(⟨1, .put 1 5⟩ : Event ℕ ℕ)])).card < 1
    ∧ ∃ c c' : LruCache ℕ ℕ, run 1 maxTime [⟨1, .put 1 5⟩] = some c
      ∧ c.get 2 1 = some (c', none)
  := by
  refine ⟨by simp [ClockOrdered], rfl, by decide, by decide, ?_⟩
  obtain ⟨c, hrun, hlinked, hview, -, -⟩ := run_refines 1 maxTime [(⟨1, .put 1 5⟩ : Event ℕ ℕ)]
  obtain ⟨c', hget, -⟩ := get_refines hlinked 2 1
  use c, c', hrun
  rw [hget, hview]
  rfl

end LruCache
