import Mathlib.Logic.Function.Basic
import ShootingStar.Lib.Keyed
import ShootingStar.Lib.Ranked

/-!
# Stores of sorted sets

A sorted set maps finitely many members to scores, and may expire after some seconds.  A store maps
every key to a sorted set, the empty one when nothing is stored.  A range is read by descending
score, and members of one score by descending member.

Commands run in order.  When every entry of a list has commands of its own for its own key, each
key holds what the commands of its entry leave there (`run_flatMap_of_mem`), and the other keys what
they held (`run_of_key_ne`).
-/

/-- Members with their scores, and the seconds after which they expire; the empty set does not. -/
structure SortedSet (μ K : Type*) where
  entries : List (μ × K)
  nodup : (entries.map Prod.fst).Nodup
  expiry : Option ℤ := none
  expiry_empty : entries = [] → expiry = none := by simp

namespace SortedSet

variable {μ K : Type*}

/-- The set without members. -/
def empty : SortedSet μ K where
  entries := []
  nodup := List.nodup_nil

section Set

variable [DecidableEq μ]

/-- The set in which a member has a score. -/
def set (s : SortedSet μ K) (entry : μ × K) : SortedSet μ K where
  entries := Keyed.upsert entry.1 (fun _ => entry.2) s.entries
  nodup := by
    rw [Keyed.map_fst_upsert]
    split_ifs with h
    · exact s.nodup
    · rw [← List.concat_eq_append]
      exact s.nodup.concat h
  expiry := s.expiry
  expiry_empty h := absurd h (Keyed.upsert_ne_nil _ _ _)

/-- The set in which members have scores. -/
def setAll (s : SortedSet μ K) (values : List (μ × K)) : SortedSet μ K :=
  values.foldl set s

theorem entries_setAll_empty {values : List (μ × K)} (h : (values.map Prod.fst).Nodup) :
  (setAll empty values).entries = values
  := by
  have hcollect : ∀ s : SortedSet μ K, (setAll s values).entries
      = values.foldl (fun d x => Keyed.upsert x.1 (fun _ => x.2) d) s.entries := by
    induction values with
    | nil => exact fun s => rfl
    | cons entry values ih =>
        rw [List.map_cons, List.nodup_cons] at h
        exact fun s => ih h.2 (s.set entry)
  have hmap : Keyed.collect Prod.fst (fun x _ => x.2) values = values.map fun x => (x.1, x.2) :=
    Keyed.collect_of_nodup h
  rw [hcollect]
  apply hmap.trans
  apply List.map_id

end Set

/-- The set that expires after some seconds, unless it is empty. -/
def expireAfter (s : SortedSet μ K) (seconds : ℤ) : SortedSet μ K where
  entries := s.entries
  nodup := s.nodup
  expiry := if s.entries = [] then none else some seconds
  expiry_empty h := if_pos h

section Range

variable [LinearOrder μ] [LinearOrder K]

/-- The members with their scores, the order in which ranges are read. -/
def descending (s : SortedSet μ K) : List (μ × K) :=
  Ranked.sortBy (Ranked.higherFirst Prod.snd fun entry => OrderDual.toDual entry.1) s.entries

/-- `ZREVRANGE`: the entries between two positions, both included; a negative position counts from
the end. -/
def zrevrange (s : SortedSet μ K) (start stop : ℤ) : List (μ × K) :=
  let size : ℤ := s.entries.length
  let first := if start < 0 then start + size else start
  let last := if stop < 0 then stop + size else stop
  (s.descending.take (last + 1).toNat).drop first.toNat

/-- The first `n` entries. -/
theorem zrevrange_zero (s : SortedSet μ K) {n : ℤ} (h : 0 < n) :
  s.zrevrange 0 (n - 1) = s.descending.take n.toNat
  := by
  have hstop : ¬ n - 1 < 0 := by omega
  simp [zrevrange, hstop]

/-- The scores of a set whose entries are listed by descending score. -/
theorem map_snd_descending {s : SortedSet μ K}
    (h : s.entries.Pairwise (fun a b => b.2 ≤ a.2)) :
  s.descending.map Prod.snd = s.entries.map Prod.snd
  := Ranked.map_score_sortBy Prod.snd _ h

/-- The entries of a set whose distinct scores descend. -/
theorem descending_eq_entries {s : SortedSet μ K}
    (h : s.entries.Pairwise (fun a b => b.2 ≤ a.2)) (hne : (s.entries.map Prod.snd).Nodup) :
  s.descending = s.entries
  := by
  apply Ranked.sortBy_eq_self
  exact h.imp₂ (fun a b hab hne => lt_of_le_of_ne hab (Ne.symm hne)) (List.pairwise_map.mp hne)

end Range

end SortedSet

namespace SortedSets

/-- A store of sorted sets. -/
abbrev Store (κ μ K : Type*) := κ → SortedSet μ K

/-- A command on a key: delete it, give members scores, or let it expire after some seconds. -/
inductive Command (κ μ K : Type*) where
  | del (key : κ)
  | zadd (key : κ) (values : List (μ × K))
  | expire (key : κ) (seconds : ℤ)
  deriving DecidableEq, Repr

variable {α κ μ K : Type*} [DecidableEq κ] [DecidableEq μ]

/-- The key of a command. -/
def Command.key : Command κ μ K → κ
  | .del key => key
  | .zadd key _ => key
  | .expire key _ => key

/-- The store after a command, before any key expires.  A key that expires at once is deleted. -/
def Command.run (store : Store κ μ K) : Command κ μ K → Store κ μ K
  | .del key => Function.update store key SortedSet.empty
  | .zadd key values => Function.update store key ((store key).setAll values)
  | .expire key seconds =>
    Function.update store key
      (if seconds ≤ 0 then SortedSet.empty else (store key).expireAfter seconds)

/-- The store after commands. -/
def run (commands : List (Command κ μ K)) (store : Store κ μ K) : Store κ μ K :=
  commands.foldl Command.run store

@[simp]
theorem run_nil (store : Store κ μ K) :
  run [] store = store
  := rfl

theorem run_append (commands commands' : List (Command κ μ K)) (store : Store κ μ K) :
  run (commands ++ commands') store = run commands' (run commands store)
  := List.foldl_append

/-- A command leaves the other keys alone. -/
theorem Command.run_of_key_ne (command : Command κ μ K) (store : Store κ μ K) {key : κ}
    (h : command.key ≠ key) :
  command.run store key = store key
  := by
  cases command with
  | del key' => exact Function.update_of_ne h.symm _ _
  | zadd key' values => exact Function.update_of_ne h.symm _ _
  | expire key' seconds => exact Function.update_of_ne h.symm _ _

/-- Commands leave the other keys alone. -/
theorem run_of_key_ne {commands : List (Command κ μ K)} {key : κ}
    (h : ∀ command ∈ commands, command.key ≠ key) (store : Store κ μ K) :
  run commands store key = store key
  := by
  induction commands generalizing store with
  | nil => rfl
  | cons command commands ih =>
      rw [run, List.foldl_cons, ← run, ih (fun c hc => h c (List.mem_cons_of_mem _ hc))]
      apply command.run_of_key_ne
      exact h command List.mem_cons_self

/-- With distinct keys, each key holds what the commands of its entry leave there. -/
theorem run_flatMap_of_mem {commands : α → List (Command κ μ K)} {key : α → κ}
    (hkey : ∀ x, ∀ command ∈ commands x, command.key = key x) {l : List α}
    (hl : (l.map key).Nodup) {x : α} (hx : x ∈ l) (store : Store κ μ K) :
  ∃ store', run (l.flatMap commands) store (key x) = run (commands x) store' (key x)
  := by
  induction l generalizing store with
  | nil => cases hx
  | cons y l ih =>
      rw [List.map_cons, List.nodup_cons] at hl
      rw [List.flatMap_cons, run_append]
      rcases List.mem_cons.mp hx with rfl | hx
      · use store
        apply run_of_key_ne
        intro command hcommand hkey'
        obtain ⟨z, hz, hcommand⟩ := List.mem_flatMap.mp hcommand
        apply hl.1
        rw [← hkey', hkey z command hcommand]
        exact List.mem_map_of_mem hz
      · exact ih hl.2 hx _

end SortedSets
