import Mathlib.Data.List.Basic
import Mathlib.Data.List.Induction
import Mathlib.Logic.Function.Basic
import Mathlib.Data.Int.Init

/-!
# Buffered writes to shard files

A writer keeps a buffer of rows for each shard.  A unit of work appends its rows to the buffers
of their shards; the buffers are emptied into the files when they hold enough rows, and at the
end.  Where and how often the buffers are emptied does not matter: after the last flush the file
of a shard holds exactly the rows of that shard, in the order they were appended
(`Writes.files_flush_foldl`).
-/

namespace ShardWriter

variable {α υ : Type*}

/-- The files and the buffers of all shards, the number of rows counted since the last flush, and
the number of rows counted in all. -/
structure Writer (α : Type*) where
  files : ℕ → List α := fun _ => []
  buffers : ℕ → List α := fun _ => []
  bufferedRows : ℕ := 0
  writtenRows : ℕ := 0

namespace Writer

/-- A row is appended to the buffer of its shard. -/
def append (shardOf : α → ℕ) (w : Writer α) (row : α) : Writer α :=
  { w with buffers := Function.update w.buffers (shardOf row) (w.buffers (shardOf row) ++ [row]) }

/-- The buffers are emptied into the files. -/
def flush (w : Writer α) : Writer α :=
  { w with files := fun n => w.files n ++ w.buffers n, buffers := fun _ => [] }

/-- Appended rows are counted. -/
def tally (w : Writer α) (rows : ℕ) : Writer α :=
  { w with
    bufferedRows := w.bufferedRows + rows
    writtenRows := w.writtenRows + rows }

/-- Appended rows are counted, and the buffers are flushed when they hold `limit` rows. -/
def count (limit : ℤ) (w : Writer α) (rows : ℕ) : Writer α :=
  if limit ≤ (w.tally rows).bufferedRows then { (w.tally rows).flush with bufferedRows := 0 }
  else w.tally rows

/-- The shards that have a file. -/
def existing (w : Writer α) (shardCount : ℕ) : List ℕ :=
  (List.range shardCount).filter (fun n => w.files n ≠ [])

/-- The rows written or about to be written to a shard. -/
def content (w : Writer α) (n : ℕ) : List α :=
  w.files n ++ w.buffers n

@[simp]
theorem content_empty (n : ℕ) :
  ({} : Writer α).content n = []
  := rfl

@[simp]
theorem files_flush (w : Writer α) (n : ℕ) :
  w.flush.files n = w.content n
  := rfl

@[simp]
theorem content_flush (w : Writer α) (n : ℕ) :
  w.flush.content n = w.content n
  := List.append_nil _

/-- Appending a row adds it to the content of its shard. -/
theorem content_append (shardOf : α → ℕ) (w : Writer α) (row : α) (n : ℕ) :
  (w.append shardOf row).content n = w.content n ++ [row].filter (shardOf · = n)
  := by
  by_cases h : shardOf row = n
  · subst h
    simp [content, append]
  · have h' : n ≠ shardOf row := fun e => h e.symm
    simp [content, append, h, Function.update_of_ne h']

@[simp]
theorem content_tally (w : Writer α) (rows n : ℕ) :
  (w.tally rows).content n = w.content n
  := rfl

/-- Counting rows does not change the content of a shard. -/
@[simp]
theorem content_count (limit : ℤ) (w : Writer α) (rows n : ℕ) :
  (w.count limit rows).content n = w.content n
  := by
  rw [count]
  split
  · apply content_flush
  · rfl

/-- Appending rows adds to each shard the rows of that shard. -/
theorem content_foldl_append (shardOf : α → ℕ) (w : Writer α) (rows : List α) (n : ℕ) :
  (rows.foldl (append shardOf) w).content n = w.content n ++ rows.filter (shardOf · = n)
  := by
  induction rows generalizing w with
  | nil => simp
  | cons row rows ih =>
      rw [List.foldl_cons, ih, content_append, List.append_assoc, ← List.filter_append]
      rfl

end Writer

/-- A unit of work adds `rows u` to the content of the shards. -/
def Writes (shardOf : α → ℕ) (rows : υ → List α) (write : Writer α → υ → Writer α) : Prop :=
  ∀ w u n, (write w u).content n = w.content n ++ (rows u).filter (shardOf · = n)

/-- A run of units of work adds the rows of all the units. -/
theorem Writes.foldl {shardOf : α → ℕ} {rows : υ → List α} {write : Writer α → υ → Writer α}
    (h : Writes shardOf rows write) (w : Writer α) (units : List υ) (n : ℕ) :
  (units.foldl write w).content n
    = w.content n ++ (units.flatMap rows).filter (shardOf · = n)
  := by
  induction units generalizing w with
  | nil => simp
  | cons u units ih =>
      rw [List.foldl_cons, ih, h, List.flatMap_cons, List.filter_append, List.append_assoc]

/-- After a run from nothing and a last flush, the file of a shard holds the rows of the shard in
the order they were appended. -/
theorem Writes.files_flush_foldl {shardOf : α → ℕ} {rows : υ → List α}
    {write : Writer α → υ → Writer α} (h : Writes shardOf rows write) (units : List υ) (n : ℕ) :
  (units.foldl write {}).flush.files n = (units.flatMap rows).filter (shardOf · = n)
  := by
  rw [Writer.files_flush, h.foldl, Writer.content_empty, List.nil_append]

/-- Going over the shards that have a file, with a result that is empty on an empty file, is
going over all the shards. -/
theorem flatMap_existing {β : Type*} (w : Writer α) (shardCount : ℕ) (f : List α → List β)
    (hf : f [] = []) :
  (w.existing shardCount).flatMap (fun n => f (w.files n))
    = (List.range shardCount).flatMap (fun n => f (w.files n))
  := by
  rw [Writer.existing]
  induction List.range shardCount with
  | nil => rfl
  | cons n ns ih =>
      by_cases h : w.files n = []
      · rw [List.filter_cons_of_neg (by simpa using h), ih, List.flatMap_cons, h, hf]
        rfl
      · rw [List.filter_cons_of_pos (by simpa using h), List.flatMap_cons, ih, List.flatMap_cons]

/-- Going over the shards of an earlier writer, which cut a list, writes the rows of the parts. -/
theorem Writes.files_flush_existing {β : Type*} {shardOf : α → ℕ} {rows : List β → List α}
    {write : Writer α → List β → Writer α} (h : Writes shardOf rows write) (hrows : rows [] = [])
    {earlier : Writer β} {l : List β} {shard : β → ℕ}
    (hearlier : ∀ s, earlier.files s = l.filter (shard · = s)) (shardCount n : ℕ) :
  (((earlier.existing shardCount).map earlier.files).foldl write {}).flush.files n
    = ((List.range shardCount).flatMap fun s => rows (l.filter (shard · = s))).filter
      (shardOf · = n)
  := by
  rw [h.files_flush_foldl, List.flatMap_map, flatMap_existing earlier shardCount rows hrows]
  simp only [hearlier]

end ShardWriter
