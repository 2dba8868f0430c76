import ShootingStar.Offline.RedisWriter

/-!
# Batches of records

A record on its own is written by deleting its key, if it is to be replaced, adding its members and
setting the expiry.  The writer sends the commands of several records at a time, and leaves in Redis
what the records leave one at a time.  At a record that is not valid it throws, and the batches
before are written (`writeRecords_one_by_one`).
-/

namespace OfflineDataProcessing

open SortedSets (Store run)

namespace RedisWriter

/-- The store after one record. -/
def applyRecord (w : RedisWriter) (store : Store String String ℚ) (record : RedisData) :
    Store String String ℚ :=
  let deleted :=
    if w.replaceExisting then Function.update store record.key SortedSet.empty else store
  let added := Function.update deleted record.key ((deleted record.key).setAll record.values)
  if 0 < w.expireSeconds then
    Function.update added record.key ((added record.key).expireAfter w.expireSeconds)
  else added

/-- The commands of a record write it. -/
theorem run_setCommands (w : RedisWriter) (record : RedisData) (store : Store String String ℚ) :
  run (w.setCommands record) store = w.applyRecord store record
  := by
  have hadd : ∀ store : Store String String ℚ,
      run (if record.values.isEmpty then [] else [.zadd record.key record.values]) store
        = Function.update store record.key ((store record.key).setAll record.values) := by
    intro store
    split
    · rename_i hempty
      rw [List.isEmpty_iff.mp hempty]
      exact (Function.update_eq_self record.key store).symm
    · rfl
  rw [setCommands, SortedSets.run_append, SortedSets.run_append, hadd, applyRecord]
  by_cases hexpire : 0 < w.expireSeconds
  · rw [if_pos hexpire, if_pos hexpire]
    simp only [run, List.foldl_cons, List.foldl_nil, SortedSets.Command.run,
      if_neg (not_le.mpr hexpire)]
    split <;> rfl
  · rw [if_neg hexpire, if_neg hexpire]
    split <;> rfl

theorem run_flatMap_setCommands (w : RedisWriter) (records : List RedisData)
    (store : Store String String ℚ) :
  run (records.flatMap w.setCommands) store = records.foldl w.applyRecord store
  := by
  induction records generalizing store with
  | nil => rfl
  | cons record records ih =>
      rw [List.flatMap_cons, SortedSets.run_append, run_setCommands, ih, List.foldl_cons]

/-- The counters of a dry run. -/
theorem foldlM_countRecord {records : List RedisData}
    (h : ∀ record ∈ records, record.dataType = "zset") (stats : RedisWriteStats) :
  (records.map .ok).foldlM countRecord stats = .ok (stats.add (.ofRecords records))
  := by
  induction records generalizing stats with
  | nil => simp [RedisWriteStats.add, RedisWriteStats.ofRecords, pure, Except.pure]
  | cons record records ih =>
      have hrecord := h record List.mem_cons_self
      have hcount : countRecord stats (.ok record)
          = .ok (stats.add (.ofRecords [record])) := by
        simp only [countRecord, validateRecord_zset hrecord, recordValueCount, if_pos hrecord, bind,
          Except.bind]
        simp [RedisWriteStats.add, RedisWriteStats.ofRecords]
      rw [List.map_cons, List.foldlM_cons, hcount]
      apply (ih (fun r hr => h r (List.mem_cons_of_mem record hr)) _).trans
      rw [RedisWriteStats.add_assoc, ← RedisWriteStats.ofRecords_append, List.singleton_append]

/-- What the iterator throws at, or the validation. -/
def Invalid (record : Except String RedisData) : Prop :=
  ∀ data, record = .ok data → data.dataType ≠ "zset"

theorem writeLoop_cons_of_invalid (w : RedisWriter) {bad : Except String RedisData}
    (h : Invalid bad) (batch : List RedisData) (total : RedisWriteStats)
    (rest : List (Except String RedisData)) (store : Store String String ℚ) :
  ∃ message, w.writeLoop batch total (bad :: rest) store = (.error message, store)
  := by
  cases bad with
  | error message => exact ⟨message, rfl⟩
  | ok data =>
      use "Unsupported RedisData data_type: " ++ data.dataType
      rw [writeLoop, validateRecord, if_pos (h data rfl)]

/-- The loop throws at the first record that is not valid, when the batches before are written. -/
theorem writeLoop_of_invalid (w : RedisWriter) {bad : Except String RedisData} (hbad : Invalid bad)
    (rest : List (Except String RedisData)) {valid batch : List RedisData}
    (h : ∀ record ∈ batch ++ valid, record.dataType = "zset")
    (hbatch : batch.length < w.batchSize.toNat) (total : RedisWriteStats)
    (store : Store String String ℚ) :
  ∃ message, w.writeLoop batch total (valid.map .ok ++ bad :: rest) store
    = (.error message, ((batch ++ valid).take
        ((batch ++ valid).length / w.batchSize.toNat * w.batchSize.toNat)).foldl w.applyRecord store)
  := by
  induction valid generalizing batch total store with
  | nil =>
      obtain ⟨message, hloop⟩ := writeLoop_cons_of_invalid w hbad batch total rest store
      use message
      rw [List.append_nil, Nat.div_eq_of_lt hbatch]
      simpa using hloop
  | cons record valid ih =>
      have hrecord := h record (by simp)
      have hsplit : batch ++ record :: valid = (batch ++ [record]) ++ valid := by simp
      have hlength : (batch ++ [record]).length = batch.length + 1 := by simp
      rw [List.map_cons, List.cons_append, writeLoop, validateRecord_zset hrecord]
      rw [hsplit] at h ⊢
      generalize batch ++ [record] = written at h hlength ⊢
      dsimp only
      split
      · exact ih h (by omega) total store
      · have hfull : written.length = w.batchSize.toNat := by omega
        obtain ⟨message, hloop⟩ := @ih [] (fun r hr => h r (List.mem_append_right _ hr))
          (by have := w.batchSize_pos; simp; omega) (total.add (.ofRecords written))
          (written.foldl w.applyRecord store)
        use message
        have htake : (written ++ valid).length / w.batchSize.toNat * w.batchSize.toNat
            = written.length + valid.length / w.batchSize.toNat * w.batchSize.toNat := by
          have hpos : 0 < w.batchSize.toNat := by omega
          rw [List.length_append, hfull, Nat.add_div_left _ hpos, Nat.succ_mul, Nat.add_comm]
        rw [writeBatch_eq w (fun r hr => h r (List.mem_append_left _ hr)), run_flatMap_setCommands,
          htake, List.take_length_add_append, List.foldl_append]
        exact hloop

/-- The writer leaves in Redis what the records leave one at a time, whatever the size of the
batches, and counts what a dry run counts.  At the first record that is not valid it throws, when
the full batches before are written. -/
theorem writeRecords_one_by_one (w : RedisWriter) {valid : List RedisData}
    (hvalid : ∀ record ∈ valid, record.dataType = "zset") (store : Store String String ℚ) :
  writeRecords { w with dryRun := false } (valid.map .ok) store
      = (.ok (.ofRecords valid), valid.foldl w.applyRecord store)
    ∧ (∀ batchSize (hpos : 0 < batchSize),
      writeRecords { w with dryRun := false, batchSize := batchSize, batchSize_pos := hpos }
          (valid.map .ok) store
        = writeRecords { w with dryRun := false } (valid.map .ok) store)
    ∧ writeRecords { w with dryRun := true } (valid.map .ok) store
      = (.ok (.ofRecords valid), store)
    ∧ ∀ bad rest, Invalid bad →
      ∃ message, writeRecords { w with dryRun := false } (valid.map .ok ++ bad :: rest) store
        = (.error message, (valid.take
            (valid.length / w.batchSize.toNat * w.batchSize.toNat)).foldl w.applyRecord store)
  := by
  have hwrite : ∀ batchSize (hpos : 0 < batchSize),
      writeRecords { w with dryRun := false, batchSize := batchSize, batchSize_pos := hpos }
          (valid.map .ok) store
        = (.ok (.ofRecords valid), valid.foldl w.applyRecord store) := by
    intro batchSize hpos
    rw [writeRecords_eq rfl hvalid, run_flatMap_setCommands]
    rfl
  refine ⟨hwrite _ w.batchSize_pos, ?_, ?_, ?_⟩
  · intro batchSize hpos
    exact (hwrite batchSize hpos).trans (hwrite _ w.batchSize_pos).symm
  · have hcount := foldlM_countRecord hvalid ⟨0, 0⟩
    rw [RedisWriteStats.zero_add] at hcount
    simp [writeRecords, hcount]
  · intro bad rest hbad
    have hpos := w.batchSize_pos
    exact @writeLoop_of_invalid { w with dryRun := false } bad hbad rest valid [] hvalid
      (by simp; omega) ⟨0, 0⟩ store

/-- Records of one key in batches of two: the third is not written when the fourth is not valid. -/
theorem writeRecords_one_by_one_third :
  ∃ message store, writeRecords
      { batchSize := 2, expireSeconds := 60, batchSize_pos := by decide,
        redisLogEvery_pos := by decide }
      ([⟨"k", "zset", [("a", 1)], by decide, by decide⟩,
        ⟨"k", "zset", [("b", 2)], by decide, by decide⟩,
        ⟨"k", "zset", [], by decide, by decide⟩].map .ok
          ++ [.ok ⟨"k", "hash", [], by decide, by decide⟩])
      (fun _ => SortedSet.empty) = (.error message, store)
    ∧ (store "k").entries = [("b", 2)] ∧ (store "k").expiry = some 60
  := by
  have hvalid : ∀ record ∈ ([⟨"k", "zset", [("a", 1)], by decide, by decide⟩,
      ⟨"k", "zset", [("b", 2)], by decide, by decide⟩,
      ⟨"k", "zset", [], by decide, by decide⟩] : List RedisData), record.dataType = "zset" := by
    simp
  obtain ⟨message, hwrite⟩ := (writeRecords_one_by_one
    { batchSize := 2, expireSeconds := 60, batchSize_pos := by decide,
      redisLogEvery_pos := by decide } hvalid (fun _ => SortedSet.empty)).2.2.2
    (.ok ⟨"k", "hash", [], by decide, by decide⟩) [] (by rintro data ⟨⟩; decide)
  exact ⟨message, _, hwrite, by decide +kernel, by decide +kernel⟩

end RedisWriter

end OfflineDataProcessing
