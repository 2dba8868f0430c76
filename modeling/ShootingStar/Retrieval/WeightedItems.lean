import ShootingStar.Retrieval.Retriever

/-!
# Items of weighted channels

Both retrievers read items from three channels in order, and keep the first entry of every item.
`FirstOccurrence channels id score` tells what that entry is, without the loop: the first channel
that has the item, the item's first position in it, and the score of that position.  The entries
collected are those of the first occurrences (`mem_collectWeightedItems`).
-/

namespace RecommendationEngine

variable [Arithmetic ℚ]

/-- Item `id` first occurs in the channels with this score.  In a channel all items before it
count for its position. -/
structure FirstOccurrence (channels : List (List WeightedItem × ℚ)) (id : ℕ) (score : ℚ) : Prop
    where
  pos : 0 < id
  occurs : ∃ channelsBefore channel channelsAfter itemsBefore item itemsAfter,
    channels = channelsBefore ++ channel :: channelsAfter
      ∧ channel.1 = itemsBefore ++ item :: itemsAfter
      ∧ item.itemId = (id : ℤ)
      ∧ (∀ other ∈ channelsBefore.flatMap Prod.fst ++ itemsBefore, other.itemId ≠ (id : ℤ))
      ∧ score = Arithmetic.div
        (Arithmetic.mul channel.2 (if 0 < item.weight then item.weight else 1))
        ((itemsBefore.length : ℚ) + 1)

/-- The channels are fields of a message: an `int` counts their items, and a positive weight is at
least the least positive number of single precision. -/
structure OfMessage (channels : List (List WeightedItem × ℚ)) : Prop where
  length_le : ∀ channel ∈ channels, (channel.1.length : ℤ) ≤ intMax
  le_weight : ∀ channel ∈ channels, ∀ item ∈ channel.1, 0 < item.weight →
    2 ^ (-149 : ℤ) ≤ item.weight

/-- A score in double precision does not vanish where the weight has single precision. -/
theorem weightedScore_pos_of_le {baseScore : ℚ} (hbase : 2 ^ (-2 : ℤ) ≤ baseScore)
    {item : WeightedItem} (hweight : 0 < item.weight → 2 ^ (-149 : ℤ) ≤ item.weight) {index : ℕ}
    (hindex : (index : ℤ) < intMax) :
  0 < weightedScore baseScore item index
  := by
  have hitem : (2 : ℚ) ^ (-149 : ℤ) ≤ if 0 < item.weight then item.weight else 1 := by
    split
    next hpos => exact hweight hpos
    next => norm_num
  have hproduct := Arithmetic.le_mul (by decide) hbase hitem
  have hrank : (index : ℚ) + 1 ≤ 2 ^ (31 : ℤ) := by
    have hle : (index : ℤ) + 1 ≤ 2 ^ 31 := by
      rw [intMax] at hindex
      omega
    exact_mod_cast hle
  have hscore := Arithmetic.le_div (by decide) (by decide) hproduct (Nat.cast_add_one_pos index) hrank
  exact (zpow_pos two_pos _).trans_le hscore

/-- A positive item of the channels has a first occurrence. -/
theorem exists_firstOccurrence {channels : List (List WeightedItem × ℚ)} {id : ℕ}
    (hid : 0 < id) (h : ∃ item ∈ channels.flatMap Prod.fst, item.itemId = (id : ℤ)) :
  ∃ score, FirstOccurrence channels id score
  := by
  obtain ⟨item, hitem, hitemId⟩ := h
  obtain ⟨c, hc, hitem⟩ := List.mem_flatMap.mp hitem
  have hchannel : (channels.find? fun c => c.1.any (·.itemId = (id : ℤ))).isSome := by
    rw [List.find?_isSome]
    use c, hc
    rw [List.any_eq_true]
    exact ⟨item, hitem, decide_eq_true hitemId⟩
  obtain ⟨channel, hfind⟩ := Option.isSome_iff_exists.mp hchannel
  obtain ⟨hany, channelsBefore, channelsAfter, hchannels, hbefore⟩ :=
    List.find?_eq_some_iff_append.mp hfind
  have hfirst : (channel.1.find? (·.itemId = (id : ℤ))).isSome := by
    rw [List.find?_isSome]
    exact List.any_eq_true.mp hany
  obtain ⟨first, hfindItem⟩ := Option.isSome_iff_exists.mp hfirst
  obtain ⟨hfirstId, itemsBefore, itemsAfter, hitems, hitemsBefore⟩ :=
    List.find?_eq_some_iff_append.mp hfindItem
  refine ⟨_, hid, channelsBefore, channel, channelsAfter, itemsBefore, first, itemsAfter,
    hchannels, hitems, of_decide_eq_true hfirstId, ?_, rfl⟩
  intro other hother
  rcases List.mem_append.mp hother with hother | hother
  · obtain ⟨before, hmem, hother⟩ := List.mem_flatMap.mp hother
    have hnone := hbefore before hmem
    rw [Bool.not_eq_true', List.any_eq_false] at hnone
    simpa using hnone other hother
  · simpa using hitemsBefore other hother

/-- The entries of items cut at one of positive identifier. -/
theorem filterMap_weightedEntry_append {σ : Type} (entry : ℕ → ℚ → σ) (baseScore : ℚ)
    (itemsBefore itemsAfter : List WeightedItem) {item : WeightedItem} {id : ℕ} (hpos : 0 < id)
    (hid : item.itemId = (id : ℤ)) :
  ∃ entriesAfter, weightedEntries entry (itemsBefore ++ item :: itemsAfter, baseScore)
    = weightedEntries entry (itemsBefore, baseScore)
      ++ entry id (weightedScore baseScore item itemsBefore.length) :: entriesAfter
  := by
  have hentry : weightedEntry entry baseScore (item, itemsBefore.length)
      = some (entry id (weightedScore baseScore item itemsBefore.length)) := by
    rw [weightedEntry, if_neg (by simp only; omega), hid, Int.toNat_natCast]
  use (itemsAfter.zipIdx (itemsBefore.length + 1)).filterMap (weightedEntry entry baseScore)
  simp only [weightedEntries, List.zipIdx_append, List.zipIdx_cons, Nat.zero_add,
    List.filterMap_append, List.filterMap_cons, hentry]

section Channels

variable {σ : Type} {key : σ → ℕ} {entry : ℕ → ℚ → σ}

theorem key_of_mem_weightedEntries (hkey : ∀ id score, key (entry id score) = id)
    {channel : List WeightedItem × ℚ} {e : σ} (h : e ∈ weightedEntries entry channel) :
  0 < key e ∧ ∃ item ∈ channel.1, item.itemId = (key e : ℤ)
  := by
  obtain ⟨indexed, hmem, he⟩ := List.mem_filterMap.mp h
  rw [weightedEntry] at he
  split at he
  · cases he
  next hid =>
    rw [← Option.some.inj he, hkey]
    constructor
    · omega
    · use indexed.1, List.fst_mem_of_mem_zipIdx hmem
      rw [Int.toNat_of_nonneg (by omega)]

/-- The first entry of an item is that of its first occurrence. -/
theorem find?_weightedEntries (hkey : ∀ id score, key (entry id score) = id)
    {channels : List (List WeightedItem × ℚ)} {id : ℕ} {score : ℚ}
    (h : FirstOccurrence channels id score) :
  (channels.flatMap (weightedEntries entry)).find? (key · = id) = some (entry id score)
  := by
  obtain ⟨hpos, channelsBefore, ⟨items, baseScore⟩, channelsAfter, itemsBefore, item, itemsAfter,
    rfl, rfl, hid, hbefore, rfl⟩ := h
  obtain ⟨entriesAfter, hentries⟩ :=
    filterMap_weightedEntry_append entry baseScore itemsBefore itemsAfter hpos hid
  rw [List.find?_eq_some_iff_append]
  constructor
  · exact decide_eq_true (hkey _ _)
  · refine ⟨channelsBefore.flatMap (weightedEntries entry)
      ++ weightedEntries entry (itemsBefore, baseScore),
      entriesAfter ++ channelsAfter.flatMap (weightedEntries entry), ?_, ?_⟩
    · rw [List.flatMap_append, List.flatMap_cons, hentries]
      simp only [List.append_assoc, List.cons_append]
      rfl
    · intro e he
      have hother : ∃ other ∈ channelsBefore.flatMap Prod.fst ++ itemsBefore,
          other.itemId = (key e : ℤ) := by
        rcases List.mem_append.mp he with he | he
        · obtain ⟨channel, hchannel, he⟩ := List.mem_flatMap.mp he
          obtain ⟨-, other, hother, hkeyOther⟩ := key_of_mem_weightedEntries hkey he
          exact ⟨other, List.mem_append_left _ (List.mem_flatMap_of_mem hchannel hother),
            hkeyOther⟩
        · obtain ⟨-, other, hother, hkeyOther⟩ := key_of_mem_weightedEntries hkey he
          exact ⟨other, List.mem_append_right _ hother, hkeyOther⟩
      obtain ⟨other, hother, hkeyOther⟩ := hother
      have hne := hbefore other hother
      rw [hkeyOther] at hne
      simpa using hne

/-- The entries collected from the channels are those of first occurrences. -/
theorem mem_collectWeightedItems (hkey : ∀ id score, key (entry id score) = id)
    {channel₁ channel₂ channel₃ : List WeightedItem × ℚ} {e : σ} :
  e ∈ collectWeightedItems key entry channel₁ channel₂ channel₃
    ↔ ∃ score, FirstOccurrence [channel₁, channel₂, channel₃] (key e) score
      ∧ e = entry (key e) score
  := by
  have hentry : ∀ score, FirstOccurrence [channel₁, channel₂, channel₃] (key e) score →
      (collectWeightedItems key entry channel₁ channel₂ channel₃).filter (key · = key e)
        = [entry (key e) score] := by
    intro score hfirst
    rw [collectWeightedItems_eq, Keyed.filter_firsts, find?_weightedEntries hkey hfirst]
    rfl
  constructor
  · intro he
    have hmem := he
    rw [collectWeightedItems_eq] at hmem
    obtain ⟨channel, hchannel, hmem⟩ :=
      List.mem_flatMap.mp ((Keyed.firsts_sublist _ _).subset hmem)
    obtain ⟨hpos, item, hitem, hid⟩ := key_of_mem_weightedEntries hkey hmem
    obtain ⟨score, hfirst⟩ := exists_firstOccurrence hpos
      ⟨item, List.mem_flatMap_of_mem hchannel hitem, hid⟩
    use score, hfirst
    rw [← List.mem_singleton, ← hentry score hfirst, List.mem_filter]
    exact ⟨he, decide_eq_true rfl⟩
  · rintro ⟨score, hfirst, he⟩
    rw [he]
    apply List.mem_of_mem_filter (p := (key · = key e))
    rw [hentry score hfirst]
    apply List.mem_singleton_self

end Channels

end RecommendationEngine
