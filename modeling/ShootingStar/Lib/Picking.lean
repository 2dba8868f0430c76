import Mathlib.Data.List.Perm.Basic
import Mathlib.Data.List.Nodup
import Mathlib.Algebra.BigOperators.Group.List.Basic
import Mathlib.Algebra.Order.Group.Int
import Mathlib.Algebra.GroupWithZero.Nat
import Mathlib.Tactic.Push

/-!
# Picking from several rankings

`pick` goes over a ranking and picks usable entries of keys that have not been picked, until enough
entries have been picked in all or a quota of this ranking is used up.  What one ranking adds is a
`Pass`.

A ranking without a quota picks every usable entry or fills up (`length_pick_of_mem`).  When the
quotas fit, each of several rankings picks its quota of entries before an entry that is left out
(`exists_picks`).
-/

namespace Picking

universe u v

variable {α : Type u} {κ : Type v} (key : α → κ) (usable : α → Prop) (target : ℤ)

/-! ### What a ranking adds -/

/-- What a ranking adds to the entries picked before. -/
structure Pass (ranked : List α) (quota : Option ℕ) (before added : List α) : Prop where
  sublist : added.Sublist ranked
  all_usable : ∀ a ∈ added, usable a
  fresh : ∀ a ∈ added, key a ∉ before.map key
  nodup : (added.map key).Nodup
  length_le : ∀ q, quota = some q → added.length ≤ q
  room : added ≠ [] → (before ++ added).length ≤ target
  ended : target ≤ (before ++ added).length ∨ quota = some added.length
    ∨ ∀ a ∈ ranked, usable a → key a ∈ (before ++ added).map key
  first : ∀ {r : α → α → Prop}, ranked.Pairwise r → ∀ b ∈ ranked, usable b →
    key b ∉ (before ++ added).map key → ∀ a ∈ added, r a b

variable {key usable target}

/-- Nothing is added where the loop ends at once. -/
theorem Pass.nil {ranked : List α} {quota : Option ℕ} {before : List α}
    (h : target ≤ before.length ∨ quota = some 0 ∨ ranked = []) :
  Pass key usable target ranked quota before []
  := by
  constructor
  case sublist => exact List.nil_sublist _
  case all_usable => exact fun a ha => absurd ha List.not_mem_nil
  case fresh => exact fun a ha => absurd ha List.not_mem_nil
  case nodup => exact List.nodup_nil
  case length_le => exact fun q _ => Nat.zero_le q
  case room => exact fun hne => absurd rfl hne
  case ended =>
    rw [List.append_nil]
    rcases h with h | h | rfl
    · exact Or.inl h
    · exact Or.inr (Or.inl h)
    · exact Or.inr (Or.inr fun a ha => absurd ha List.not_mem_nil)
  case first => exact fun _ b _ _ _ a ha => absurd ha List.not_mem_nil

/-- An entry that is not picked. -/
theorem Pass.skip {a : α} {ranked : List α} {quota : Option ℕ} {before added : List α}
    (h : Pass key usable target ranked quota before added)
    (hskip : key a ∈ before.map key ∨ ¬ usable a) :
  Pass key usable target (a :: ranked) quota before added
  := by
  have hseen : usable a → key a ∈ (before ++ added).map key := by
    intro ha
    rw [List.map_append]
    exact List.mem_append_left _ (hskip.resolve_right (not_not.mpr ha))
  constructor
  case sublist => exact h.sublist.cons a
  case all_usable => exact h.all_usable
  case fresh => exact h.fresh
  case nodup => exact h.nodup
  case length_le => exact h.length_le
  case room => exact h.room
  case ended =>
    rcases h.ended with hfull | hquota | hall
    · exact Or.inl hfull
    · exact Or.inr (Or.inl hquota)
    · refine Or.inr (Or.inr ?_)
      intro b hb husable
      rcases List.mem_cons.mp hb with rfl | hb
      · exact hseen husable
      · exact hall b hb husable
  case first =>
    intro r hr b hb husable hout
    rcases List.mem_cons.mp hb with rfl | hb
    · exact absurd (hseen husable) hout
    · exact h.first (List.pairwise_cons.mp hr).2 b hb husable hout

/-- An entry that is picked. -/
theorem Pass.cons {a : α} {ranked : List α} {quota : Option ℕ} {before added : List α}
    (h : Pass key usable target ranked (quota.map (· - 1)) (before ++ [a]) added)
    (hroom : before.length < target) (hquota : quota ≠ some 0) (hfresh : key a ∉ before.map key)
    (husable : usable a) :
  Pass key usable target (a :: ranked) quota before (a :: added)
  := by
  have hassoc : before ++ a :: added = before ++ [a] ++ added := by
    rw [List.append_assoc, List.singleton_append]
  have hkeys : (before ++ [a]).map key = before.map key ++ [key a] := by
    rw [List.map_append, List.map_singleton]
  constructor
  case sublist => exact h.sublist.cons_cons a
  case all_usable => exact List.forall_mem_cons.mpr ⟨husable, h.all_usable⟩
  case fresh =>
    intro b hb hmem
    rcases List.mem_cons.mp hb with rfl | hb
    · exact hfresh hmem
    · apply h.fresh b hb
      rw [hkeys]
      exact List.mem_append_left _ hmem
  case nodup =>
    rw [List.map_cons, List.nodup_cons]
    refine ⟨?_, h.nodup⟩
    intro hmem
    obtain ⟨b, hb, hkey⟩ := List.mem_map.mp hmem
    apply h.fresh b hb
    rw [hkeys, hkey]
    exact List.mem_append_right _ (List.mem_singleton_self _)
  case length_le =>
    rintro q rfl
    have hle := h.length_le (q - 1) rfl
    have hpos : q ≠ 0 := fun hzero => hquota (congrArg some hzero)
    rw [List.length_cons]
    omega
  case room =>
    intro _
    rw [hassoc]
    by_cases hnil : added = []
    · rw [hnil, List.append_nil, List.length_append, List.length_singleton]
      omega
    · exact h.room hnil
  case ended =>
    rw [hassoc]
    rcases h.ended with hfull | hlast | hall
    · exact Or.inl hfull
    · refine Or.inr (Or.inl ?_)
      cases quota with
      | none => cases hlast
      | some q =>
          have hpos : q ≠ 0 := fun hzero => hquota (congrArg some hzero)
          have hlength : q - 1 = added.length := Option.some.inj hlast
          rw [List.length_cons]
          congr 1
          omega
    · refine Or.inr (Or.inr ?_)
      intro b hb hb'
      rcases List.mem_cons.mp hb with rfl | hb
      · rw [List.map_append, hkeys]
        simp
      · exact hall b hb hb'
  case first =>
    intro r hr b hb hb' hout
    obtain ⟨ha, hr⟩ := List.pairwise_cons.mp hr
    rw [hassoc] at hout
    rcases List.mem_cons.mp hb with rfl | hb
    · refine absurd ?_ hout
      rw [List.map_append, hkeys]
      simp
    · exact List.forall_mem_cons.mpr ⟨ha b hb, h.first hr b hb hb' hout⟩

/-! ### Choices among candidates -/

variable (key usable target)

/-- Usable entries of `candidates` with distinct keys, not more than the target. -/
structure Choice (candidates picked : List α) : Prop where
  mem : ∀ a ∈ picked, a ∈ candidates
  all_usable : ∀ a ∈ picked, usable a
  nodup : (picked.map key).Nodup
  length_le : (picked.length : ℤ) ≤ max target 0

theorem Choice.nil (candidates : List α) :
  Choice key usable target candidates []
  := ⟨by simp, by simp, List.nodup_nil, le_max_right target 0⟩

variable {key usable target}

/-- A choice is no larger than the number of usable candidates. -/
theorem Choice.length_le_countP [DecidablePred usable] {candidates picked : List α}
    (h : Choice key usable target candidates picked) :
  picked.length ≤ candidates.countP (fun a => decide (usable a))
  := by
  rw [List.countP_eq_length_filter]
  apply List.Subperm.length_le
  apply List.subperm_of_subset (List.Nodup.of_map key h.nodup)
  intro a ha
  exact List.mem_filter.mpr ⟨h.mem a ha, decide_eq_true (h.all_usable a ha)⟩

/-- A choice as large as the number of usable candidates has all of them. -/
theorem Choice.perm_filter [DecidablePred usable] {candidates picked : List α}
    (h : Choice key usable target candidates picked)
    (hle : candidates.countP (fun a => decide (usable a)) ≤ picked.length) :
  picked.Perm (candidates.filter fun a => decide (usable a))
  := by
  rw [List.countP_eq_length_filter] at hle
  have hsubset : picked ⊆ candidates.filter fun a => decide (usable a) := by
    intro a ha
    exact List.mem_filter.mpr ⟨h.mem a ha, decide_eq_true (h.all_usable a ha)⟩
  exact (List.subperm_of_subset (List.Nodup.of_map key h.nodup) hsubset).perm_of_length_le hle

/-! ### One ranking -/

variable [DecidableEq κ] [DecidablePred usable]

variable (key usable target)

/-- The entries picked when a ranking has been gone over; without a quota only `target` ends the
loop. -/
def pick : List α → Option ℕ → List α → List α
  | [], _, picked => picked
  | a :: ranked, quota, picked =>
    if target ≤ picked.length ∨ quota = some 0 then picked
    else if key a ∈ picked.map key ∨ ¬ usable a then pick ranked quota picked
    else pick ranked (quota.map (· - 1)) (picked ++ [a])

/-- A ranking adds a pass. -/
theorem exists_pass (ranked : List α) (quota : Option ℕ) (before : List α) :
  ∃ added, pick key usable target ranked quota before = before ++ added
    ∧ Pass key usable target ranked quota before added
  := by
  induction ranked generalizing quota before with
  | nil => exact ⟨[], (List.append_nil _).symm, Pass.nil (Or.inr (Or.inr rfl))⟩
  | cons a ranked ih =>
      rw [pick]
      split
      next hend =>
        refine ⟨[], (List.append_nil _).symm, Pass.nil ?_⟩
        exact hend.imp_right Or.inl
      next hgo =>
        push Not at hgo
        split
        next hskip =>
          obtain ⟨added, heq, hpass⟩ := ih quota before
          exact ⟨added, heq, hpass.skip hskip⟩
        next htake =>
          push Not at htake
          obtain ⟨added, heq, hpass⟩ := ih (quota.map (· - 1)) (before ++ [a])
          refine ⟨a :: added, ?_, hpass.cons hgo.1 hgo.2 htake.1 htake.2⟩
          rw [heq, List.append_assoc, List.singleton_append]

variable {key usable target}

/-- A full choice is not changed. -/
theorem pick_of_full {ranked : List α} {quota : Option ℕ} {picked : List α}
    (h : target ≤ picked.length) :
  pick key usable target ranked quota picked = picked
  := by
  cases ranked with
  | nil => rfl
  | cons a ranked => rw [pick, if_pos (Or.inl h)]

/-- A ranking of candidates keeps a choice a choice. -/
theorem Choice.pick {candidates ranked before : List α}
    (h : Choice key usable target candidates before) (hranked : ranked ⊆ candidates)
    (quota : Option ℕ) :
  Choice key usable target candidates (pick key usable target ranked quota before)
  := by
  obtain ⟨added, heq, hpass⟩ := exists_pass key usable target
    ranked quota before
  rw [heq]
  constructor
  case mem =>
    intro a ha
    rcases List.mem_append.mp ha with ha | ha
    · exact h.mem a ha
    · exact hranked (hpass.sublist.subset ha)
  case all_usable => exact List.forall_mem_append.mpr ⟨h.all_usable, hpass.all_usable⟩
  case nodup =>
    rw [List.map_append]
    apply h.nodup.append hpass.nodup
    intro k hk hk'
    obtain ⟨a, ha, rfl⟩ := List.mem_map.mp hk'
    exact hpass.fresh a ha hk
  case length_le =>
    by_cases hnil : added = []
    · rw [hnil, List.append_nil]
      exact h.length_le
    · exact (hpass.room hnil).trans (le_max_left _ _)

/-- A last ranking of all candidates without a quota picks as many usable entries as there are, up to
the target. -/
theorem length_pick_of_mem {candidates ranked before : List α}
    (hkeys : (candidates.map key).Nodup) (h : Choice key usable target candidates before)
    (hranked : ranked ⊆ candidates) (hall : candidates ⊆ ranked) :
  ((pick key usable target ranked none before).length : ℤ)
    = min (max target 0) (candidates.countP fun a => decide (usable a))
  := by
  have hchoice := h.pick hranked none
  have hcount := hchoice.length_le_countP
  have hlength := hchoice.length_le
  apply le_antisymm
  · exact le_min hlength (by exact_mod_cast hcount)
  obtain ⟨added, heq, hpass⟩ := exists_pass key usable target
    ranked none before
  rw [heq] at hchoice hlength ⊢
  rcases hpass.ended with hfull | hquota | hended
  · apply (min_le_left _ _).trans
    exact max_le hfull (by omega)
  · cases hquota
  · apply (min_le_right _ _).trans
    have hsubset : (candidates.filter fun a => decide (usable a)).map key
        ⊆ (before ++ added).map key := by
      intro k hk
      obtain ⟨a, ha, rfl⟩ := List.mem_map.mp hk
      obtain ⟨ha, husable⟩ := List.mem_filter.mp ha
      exact hended a (hall ha) (of_decide_eq_true husable)
    have hnodup : ((candidates.filter fun a => decide (usable a)).map key).Nodup :=
      (List.filter_sublist.map key).nodup hkeys
    have hle := (List.subperm_of_subset hnodup hsubset).length_le
    rw [List.length_map, List.length_map, ← List.countP_eq_length_filter] at hle
    exact_mod_cast hle

/-! ### Several rankings -/

variable (key usable target)

/-- Several rankings with their quotas, one after another. -/
def pickEach (rankings : List (List α × ℕ)) (picked : List α) : List α :=
  rankings.foldl (fun picked ranking => pick key usable target ranking.1 (some ranking.2) picked)
    picked

variable {key usable target}

theorem Choice.pickEach {candidates : List α} {rankings : List (List α × ℕ)} {before : List α}
    (h : Choice key usable target candidates before)
    (hrankings : ∀ ranking ∈ rankings, ranking.1 ⊆ candidates) :
  Choice key usable target candidates (pickEach key usable target rankings before)
  := by
  induction rankings generalizing before with
  | nil => exact h
  | cons ranking rankings ih =>
      obtain ⟨hfirst, hrest⟩ := List.forall_mem_cons.mp hrankings
      exact ih (h.pick hfirst (some ranking.2)) hrest

/-- What has been picked stays. -/
theorem begins_pick (ranked : List α) (quota : Option ℕ) (before : List α) :
  before <+: pick key usable target ranked quota before
  := by
  obtain ⟨added, heq, -⟩ := exists_pass key usable target
    ranked quota before
  rw [heq]
  exact List.prefix_append before added

theorem begins_pickEach (rankings : List (List α × ℕ)) (before : List α) :
  before <+: pickEach key usable target rankings before
  := by
  induction rankings generalizing before with
  | nil => exact List.prefix_rfl
  | cons ranking rankings ih => exact (begins_pick _ _ before).trans (ih _)

variable (key usable target)

/-- When the quotas fit, each ranking picks its quota of entries before an entry that none has
picked. -/
theorem exists_picks (rankings : List (List α × ℕ)) (before : List α)
    (hroom : (before.length + (rankings.map Prod.snd).sum : ℕ) ≤ target) :
  ∃ picks : List (List α), pickEach key usable target rankings before = before ++ picks.flatten
    ∧ ∀ b, (∀ ranking ∈ rankings, b ∈ ranking.1) → usable b →
      key b ∉ (pickEach key usable target rankings before).map key →
      List.Forall₂ (fun ranking picked => picked.length = ranking.2
        ∧ ∀ r : α → α → Prop, ranking.1.Pairwise r → ∀ a ∈ picked, r a b) rankings picks
  := by
  induction rankings generalizing before with
  | nil => exact ⟨[], (List.append_nil _).symm, fun _ _ _ _ => List.Forall₂.nil⟩
  | cons ranking rankings ih =>
      obtain ⟨added, heq, hpass⟩ := exists_pass key usable target
        ranking.1 (some ranking.2) before
      have hquota := hpass.length_le ranking.2 rfl
      rw [List.map_cons, List.sum_cons] at hroom
      obtain ⟨picks, hpicks, hfirst⟩ := ih (before ++ added) (by
        rw [List.length_append]
        omega)
      have hstep : pickEach key usable target (ranking :: rankings) before
          = pickEach key usable target rankings (before ++ added) := by
        rw [pickEach, List.foldl_cons, heq]
        rfl
      refine ⟨added :: picks, ?_, ?_⟩
      · rw [hstep, hpicks, List.flatten_cons, List.append_assoc]
      · intro b hb husable hout
        obtain ⟨hmem, hb⟩ := List.forall_mem_cons.mp hb
        rw [hstep] at hout
        have hbefore : key b ∉ (before ++ added).map key := by
          intro hin
          apply hout
          exact ((begins_pickEach rankings _).sublist.map key).subset hin
        refine List.Forall₂.cons ⟨?_, ?_⟩ (hfirst b hb husable hout)
        · rcases hpass.ended with hfull | hlast | hall
          · rw [List.length_append] at hfull
            omega
          · exact (Option.some.inj hlast).symm
          · exact absurd (hall b hmem husable) hbefore
        · exact fun r hr => hpass.first hr b hmem husable hbefore

end Picking
