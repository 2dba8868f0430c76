import Mathlib.Data.List.MinMax
import Mathlib.Data.Prod.Lex
import ShootingStar.Lib.Combinations
import ShootingStar.Lib.Greatest
import ShootingStar.Lib.Keyed
import ShootingStar.Lib.Ranked
import ShootingStar.Offline.PairReduction

/-!
# Interactions

The interactions of a user are with items, and those of an item with users.  Both builders keep
of several interactions with the same member the one of greatest weight, and of those the latest
(`dedupe_eq_strongest`), and go over the members they select in the order of their identifiers.
-/

namespace OfflineDataProcessing

variable {K : Type*} [LinearOrder K]

/-- An interaction with a member, which is an item or a user. -/
structure Interaction (K : Type*) where
  memberId : ℤ
  weight : K
  timestamp : ℤ
  deriving DecidableEq, Repr

/-- A member with the weight of its interaction. -/
structure WeightedMember (K : Type*) where
  memberId : ℤ
  weight : K
  deriving DecidableEq, Repr

/-! ### One interaction for each member -/

/-- The strength of an interaction: its weight, then its time. -/
def Interaction.strength (x : Interaction K) : K ×ₗ ℤ :=
  toLex (x.weight, x.timestamp)

/-- A stronger interaction replaces the one kept so far. -/
def keepStronger (x : Interaction K) : Option (Interaction K) → Interaction K
  | none => x
  | some existing => if existing.strength < x.strength then x else existing

/-- One interaction for each member, in the order the members are first seen. -/
def dedupe (interactions : List (Interaction K)) : List (Interaction K) :=
  (Keyed.collect Interaction.memberId keepStronger interactions).map Prod.snd

/-- The order of strengths is the one of pairs of linear orders. -/
instance Interaction.preorderStrength : Preorder (K ×ₗ ℤ) :=
  (Prod.Lex.instLinearOrder K ℤ).toPartialOrder.toPreorder

/-- The strongest interaction with each member. -/
def strongest (interactions : List (Interaction K)) : List (Interaction K) :=
  (Keyed.groups Interaction.memberId interactions).filterMap fun g =>
    g.2.argmax Interaction.strength

/-- What is kept is the greatest interaction by strength. -/
theorem keepStronger_eq :
  (keepStronger : Interaction K → _) = Greatest.keep Interaction.strength
  := by
  funext x existing
  cases existing with
  | none => rfl
  | some existing =>
      rw [keepStronger, Greatest.keep]

theorem dedupe_eq_greatest (interactions : List (Interaction K)) :
  dedupe interactions = Greatest.greatest Interaction.memberId Interaction.strength interactions
  := by
  rw [dedupe, keepStronger_eq]
  rfl

theorem accumulate_keepStronger (interactions : List (Interaction K)) :
  Keyed.accumulate keepStronger interactions = interactions.argmax Interaction.strength
  := by
  rw [keepStronger_eq]
  exact Greatest.accumulate_keep Interaction.strength interactions

/-- The loop keeps the strongest interaction with each member. -/
theorem dedupe_eq_strongest (interactions : List (Interaction K)) :
  dedupe interactions = strongest interactions
  := by
  have h := Keyed.collect_eq_groups Interaction.memberId keepStronger interactions
  simp only [accumulate_keepStronger] at h
  have hvalues : ((Keyed.collect Interaction.memberId keepStronger interactions).map
        fun p => (p.1, some p.2)).filterMap Prod.snd
      = ((Keyed.groups Interaction.memberId interactions).map
        fun g => (g.1, g.2.argmax Interaction.strength)).filterMap Prod.snd := congrArg _ h
  rw [List.filterMap_map, List.filterMap_map] at hvalues
  rw [strongest, dedupe, ← List.filterMap_eq_map]
  exact hvalues

/-- An interaction kept is one of the interactions. -/
theorem mem_of_mem_dedupe {interactions : List (Interaction K)} {x : Interaction K}
    (h : x ∈ dedupe interactions) :
  x ∈ interactions
  := by
  rw [dedupe_eq_greatest] at h
  exact Greatest.mem_of_mem_greatest h

/-- The members of the interactions kept. -/
theorem map_memberId_dedupe (interactions : List (Interaction K)) :
  (dedupe interactions).map Interaction.memberId
    = (interactions.map Interaction.memberId).eraseDups
  := by
  rw [dedupe_eq_greatest]
  apply Greatest.map_key_greatest

theorem nodup_map_memberId_dedupe (interactions : List (Interaction K)) :
  ((dedupe interactions).map Interaction.memberId).Nodup
  := by
  rw [dedupe_eq_greatest]
  apply Greatest.nodup_map_key_greatest

/-! ### Members in order -/

/-- The member of an interaction. -/
def Interaction.member (x : Interaction K) : WeightedMember K :=
  { memberId := x.memberId
    weight := x.weight }

/-- The rank of a member: its identifier, then its weight. -/
def WeightedMember.rank (m : WeightedMember K) : ℤ ×ₗ K :=
  toLex (m.memberId, m.weight)

/-- Members sorted by rank. -/
def sortedMembers (members : List (WeightedMember K)) : List (WeightedMember K) :=
  Ranked.sortBy (fun a b => a.rank < b.rank) members

theorem compares_rank :
  Ranked.Compares (fun a b : WeightedMember K => decide (a.rank < b.rank)) WeightedMember.rank
  := fun _ _ => decide_eq_true_iff

/-- Distinct members are strictly sorted by identifier. -/
theorem pairwise_sortedMembers {members : List (WeightedMember K)}
    (h : (members.map WeightedMember.memberId).Nodup) :
  (sortedMembers members).Pairwise (fun a b => a.memberId < b.memberId)
  := by
  have hnodup : ((sortedMembers members).map WeightedMember.memberId).Nodup :=
    ((Ranked.sortBy_perm _ members).map _).nodup_iff.mpr h
  apply (Ranked.pairwise_sortBy compares_rank members).imp₂ _ (List.pairwise_map.mp hnodup)
  intro a b hab hne
  rcases Prod.Lex.toLex_le_toLex.mp hab with hlt | ⟨heq, -⟩
  · exact hlt
  · exact absurd heq hne

/-- The pairs of distinct members, in any order. -/
theorem combinations_sortedMembers_perm {members : List (WeightedMember K)}
    (h : (members.map WeightedMember.memberId).Nodup) :
  (Combinations.combinations (sortedMembers members)).Perm
    (Combinations.orderedPairs WeightedMember.memberId members)
  := by
  rw [Combinations.combinations_eq_orderedPairs (pairwise_sortedMembers h)]
  apply Combinations.orderedPairs_perm
  exact Ranked.sortBy_perm _ members

/-- The contribution of a pair of members, in this order. -/
def contribution [Mul K] (left right : WeightedMember K) : PairContribution K :=
  { leftId := left.memberId
    rightId := right.memberId
    weight := left.weight * right.weight }

end OfflineDataProcessing
