import Mathlib.Data.List.Induction

/-!
# Traces

A trace lists what happened, the earliest first.  `EachAfter P l` tells that every entry of `l`
satisfies `P` given the entries before it, and is proved one entry at a time
(`eachAfter_concat`).
-/

namespace Trace

variable {α : Type*} {P : List α → α → Prop}

/-- Every entry satisfies `P` given the entries before it. -/
def EachAfter (P : List α → α → Prop) (l : List α) : Prop :=
  ∀ before x after, l = before ++ x :: after → P before x

@[simp]
theorem eachAfter_nil (P : List α → α → Prop) :
  EachAfter P []
  := by
  intro before x after h
  simp at h

theorem eachAfter_singleton {x : α} :
  EachAfter P [x] ↔ P [] x
  := by
  constructor
  · intro h
    exact h [] x [] rfl
  · intro hx before y after h
    cases before with
    | nil =>
        rw [← List.head_eq_of_cons_eq h]
        exact hx
    | cons z before => simp at h

/-- The entries of the second part come after those of the first. -/
theorem eachAfter_append {l l' : List α} :
  EachAfter P (l ++ l') ↔ EachAfter P l ∧ EachAfter (fun before => P (l ++ before)) l'
  := by
  constructor
  · intro h
    constructor
    · intro before x after hl
      apply h before x (after ++ l')
      rw [hl, List.append_assoc, List.cons_append]
    · intro before x after hl
      apply h (l ++ before) x after
      rw [hl, List.append_assoc]
  · rintro ⟨hl, hl'⟩ before x after h
    rcases List.append_eq_append_iff.mp h with ⟨m, rfl, rfl⟩ | ⟨m, rfl, hm⟩
    · exact hl' m x after rfl
    · cases m with
      | nil => simpa using hl' [] x after hm.symm
      | cons y m =>
          obtain ⟨rfl, rfl⟩ := List.cons.inj hm
          exact hl before x m rfl

/-- One entry less at the front. -/
@[simp]
theorem eachAfter_cons {x : α} {l : List α} :
  EachAfter P (x :: l) ↔ P [] x ∧ EachAfter (fun before => P (x :: before)) l
  := by
  rw [← List.singleton_append, eachAfter_append, eachAfter_singleton]
  rfl

/-- One entry more. -/
theorem eachAfter_concat {l : List α} {x : α} :
  EachAfter P (l ++ [x]) ↔ EachAfter P l ∧ P l x
  := by
  rw [eachAfter_append, eachAfter_singleton, List.append_nil]

/-- What is kept when more entries come before. -/
theorem EachAfter.mono {Q : List α → α → Prop} {l : List α} (h : EachAfter P l)
    (hPQ : ∀ before x, P before x → Q before x) :
  EachAfter Q l
  := fun before x after hl => hPQ before x (h before x after hl)

end Trace
