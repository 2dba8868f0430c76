import Mathlib.Data.Nat.Basic

/-!
# Attempts in a loop

An attempt has a number and changes a state; it tells whether it is the last one.  The loop makes a
bounded number of attempts.  What holds after it follows from what one attempt keeps
(`loop_induction`).
-/

namespace Retry

variable {σ : Type*}

/-- At most `n` attempts, of which the first one has the number `k`. -/
def loop (attempt : ℕ → σ → σ × Bool) : ℕ → ℕ → σ → σ
  | 0, _, s => s
  | n + 1, k, s =>
    match attempt k s with
    | (s, true) => s
    | (s, false) => loop attempt n (k + 1) s

/-- When `Before k` holds before the attempt `k` it holds after the loop, unless the loop stops with
an attempt `k`, after which `Stopped k` holds. -/
theorem loop_induction {attempt : ℕ → σ → σ × Bool} {Before Stopped : ℕ → σ → Prop}
    (hnext : ∀ k s, Before k s → (attempt k s).2 = false → Before (k + 1) (attempt k s).1)
    (hstop : ∀ k s, Before k s → (attempt k s).2 = true → Stopped k (attempt k s).1)
    (n k : ℕ) {s : σ} (hs : Before k s) :
  Before (k + n) (loop attempt n k s)
    ∨ ∃ m, k ≤ m ∧ m < k + n ∧ Stopped m (loop attempt n k s)
  := by
  induction n generalizing k s with
  | zero => exact Or.inl hs
  | succ n ih =>
      rw [loop]
      rcases hattempt : attempt k s with ⟨s', last⟩
      cases last with
      | true =>
          right
          have h := hstop k s hs (by rw [hattempt])
          rw [hattempt] at h
          exact ⟨k, Nat.le_refl k, by omega, h⟩
      | false =>
          have h := hnext k s hs (by rw [hattempt])
          rw [hattempt] at h
          rcases ih (k + 1) h with hbefore | ⟨m, hm, hm', hstopped⟩
          · left
            rw [Nat.add_right_comm] at hbefore
            exact hbefore
          · right
            exact ⟨m, by omega, by omega, hstopped⟩

end Retry
