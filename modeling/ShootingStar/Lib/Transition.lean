import Mathlib.Data.Option.Basic

/-!
# Transition systems

A system moves from state to state by actions; an action that is not enabled in a state has no
next state.  What holds of a state and is preserved by every step holds after every run.
-/

namespace Transition

variable {σ α : Type*}

/-- The state after a list of actions, the earliest first. -/
def run (step : σ → α → Option σ) : σ → List α → Option σ
  | s, [] => some s
  | s, a :: acts => (step s a).bind fun s' => run step s' acts

/-- An invariant of the steps holds after every run. -/
theorem run_invariant {step : σ → α → Option σ} {P : σ → Prop}
    (hstep : ∀ s a s', P s → step s a = some s' → P s') {s s' : σ} {acts : List α} (hs : P s)
    (hrun : run step s acts = some s') :
  P s'
  := by
  induction acts generalizing s with
  | nil =>
      obtain rfl := Option.some.inj hrun
      apply hs
  | cons a acts ih =>
      obtain ⟨t, ht, hrest⟩ := Option.bind_eq_some_iff.mp hrun
      apply ih (hstep s a t hs ht) hrest

end Transition
