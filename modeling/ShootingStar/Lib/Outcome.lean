import Mathlib.Control.Basic
import Mathlib.Data.List.Basic

/-!
# Outcomes

The outcome of a computation that may throw is its result, or nothing when it throws; the message is
left out.  A reading `InMessages` shows its argument in its messages only, so its outcome is the same
for all arguments.
-/

universe u

namespace Outcome

variable {ε ε' : Type u} {α β σ : Type u} {ι κ κ' : Type*}

/-! ### Outcomes of computations -/

theorem toOption_bind (x : Except ε α) (f : α → Except ε β) :
  (x >>= f).toOption = x.toOption.bind fun a => (f a).toOption
  := by
  cases x with
  | error e => rfl
  | ok a => rfl

theorem toOption_map (f : α → β) (x : Except ε α) :
  (x.map f).toOption = x.toOption.map f
  := by
  cases x with
  | error e => rfl
  | ok a => rfl

theorem toOption_eq_some {x : Except ε α} {a : α} (h : x.toOption = some a) :
  x = .ok a
  := by
  cases x with
  | error e => cases h
  | ok a' => exact congrArg Except.ok (Option.some.inj h)

theorem toOption_mapError (f : ε → ε') (x : Except ε α) :
  (x.mapError f).toOption = x.toOption
  := by
  cases x with
  | error e => rfl
  | ok a => rfl

theorem eq_error_of_map {f : α → β} {x : Except ε α} {e : ε} (h : f <$> x = .error e) :
  x = .error e
  := by
  cases x with
  | error e' => exact congrArg Except.error (Except.error.inj h)
  | ok a => cases h

theorem mapError_eq_error {x : Except ε α} {f : ε → ε'} {e : ε'}
    (h : x.mapError f = .error e) :
  ∃ e', x = .error e' ∧ f e' = e
  := by
  cases x with
  | error e' => exact ⟨e', rfl, Except.error.inj h⟩
  | ok a => cases h

theorem mapError_eq_ok {x : Except ε α} {f : ε → ε'} {a : α}
    (h : x.mapError f = .ok a) :
  x = .ok a
  := by
  cases x with
  | error e => cases h
  | ok a' => exact congrArg Except.ok (Except.ok.inj h)

/-- A loop throws when one of its steps throws. -/
theorem toOption_mapM (f : ι → Except ε α) (l : List ι) :
  (l.mapM f).toOption = l.mapM fun x => (f x).toOption
  := by
  induction l with
  | nil => rfl
  | cons x l ih =>
      rw [List.mapM_cons, List.mapM_cons, toOption_bind]
      congr 1
      funext y
      rw [toOption_bind, ih]
      rfl

/-- A loop that throws does so at its first step that does. -/
theorem exists_of_mapM_eq_error {f : ι → Except ε α} {l : List ι} {e : ε}
    (h : l.mapM f = .error e) :
  ∃ before x after, l = before ++ x :: after ∧ (∀ y ∈ before, ∃ a, f y = .ok a) ∧ f x = .error e
  := by
  induction l with
  | nil => cases h
  | cons x l ih =>
      rw [List.mapM_cons] at h
      cases hx : f x with
      | error e' =>
          rw [hx] at h
          obtain rfl := Except.error.inj h
          exact ⟨[], x, l, rfl, fun _ hy => absurd hy List.not_mem_nil, hx⟩
      | ok a =>
          cases hl : l.mapM f with
          | ok as =>
              rw [hx, hl] at h
              cases h
          | error e' =>
              rw [hx, hl] at h
              obtain rfl := Except.error.inj h
              obtain ⟨before, y, after, rfl, hbefore, hy⟩ := ih hl
              refine ⟨x :: before, y, after, rfl, ?_, hy⟩
              intro z hz
              rcases List.mem_cons.mp hz with rfl | hz
              · exact ⟨a, hx⟩
              · exact hbefore z hz

/-- A loop that reads each entry and then takes it in reads all of them first. -/
theorem foldlM_eq_map_mapM {m : Type u → Type*} [Monad m] [LawfulMonad m] (f : ι → m α)
    (g : σ → α → σ) (l : List ι) (s : σ) :
  (l.foldlM (fun s x => do
      let y ← f x
      pure (g s y)) s) = (fun ys => ys.foldl g s) <$> l.mapM f
  := by
  induction l generalizing s with
  | nil => rw [List.foldlM_nil, List.mapM_nil, map_pure, List.foldl_nil]
  | cons x l ih =>
      rw [List.foldlM_cons, List.mapM_cons, map_bind, bind_assoc]
      congr 1
      funext y
      rw [pure_bind, ih, map_bind, ← bind_pure_comp]
      congr 1
      funext ys
      rw [map_pure, List.foldl_cons]

theorem toOption_foldlM (f : ι → Except ε α) (g : σ → α → σ) (l : List ι) (s : σ) :
  (l.foldlM (fun s x => do
      let y ← f x
      pure (g s y)) s).toOption
    = (l.mapM fun x => (f x).toOption).map fun ys => ys.foldl g s
  := by
  rw [foldlM_eq_map_mapM, ← toOption_mapM]
  exact toOption_map _ _

/-- Two passes over a list, or one that does both for each entry. -/
theorem mapM_bind (f : ι → Option α) (g : α → Option β) (l : List ι) :
  (l.mapM fun x => (f x).bind g) = (l.mapM f).bind fun ys => ys.mapM g
  := by
  induction l with
  | nil => rfl
  | cons x l ih =>
      rw [List.mapM_cons, List.mapM_cons, ih]
      cases f x with
      | none => rfl
      | some y =>
          cases l.mapM f with
          | none => cases h : g y <;> simp [h]
          | some ys => simp [List.mapM_cons]

/-- A loop with a result for each entry. -/
theorem map_of_mapM_eq_some {f : ι → Option α} {l : List ι} {ys : List α}
    (h : l.mapM f = some ys) :
  l.map f = ys.map some
  := by
  induction l generalizing ys with
  | nil =>
      obtain rfl := Option.some.inj h
      rfl
  | cons x l ih =>
      rw [List.mapM_cons] at h
      obtain ⟨y, hx, h⟩ := Option.bind_eq_some_iff.mp h
      obtain ⟨rest, hl, h⟩ := Option.bind_eq_some_iff.mp h
      obtain rfl := Option.some.inj h
      rw [List.map_cons, List.map_cons, hx, ih hl]

/-! ### Arguments that are seen in messages only -/

/-- A reading whose argument is seen in its messages only. -/
def InMessages (read : κ → Except ε α) : Prop :=
  ∀ c c', (read c).toOption = (read c').toOption

theorem inMessages_const (x : Except ε α) :
  InMessages fun _ : κ => x
  := fun _ _ => rfl

theorem inMessages_error (message : κ → ε) :
  InMessages fun c => (.error (message c) : Except ε α)
  := fun _ _ => rfl

namespace InMessages

theorem comp {read : κ → Except ε α} (h : InMessages read) (f : κ' → κ) :
  InMessages fun c => read (f c)
  := fun c c' => h (f c) (f c')

theorem bind {read : κ → Except ε α} {f : κ → α → Except ε β} (h : InMessages read)
    (hf : ∀ a, InMessages fun c => f c a) :
  InMessages fun c => read c >>= f c
  := by
  intro c c'
  rw [toOption_bind, toOption_bind, h c c']
  congr 1
  funext a
  exact hf a c c'

theorem map {read : κ → Except ε α} (h : InMessages read) (f : α → β) :
  InMessages fun c => (read c).map f
  := by
  intro c c'
  rw [toOption_map, toOption_map, h c c']

theorem mapM {read : κ → ι → Except ε α} (h : ∀ x, InMessages fun c => read c x) (l : List ι) :
  InMessages fun c => l.mapM (read c)
  := by
  intro c c'
  rw [toOption_mapM, toOption_mapM]
  congr 1
  funext x
  exact h x c c'

end InMessages

end Outcome
