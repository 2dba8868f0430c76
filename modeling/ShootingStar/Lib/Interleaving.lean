import Mathlib.Logic.Function.Basic
import ShootingStar.Lib.Trace

/-!
# Interleaved programs

A program performs operations on a shared state, one at a time, and goes on with their replies.
`Runs p es q` tells that `p` becomes `q` by performing the operations of `es` with these replies,
whatever state they come from.

Several programs run interleaved (`Reaches`): at any time any of them may perform its next
operation, and the state may change by itself.  The trace lists the operations performed, the
earliest first, each with its program and its reply.  Every program runs through its own part of
the trace (`Reaches.runs`), so what holds of the runs of a program alone holds in every
interleaving.
-/

universe u v w

/-- A program: it returns, or performs an operation and goes on with the reply. -/
inductive Program {Op : Type u} (Reply : Op → Type v) (ρ : Type w) where
  | done (result : ρ)
  | perform (op : Op) (next : Reply op → Program Reply ρ)

/-- An operation with its reply. -/
abbrev Event {Op : Type u} (Reply : Op → Type v) := (op : Op) × Reply op

namespace Program

variable {Op : Type u} {Reply : Op → Type v} {ρ τ : Type w}

/-- The program that goes on with the result of another one. -/
def bind : Program Reply ρ → (ρ → Program Reply τ) → Program Reply τ
  | done result, f => f result
  | perform op next, f => perform op fun reply => (next reply).bind f

/-- The program that returns a function of the result. -/
def map (f : ρ → τ) (p : Program Reply ρ) : Program Reply τ :=
  p.bind fun result => done (f result)

/-- A program becomes another one by performing operations with given replies. -/
inductive Runs : Program Reply ρ → List (Event Reply) → Program Reply ρ → Prop
  | nil (p : Program Reply ρ) : Runs p [] p
  | cons {op : Op} {next : Reply op → Program Reply ρ} {reply : Reply op}
      {es : List (Event Reply)} {q : Program Reply ρ} (h : Runs (next reply) es q) :
      Runs (.perform op next) (⟨op, reply⟩ :: es) q

/-- One operation more. -/
theorem Runs.concat {p : Program Reply ρ} {es : List (Event Reply)} {op : Op}
    {next : Reply op → Program Reply ρ} (h : Runs p es (.perform op next)) (reply : Reply op) :
  Runs p (es ++ [⟨op, reply⟩]) (next reply)
  := by
  generalize hq : perform op next = q at h
  induction h with
  | nil p =>
      subst hq
      apply Runs.cons
      apply Runs.nil
  | cons h ih =>
      apply Runs.cons
      exact ih hq

theorem runs_done {result : ρ} {es : List (Event Reply)} {q : Program Reply ρ} :
  Runs (done result) es q ↔ es = [] ∧ q = done result
  := by
  constructor
  · intro h
    cases h
    exact ⟨rfl, rfl⟩
  · rintro ⟨rfl, rfl⟩
    apply Runs.nil

theorem runs_perform {op : Op} {next : Reply op → Program Reply ρ} {es : List (Event Reply)}
    {q : Program Reply ρ} :
  Runs (perform op next) es q
    ↔ (es = [] ∧ q = perform op next)
      ∨ ∃ reply es', es = ⟨op, reply⟩ :: es' ∧ Runs (next reply) es' q
  := by
  constructor
  · intro h
    cases h with
    | nil => exact Or.inl ⟨rfl, rfl⟩
    | cons h => exact Or.inr ⟨_, _, rfl, h⟩
  · rintro (⟨rfl, rfl⟩ | ⟨reply, es', rfl, h⟩)
    · apply Runs.nil
    · exact Runs.cons h

/-- The first part has not returned yet, or the second part goes on with its result. -/
theorem Runs.of_bind {p : Program Reply ρ} {f : ρ → Program Reply τ} {es : List (Event Reply)}
    {q : Program Reply τ} (h : Runs (p.bind f) es q) :
  (∃ op next, Runs p es (perform op next) ∧ q = perform op fun reply => (next reply).bind f)
    ∨ ∃ result es₁ es₂, es = es₁ ++ es₂ ∧ Runs p es₁ (done result) ∧ Runs (f result) es₂ q
  := by
  induction p generalizing es with
  | done result => exact Or.inr ⟨result, [], es, rfl, Runs.nil _, h⟩
  | perform op next ih =>
      rcases runs_perform.mp h with ⟨rfl, rfl⟩ | ⟨reply, es', rfl, h'⟩
      · exact Or.inl ⟨op, next, Runs.nil _, rfl⟩
      · rcases ih reply h' with ⟨op', next', hruns, rfl⟩ | ⟨result, es₁, es₂, rfl, h₁, h₂⟩
        · exact Or.inl ⟨op', next', Runs.cons hruns, rfl⟩
        · exact Or.inr ⟨result, ⟨op, reply⟩ :: es₁, es₂, rfl, Runs.cons h₁, h₂⟩

end Program

namespace Interleaving

open Program (Runs)

variable {ι : Type*} {σ : Type*} {Op : Type u} {Reply : Op → Type v} {ρ : Type w}
  [DecidableEq ι]

/-- What interleaved programs reach from a state: the trace, the state and the programs that are
left.  `handle` tells what an operation may reply and leave, and `change` how the state may change
by itself. -/
inductive Reaches (handle : σ → (op : Op) → Reply op → σ → Prop) (change : σ → σ → Prop)
    (start : σ) (programs : ι → Program Reply ρ) :
    List (ι × Event Reply) → σ → (ι → Program Reply ρ) → Prop
  | start : Reaches handle change start programs [] start programs
  | perform {trace : List (ι × Event Reply)} {s : σ} {current : ι → Program Reply ρ}
      {op : Op} {next : Reply op → Program Reply ρ}
      (h : Reaches handle change start programs trace s current) (i : ι) (reply : Reply op) (s' : σ)
      (hi : current i = .perform op next) (hop : handle s op reply s') :
      Reaches handle change start programs (trace ++ [(i, ⟨op, reply⟩)]) s'
        (Function.update current i (next reply))
  | change {trace : List (ι × Event Reply)} {s : σ} {current : ι → Program Reply ρ}
      (h : Reaches handle change start programs trace s current) (s' : σ) (hchange : change s s') :
      Reaches handle change start programs trace s' current

/-- The operations of a program. -/
def eventsOf (i : ι) (trace : List (ι × Event Reply)) : List (Event Reply) :=
  (trace.filter (·.1 = i)).map Prod.snd

theorem mem_eventsOf {i : ι} {trace : List (ι × Event Reply)} {e : Event Reply} :
  e ∈ eventsOf i trace ↔ (i, e) ∈ trace
  := by
  simp [eventsOf]

theorem eventsOf_append (i : ι) (trace trace' : List (ι × Event Reply)) :
  eventsOf i (trace ++ trace') = eventsOf i trace ++ eventsOf i trace'
  := by
  simp [eventsOf]

theorem eventsOf_cons_self (i : ι) (e : Event Reply) (trace : List (ι × Event Reply)) :
  eventsOf i ((i, e) :: trace) = e :: eventsOf i trace
  := by
  simp [eventsOf]

theorem eventsOf_singleton_of_ne {i j : ι} (h : j ≠ i) (e : Event Reply) :
  eventsOf i [(j, e)] = []
  := by
  simp [eventsOf, h]

variable {handle : σ → (op : Op) → Reply op → σ → Prop} {change : σ → σ → Prop} {start : σ}
  {programs : ι → Program Reply ρ}

/-- Every program runs through its own operations. -/
theorem Reaches.runs {trace : List (ι × Event Reply)} {s : σ} {current : ι → Program Reply ρ}
    (h : Reaches handle change start programs trace s current) (i : ι) :
  Runs (programs i) (eventsOf i trace) (current i)
  := by
  induction h with
  | start => apply Runs.nil
  | change _ _ _ ih => exact ih
  | @perform trace s current op next _ j reply s' hj _ ih =>
      rw [eventsOf_append]
      by_cases hij : j = i
      · subst hij
        rw [Function.update_self, eventsOf_cons_self]
        rw [hj] at ih
        exact ih.concat reply
      · rw [Function.update_of_ne (Ne.symm hij), eventsOf_singleton_of_ne hij, List.append_nil]
        exact ih

/-- What each operation of each program satisfies given the operations of this program before it,
it satisfies in the trace. -/
theorem of_eachAfter_eventsOf {P : List (Event Reply) → Event Reply → Prop}
    {trace before after : List (ι × Event Reply)} {i : ι} {e : Event Reply}
    (h : Trace.EachAfter P (eventsOf i trace)) (htrace : trace = before ++ (i, e) :: after) :
  P (eventsOf i before) e
  := by
  apply h (eventsOf i before) e (eventsOf i after)
  rw [htrace, eventsOf_append, eventsOf_cons_self]

end Interleaving
