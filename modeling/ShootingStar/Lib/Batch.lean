import Mathlib.Data.List.Basic
import Mathlib.Data.List.Nodup

/-!
# Batches and loops that may fail

A list is processed in batches of a given size.  The batches make up the list
(`flatten_batches`), so a fold over the batches that folds each batch is a fold over the list
(`foldl_batches`).

A loop in `Except` stops at the first error.  What its steps keep holds of its result
(`of_foldlM_eq_ok`), and when no step fails it is a fold (`foldlM_eq_ok`).

A batch of requests may leave out invalid ones.  Writing the results back to the positions of the
valid ones gives each position its own result (`scatter_filter`), also when the results are computed
on the way and one of them may fail (`scatterM_filter`).
-/

universe u

namespace Batch

variable {α σ ε : Type*}

/-! ### Batches -/

/-- The consecutive parts of `l` of length `size`; the last one may be shorter. -/
def batches (size : ℕ) (l : List α) : List (List α) :=
  (List.range ((l.length + size - 1) / size)).map fun k => (l.drop (k * size)).take size

theorem flatten_map_range (size : ℕ) (l : List α) (n : ℕ) :
  ((List.range n).map fun k => (l.drop (k * size)).take size).flatten = l.take (n * size)
  := by
  induction n with
  | zero => simp
  | succ n ih =>
      rw [List.range_succ, List.map_append, List.flatten_append, ih, List.map_singleton,
        List.flatten_singleton, Nat.succ_mul, List.take_add]

/-- The batches make up the list. -/
theorem flatten_batches {size : ℕ} (h : 0 < size) (l : List α) :
  (batches size l).flatten = l
  := by
  rw [batches, flatten_map_range]
  apply List.take_of_length_le
  have hdiv := Nat.div_add_mod (l.length + size - 1) size
  have hmod := Nat.mod_lt (l.length + size - 1) h
  rw [Nat.mul_comm] at hdiv
  omega

/-- Folding each batch in turn folds the list. -/
theorem foldl_batches {size : ℕ} (h : 0 < size) (f : σ → α → σ) (s : σ) (l : List α) :
  (batches size l).foldl (fun s batch => batch.foldl f s) s = l.foldl f s
  := by
  conv_rhs => rw [← flatten_batches h l]
  rw [List.foldl_flatten]

/-! ### Loops that may fail -/

/-- Both parts of a computation that does not fail do not fail. -/
theorem of_bind_eq_ok {τ υ : Type u} {x : Except ε τ} {f : τ → Except ε υ} {b : υ}
    (h : (x >>= f) = .ok b) :
  ∃ a, x = .ok a ∧ f a = .ok b
  := by
  cases x with
  | error e => cases h
  | ok a => exact ⟨a, rfl, h⟩

/-- What every step keeps holds after the loop. -/
theorem of_foldlM_eq_ok {f : σ → α → Except ε σ} {P : σ → Prop}
    (hstep : ∀ s x s', P s → f s x = .ok s' → P s') {l : List α} {s s' : σ} (hs : P s)
    (h : l.foldlM f s = .ok s') :
  P s'
  := by
  induction l generalizing s with
  | nil =>
      rw [List.foldlM_nil] at h
      obtain rfl := Except.ok.inj h
      exact hs
  | cons x l ih =>
      rw [List.foldlM_cons] at h
      obtain ⟨t, hx, hrest⟩ := of_bind_eq_ok h
      exact ih (hstep s x t hs hx) hrest

/-- What every step keeps of the state and the list gone over holds after the loop. -/
theorem of_foldlM_seen {f : σ → α → Except ε σ} {P : List α → σ → Prop}
    (hstep : ∀ seen s x s', P seen s → f s x = .ok s' → P (seen ++ [x]) s') {seen l : List α}
    {s s' : σ} (hs : P seen s) (h : l.foldlM f s = .ok s') :
  P (seen ++ l) s'
  := by
  induction l generalizing seen s with
  | nil =>
      rw [List.foldlM_nil] at h
      obtain rfl := Except.ok.inj h
      rwa [List.append_nil]
  | cons x l ih =>
      rw [List.foldlM_cons] at h
      obtain ⟨t, hx, hrest⟩ := of_bind_eq_ok h
      rw [List.append_cons]
      exact ih (hstep seen s x t hs hx) hrest

/-- A loop whose steps do not fail. -/
theorem foldlM_eq_ok {f : σ → α → Except ε σ} {g : σ → α → σ} {l : List α}
    (h : ∀ s, ∀ x ∈ l, f s x = .ok (g s x)) (s : σ) :
  l.foldlM f s = .ok (l.foldl g s)
  := by
  induction l generalizing s with
  | nil => rfl
  | cons x l ih =>
      rw [List.foldlM_cons, h s x List.mem_cons_self]
      exact ih (fun s y hy => h s y (List.mem_cons_of_mem x hy)) (g s x)

/-- A map whose steps do not fail. -/
theorem mapM_eq_ok {β : Type u} {f : α → Except ε β} {g : α → β} {l : List α}
    (h : ∀ x ∈ l, f x = .ok (g x)) :
  l.mapM f = .ok (l.map g)
  := by
  induction l with
  | nil => rfl
  | cons x l ih =>
      rw [List.mapM_cons, h x List.mem_cons_self, ih (fun y hy => h y (List.mem_cons_of_mem x hy))]
      rfl

/-- A map that does not fail gives the result of each step. -/
theorem forall₂_of_mapM_eq_ok {β : Type u} {f : α → Except ε β} {l : List α} {l' : List β}
    (h : l.mapM f = .ok l') :
  List.Forall₂ (fun x y => f x = .ok y) l l'
  := by
  induction l generalizing l' with
  | nil =>
      obtain rfl := Except.ok.inj h
      exact List.Forall₂.nil
  | cons x l ih =>
      rw [List.mapM_cons] at h
      obtain ⟨y, hx, hrest⟩ := of_bind_eq_ok h
      obtain ⟨ys, hl, hys⟩ := of_bind_eq_ok hrest
      obtain rfl := Except.ok.inj hys
      exact List.Forall₂.cons hx (ih hl)

/-- A result of a map that does not fail is the result of a step. -/
theorem exists_of_mem_mapM {β : Type u} {f : α → Except ε β} {l : List α} {l' : List β}
    (h : l.mapM f = .ok l') {y : β} (hy : y ∈ l') :
  ∃ x ∈ l, f x = .ok y
  := by
  have hall := forall₂_of_mapM_eq_ok h
  clear h
  induction hall with
  | nil => cases hy
  | cons hx _ ih =>
      rcases List.mem_cons.mp hy with rfl | hy
      · exact ⟨_, List.mem_cons_self, hx⟩
      · obtain ⟨x, hmem, hstep⟩ := ih hy
        exact ⟨x, List.mem_cons_of_mem _ hmem, hstep⟩

/-- A step of a map that does not fail has a result. -/
theorem exists_mem_of_mapM {β : Type u} {f : α → Except ε β} {l : List α} {l' : List β}
    (h : l.mapM f = .ok l') {x : α} (hx : x ∈ l) :
  ∃ y ∈ l', f x = .ok y
  := by
  have hall := forall₂_of_mapM_eq_ok h
  clear h
  induction hall with
  | nil => cases hx
  | cons hstep _ ih =>
      rcases List.mem_cons.mp hx with rfl | hx
      · exact ⟨_, List.mem_cons_self, hstep⟩
      · obtain ⟨y, hmem, hy⟩ := ih hx
        exact ⟨y, List.mem_cons_of_mem _ hmem, hy⟩

/-- Where things have keys of their own and their results have the same keys, the last result with the
key of a thing is the result of that thing, and there is none with another key. -/
theorem getLast?_filter_of_mapM {β : Type u} {κ : Type*} [DecidableEq κ] {f : α → Except ε β}
    {l : List α} {l' : List β} (h : l.mapM f = .ok l') {id : α → κ} {key : β → κ}
    (hkey : ∀ x ∈ l, ∀ y, f x = .ok y → key y = id x) (hnodup : (l.map id).Nodup) :
  (∀ x ∈ l, ∃ y, f x = .ok y ∧ (l'.filter (key · = id x)).getLast? = some y)
  ∧ ∀ k, (∀ x ∈ l, id x ≠ k) → (l'.filter (key · = k)).getLast? = none
  := by
  constructor
  · intro x hx
    obtain ⟨y, hy, hstep⟩ := exists_mem_of_mapM h hx
    have hne : l'.filter (key · = id x) ≠ [] := by
      apply List.ne_nil_of_mem
      rw [List.mem_filter]
      exact ⟨hy, decide_eq_true (hkey x hx y hstep)⟩
    use y, hstep
    rw [List.getLast?_eq_some_getLast hne]
    obtain ⟨hmem, hlast⟩ := List.mem_filter.mp (List.getLast_mem hne)
    obtain ⟨x', hx', hstep'⟩ := exists_of_mem_mapM h hmem
    have hsame : id x' = id x := (hkey x' hx' _ hstep').symm.trans (of_decide_eq_true hlast)
    obtain rfl := List.inj_on_of_nodup_map hnodup hx' hx hsame
    rw [hstep] at hstep'
    rw [Except.ok.inj hstep']
  · intro k hnone
    rw [List.getLast?_eq_none_iff, List.filter_eq_nil_iff]
    intro y hy hk
    obtain ⟨x, hx, hstep⟩ := exists_of_mem_mapM h hy
    apply hnone x hx
    rw [← hkey x hx y hstep]
    exact of_decide_eq_true hk

/-- A loop that must fail at some entry fails. -/
theorem exists_foldlM_eq_error {f : σ → α → Except ε σ} {l : List α} {x : α} (hx : x ∈ l)
    (h : ∀ s, ∃ e, f s x = .error e) (s : σ) :
  ∃ e, l.foldlM f s = .error e
  := by
  induction l generalizing s with
  | nil => cases hx
  | cons y l ih =>
      rw [List.foldlM_cons]
      cases hstep : f s y with
      | error e => exact ⟨e, rfl⟩
      | ok t =>
          rcases List.mem_cons.mp hx with rfl | hx
          · obtain ⟨e, he⟩ := h s
            rw [hstep] at he
            cases he
          · exact ih hx t

/-! ### Scattered results -/

variable {β γ : Type*}

/-- The results written to the positions `indexes`; a result without a value writes nothing. -/
def scatter (value : β → Option γ) (indexes : List ℕ) (results : List β)
    (acc : List (Option γ)) : List (Option γ) :=
  (indexes.zip results).foldl
    (fun acc x =>
      match value x.2 with
      | none => acc
      | some v => acc.set x.1 (some v))
    acc

/-- The positions from `n` of the entries of `l` that `valid` keeps. -/
def indexesFrom (valid : α → Bool) (l : List α) (n : ℕ) : List ℕ :=
  ((l.zipIdx n).filter (valid ·.1)).map Prod.snd

theorem length_indexesFrom (valid : α → Bool) (l : List α) (n : ℕ) :
  (indexesFrom valid l n).length = (l.filter valid).length
  := by
  induction l generalizing n with
  | nil => rfl
  | cons x l ih =>
      have h := ih (n + 1)
      rw [indexesFrom, List.length_map] at h
      rw [indexesFrom, List.length_map, List.zipIdx_cons, List.filter_cons, List.filter_cons]
      split
      · rw [List.length_cons, h, List.length_cons]
      · exact h

theorem scatter_indexesFrom (value : β → Option γ) (valid : α → Bool) (g : α → β) (l : List α)
    (acc : List (Option γ)) :
  scatter value (indexesFrom valid l acc.length) ((l.filter valid).map g)
      (acc ++ l.map fun _ => none)
    = acc ++ l.map fun x => if valid x then value (g x) else none
  := by
  induction l generalizing acc with
  | nil => simp [indexesFrom, scatter]
  | cons x l ih =>
      have hstep : ∀ o : Option γ, scatter value (indexesFrom valid l (acc.length + 1))
            ((l.filter valid).map g) (acc ++ o :: l.map fun _ => none)
          = acc ++ o :: l.map fun x => if valid x then value (g x) else none := by
        intro o
        have h := ih (acc ++ [o])
        rw [List.length_append, List.length_singleton, List.append_assoc, List.append_assoc] at h
        exact h
      by_cases hx : valid x
      · have hindexes : indexesFrom valid (x :: l) acc.length
            = acc.length :: indexesFrom valid l (acc.length + 1) := by
          simp [indexesFrom, hx]
        have hset : ∀ v, (acc ++ none :: l.map fun _ => none).set acc.length (some v)
            = acc ++ some v :: l.map fun _ => none := by simp
        rw [hindexes, List.filter_cons_of_pos hx, List.map_cons, List.map_cons, List.map_cons,
          if_pos hx, ← hstep, scatter, List.zip_cons_cons, List.foldl_cons]
        cases hv : value (g x) with
        | none => rfl
        | some v =>
            rw [← hset]
            rfl
      · have hindexes : indexesFrom valid (x :: l) acc.length
            = indexesFrom valid l (acc.length + 1) := by
          simp [indexesFrom, hx]
        rw [hindexes, List.filter_cons_of_neg hx, List.map_cons, List.map_cons, if_neg hx, hstep]

/-- Every valid position gets its own result, and the others nothing. -/
theorem scatter_filter (value : β → Option γ) (valid : α → Bool) (g : α → β) (l : List α) :
  scatter value (indexesFrom valid l 0) ((l.filter valid).map g) (l.map fun _ => none)
    = l.map fun x => if valid x then value (g x) else none
  := scatter_indexesFrom value valid g l []

/-! ### Scattered computations -/

variable {υ : Type u}

/-- The results computed in turn and written to the positions `indexes`; the first failure stops. -/
def scatterM (f : β → Except ε υ) (indexes : List ℕ) (requests : List β) (acc : List υ) :
    Except ε (List υ) :=
  (indexes.zip requests).foldlM
    (fun acc x => do
      let v ← f x.2
      .ok (acc.set x.1 v))
    acc

theorem scatterM_indexesFrom (f : β → Except ε υ) (valid : α → Bool) (g : α → β) (d : υ)
    (l : List α) (acc : List υ) :
  scatterM f (indexesFrom valid l acc.length) ((l.filter valid).map g) (acc ++ l.map fun _ => d)
    = (acc ++ ·) <$> l.mapM fun x => if valid x then f (g x) else .ok d
  := by
  induction l generalizing acc with
  | nil => rfl
  | cons x l ih =>
      have hstep : ∀ v : υ, scatterM f (indexesFrom valid l (acc.length + 1))
            ((l.filter valid).map g) (acc ++ v :: l.map fun _ => d)
          = (acc ++ v :: ·) <$> l.mapM fun x => if valid x then f (g x) else .ok d := by
        intro v
        have h := ih (acc ++ [v])
        simp only [List.length_append, List.length_singleton, List.append_assoc,
          List.singleton_append] at h
        exact h
      by_cases hx : valid x
      · have hindexes : indexesFrom valid (x :: l) acc.length
            = acc.length :: indexesFrom valid l (acc.length + 1) := by
          simp [indexesFrom, hx]
        have hset : ∀ v, (acc ++ d :: l.map fun _ => d).set acc.length v
            = acc ++ v :: l.map fun _ => d := by simp
        rw [hindexes, List.filter_cons_of_pos hx, List.map_cons, List.map_cons, List.mapM_cons,
          if_pos hx, scatterM, List.zip_cons_cons, List.foldlM_cons]
        cases hv : f (g x) with
        | error e => rfl
        | ok v =>
            have h := hstep v
            rw [← hset, scatterM] at h
            refine h.trans ?_
            cases l.mapM fun x => if valid x then f (g x) else .ok d <;> rfl
      · have hindexes : indexesFrom valid (x :: l) acc.length
            = indexesFrom valid l (acc.length + 1) := by
          simp [indexesFrom, hx]
        rw [hindexes, List.filter_cons_of_neg hx, List.map_cons, hstep, List.mapM_cons, if_neg hx]
        cases l.mapM fun x => if valid x then f (g x) else .ok d <;> rfl

/-- The results at the valid positions, and `d` at the others, are those of a loop over all
positions, and so is the failure. -/
theorem scatterM_filter (f : β → Except ε υ) (valid : α → Bool) (g : α → β) (d : υ) (l : List α) :
  scatterM f (indexesFrom valid l 0) ((l.filter valid).map g) (l.map fun _ => d)
    = l.mapM fun x => if valid x then f (g x) else .ok d
  := by
  have h := scatterM_indexesFrom f valid g d l []
  rw [List.length_nil, List.nil_append] at h
  rw [h]
  cases l.mapM fun x => if valid x then f (g x) else .ok d <;> rfl

/-- A map fails just when one of its steps does. -/
theorem exists_mapM_eq_error {f : α → Except ε υ} {l : List α} :
  (∃ e, l.mapM f = .error e) ↔ ∃ x ∈ l, ∃ e, f x = .error e
  := by
  induction l with
  | nil => simp [pure, Except.pure]
  | cons x l ih =>
      simp only [List.mapM_cons, List.mem_cons, exists_eq_or_imp, ← ih]
      cases f x with
      | error e => simp [bind, Except.bind]
      | ok v =>
          cases l.mapM f with
          | error e => simp [bind, Except.bind]
          | ok vs => simp [bind, Except.bind, pure, Except.pure]

end Batch
