import ShootingStar.Lib.Outcome

/-!
# Lines

A text is read line by line, and the last line need not be ended.  A line is filled when some
character of it is, and a loop over the lines skips the others.  The first filled character of a text
is the first of its first filled line (`find?_eq_of_filled`), and a loop that fails does so at a
first filled line (`exists_of_mapM_filled_eq_error`).
-/

universe u

namespace Lines

variable {α : Type*} [DecidableEq α]

/-- The lines of a text. -/
def lines (newline : α) : List α → List (List α)
  | [] => []
  | c :: cs =>
    if c = newline then [] :: lines newline cs
    else
      match lines newline cs with
      | [] => [[c]]
      | line :: rest => (c :: line) :: rest

/-- The lines of a text that hold a character of `p`, with their numbers. -/
def filled (p : α → Bool) (newline : α) (text : List α) : List (List α × ℕ) :=
  ((lines newline text).zipIdx 1).filter fun line => line.1.any p

theorem map_fst_filled (p : α → Bool) (newline : α) (text : List α) :
  (filled p newline text).map Prod.fst = (lines newline text).filter fun line => line.any p
  := by
  have h := @List.filter_map _ _ Prod.fst (fun line => line.any p) ((lines newline text).zipIdx 1)
  rw [List.zipIdx_map_fst] at h
  exact h.symm

/-! ### First characters -/

/-- The first character of some kind is found in the first line that has one. -/
theorem find?_eq_findSome?_lines {newline : α} {p : α → Bool} (hp : p newline = false)
    (text : List α) :
  text.find? p = (lines newline text).findSome? fun line => line.find? p
  := by
  induction text with
  | nil => rfl
  | cons c cs ih =>
      rw [lines]
      split
      next h =>
        rw [h, List.find?_cons_of_neg (by simp [hp]), ih]
        rfl
      next h =>
        cases hlines : lines newline cs with
        | nil =>
            rw [hlines] at ih
            cases hc : p c <;> simp [hc, ih]
        | cons line rest =>
            rw [hlines] at ih
            cases hc : p c <;> simp [hc, ih, List.findSome?_cons]

omit [DecidableEq α] in
theorem findSome?_find?_eq (p : α → Bool) (ls : List (List α)) :
  (ls.findSome? fun line => line.find? p)
    = (ls.filter fun line => line.any p).head?.bind fun line => line.find? p
  := by
  induction ls with
  | nil => rfl
  | cons line rest ih =>
      cases hline : line.find? p with
      | none =>
          have hany : line.any p = false := by
            rw [List.any_eq_false]
            exact List.find?_eq_none.mp hline
          simp [hline, hany, ih]
      | some c =>
          have hany : line.any p = true :=
            List.any_eq_true.mpr ⟨c, List.mem_of_find?_eq_some hline, List.find?_some hline⟩
          simp [hline, hany]

/-- The first filled character of a text is the first of its first filled line. -/
theorem find?_eq_of_filled {newline : α} {p : α → Bool} (hp : p newline = false) (text : List α) :
  text.find? p = ((filled p newline text).map Prod.fst).head?.bind fun line => line.find? p
  := by
  rw [find?_eq_findSome?_lines hp, findSome?_find?_eq, map_fst_filled]

/-! ### Loops -/

variable {ε σ : Type u}

/-- A loop over the filled lines of a text and their numbers. -/
def forLines (p : α → Bool) (newline : α) (step : σ → List α → ℕ → Except ε σ) (text : List α)
    (s : σ) : Except ε σ :=
  ((lines newline text).zipIdx 1).foldlM
    (fun s line => if line.1.any p then step s line.1 line.2 else .ok s) s

theorem forLines_eq (p : α → Bool) (newline : α) (step : σ → List α → ℕ → Except ε σ)
    (text : List α) (s : σ) :
  forLines p newline step text s
    = (filled p newline text).foldlM (fun s line => step s line.1 line.2) s
  := by
  rw [forLines, filled, List.foldlM_filter]
  rfl

/-- The filled lines are numbered from one. -/
theorem mem_filled {p : α → Bool} {newline : α} {text line : List α} {n : ℕ} :
  (line, n + 1) ∈ filled p newline text
    ↔ (lines newline text)[n]? = some line ∧ line.any p = true
  := by
  rw [filled, List.mem_filter, List.mk_mem_zipIdx_iff_le_and_getElem?_sub, Nat.add_sub_cancel]
  constructor
  · rintro ⟨⟨-, hline⟩, hany⟩
    exact ⟨hline, hany⟩
  · rintro ⟨hline, hany⟩
    exact ⟨⟨by omega, hline⟩, hany⟩

theorem pairwise_filled (p : α → Bool) (newline : α) (text : List α) :
  (filled p newline text).Pairwise fun l l' => l.2 < l'.2
  := by
  have h : (((lines newline text).zipIdx 1).map Prod.snd).Pairwise (· < ·) := by
    rw [List.zipIdx_map_snd]
    exact List.pairwise_lt_range'
  exact (List.pairwise_map.mp h).sublist List.filter_sublist

/-- A loop over the filled lines that throws does so at a line, and at no filled line before it. -/
theorem exists_of_mapM_filled_eq_error {p : α → Bool} {newline : α} {text : List α}
    {f : List α × ℕ → Except ε σ} {e : ε} (h : (filled p newline text).mapM f = .error e) :
  ∃ (n : ℕ) (line : List α), (lines newline text)[n]? = some line ∧ line.any p = true
    ∧ f (line, n + 1) = .error e
    ∧ ∀ m < n, ∀ earlier, (lines newline text)[m]? = some earlier → earlier.any p = true
      → ∃ b, f (earlier, m + 1) = .ok b
  := by
  obtain ⟨before, ⟨line, k⟩, after, hfilled, hbefore, hthrows⟩ :=
    Outcome.exists_of_mapM_eq_error h
  have hmem : (line, k) ∈ filled p newline text := by
    rw [hfilled]
    exact List.mem_append_right before List.mem_cons_self
  have hk : 1 ≤ k := by
    rw [filled, List.mem_filter] at hmem
    exact List.le_snd_of_mem_zipIdx hmem.1
  obtain ⟨n, rfl⟩ := Nat.exists_eq_add_of_le' hk
  refine ⟨n, line, (mem_filled.mp hmem).1, (mem_filled.mp hmem).2, hthrows, ?_⟩
  intro m hm earlier hearlier hany
  have hordered := pairwise_filled p newline text
  have hmem' : (earlier, m + 1) ∈ filled p newline text := mem_filled.mpr ⟨hearlier, hany⟩
  rw [hfilled, List.pairwise_append, List.pairwise_cons] at hordered
  rw [hfilled, List.mem_append, List.mem_cons] at hmem'
  rcases hmem' with hmem' | heq | hmem'
  · exact hbefore _ hmem'
  · obtain ⟨-, hnumber⟩ := Prod.mk.inj heq
    omega
  · have hlt := hordered.2.1.1 _ hmem'
    omega

end Lines
