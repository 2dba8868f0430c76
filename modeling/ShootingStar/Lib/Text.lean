import Mathlib.Data.List.DropRight
import Mathlib.Data.Nat.Digits.Defs

/-!
# Texts

`rstrip p` and `strip p` drop the characters that satisfy `p` from the end of a text, and from both
ends.  `readDecimal limit` reads a whole text as a natural number up to `limit`; it reads back what
`toString` writes (`readDecimal_toString`).
-/

namespace Text

/-- The text without the characters at its end that satisfy `p`. -/
def rstrip (p : Char → Bool) (s : String) : String :=
  String.ofList (s.toList.rdropWhile p)

/-- The text without the characters at its ends that satisfy `p`. -/
def strip (p : Char → Bool) (s : String) : String :=
  rstrip p (String.ofList (s.toList.dropWhile p))

/-- The number a text of decimal digits stands for, up to a limit. -/
def readDecimal (limit : ℕ) (s : String) : Option ℕ :=
  if s = "" then none
  else if s.toList.all Char.isDigit then
    let n := Nat.ofDigitChars 10 s.toList 0
    if n ≤ limit then some n else none
  else none

/-- The integer a text of decimal digits stands for, with a minus sign before it or not, between two
limits around zero. -/
def readSigned (low high : ℤ) (s : String) : Option ℤ :=
  match s.toList with
  | '-' :: digits => (readDecimal low.natAbs (String.ofList digits)).map fun n => -n
  | _ => (readDecimal high.natAbs s).map fun n => n

/-! ### Stripping -/

@[simp]
theorem toList_rstrip (p : Char → Bool) (s : String) :
  (rstrip p s).toList = s.toList.rdropWhile p
  := String.toList_ofList

theorem rstrip_append {p : Char → Bool} (s : String) {t : String} (hne : t ≠ "")
    (h : ∀ c ∈ t.toList, p c = false) :
  rstrip p (s ++ t) = s ++ t
  := by
  rw [rstrip, String.toList_append, List.rdropWhile_eq_self_iff.mpr, ← String.toList_append,
    String.ofList_toList]
  intro hl
  rw [List.getLast_append_of_ne_nil hl (by simpa using hne), h _ (List.getLast_mem _)]
  simp

/-- A text that starts and ends with characters that stay, stays. -/
theorem strip_append {p : Char → Bool} {s t : String} (hs : ∀ c ∈ s.toList.head?, p c = false)
    (hsne : s ≠ "") (htne : t ≠ "") (ht : ∀ c ∈ t.toList, p c = false) :
  strip p (s ++ t) = s ++ t
  := by
  obtain ⟨c, l, hl⟩ := List.exists_cons_of_ne_nil (by simpa using hsne : s.toList ≠ [])
  have hc : p c = false := by
    apply hs
    simp [hl]
  have hdrop : String.ofList ((s ++ t).toList.dropWhile p) = s ++ t := by
    rw [String.toList_append, hl, List.cons_append, List.dropWhile_cons_of_neg (by simp [hc]),
      ← List.cons_append, ← hl, ← String.toList_append, String.ofList_toList]
  rw [strip, hdrop, rstrip_append s htne ht]

/-- Stripping the end of a text keeps its first character, when something is left. -/
theorem head?_rstrip {p : Char → Bool} {s : String} (h : rstrip p s ≠ "") :
  (rstrip p s).toList.head? = s.toList.head?
  := by
  have hne : s.toList.rdropWhile p ≠ [] := by
    rw [ne_eq, ← toList_rstrip, String.toList_eq_nil_iff]
    exact h
  obtain ⟨l, hl⟩ := List.rdropWhile_prefix p s.toList
  rw [toList_rstrip, ← List.head?_append_of_ne_nil _ hne, hl]

/-- A stripped text is not changed by stripping it again. -/
theorem strip_strip (p : Char → Bool) (s : String) :
  strip p (strip p s) = strip p s
  := by
  have hhead : (strip p s).toList.dropWhile p = (strip p s).toList := by
    by_cases hne : strip p s = ""
    · rw [hne]
      rfl
    · rw [strip] at hne ⊢
      have hkept := head?_rstrip hne
      rw [String.toList_ofList] at hkept
      rw [List.dropWhile_eq_self_iff]
      intro hlength
      rw [List.head?_eq_getElem?, List.getElem?_eq_getElem hlength] at hkept
      have hhead := List.head?_dropWhile_not p s.toList
      rw [← hkept] at hhead
      simpa using hhead
  rw [strip, hhead, String.ofList_toList]
  simp only [strip, rstrip, String.toList_ofList, List.rdropWhile_idempotent]

theorem mem_of_mem_strip {p : Char → Bool} {s : String} {c : Char}
    (h : c ∈ (strip p s).toList) :
  c ∈ s.toList
  := by
  rw [strip, toList_rstrip, String.toList_ofList] at h
  exact (List.dropWhile_sublist p).mem ((List.rdropWhile_prefix p _).mem h)

/-! ### Decimal numbers -/

theorem toString_ne_empty (n : ℕ) :
  toString n ≠ ""
  := by
  rw [Nat.toString_eq_repr, ne_eq, ← String.toList_eq_nil_iff, Nat.toList_repr]
  exact Nat.toDigits_ne_nil

theorem isDigit_of_mem_toString {n : ℕ} {c : Char} (h : c ∈ (toString n).toList) :
  c.isDigit = true
  := by
  rw [Nat.toString_eq_repr, Nat.toList_repr] at h
  exact Nat.isDigit_of_mem_toDigits (by norm_num) (by norm_num) h

/-- What is written is read back up to the limit, and no further. -/
theorem readDecimal_toString_eq (limit n : ℕ) :
  readDecimal limit (toString n) = if n ≤ limit then some n else none
  := by
  have hdigits : (toString n).toList.all Char.isDigit = true := by
    rw [List.all_eq_true]
    intro c hc
    exact isDigit_of_mem_toString hc
  have hvalue : Nat.ofDigitChars 10 (toString n).toList 0 = n := by
    rw [Nat.toString_eq_repr, Nat.toList_repr, Nat.ofDigitChars_ten_toDigits]
  simp only [readDecimal, toString_ne_empty, hdigits, hvalue, if_true, if_false]

theorem readDecimal_toString {limit n : ℕ} (h : n ≤ limit) :
  readDecimal limit (toString n) = some n
  := by
  rw [readDecimal_toString_eq, if_pos h]

/-- A natural number is read back as an integer up to the limit, and no further. -/
theorem readSigned_toString (low : ℤ) {high : ℤ} (hhigh : 0 ≤ high) (n : ℕ) :
  readSigned low high (toString n) = if (n : ℤ) ≤ high then some (n : ℤ) else none
  := by
  have hread : readSigned low high (toString n)
      = Option.map (fun n : ℕ => (n : ℤ)) (readDecimal high.natAbs (toString n)) := by
    rw [readSigned]
    split
    next digits hdigits =>
      have hminus : '-' ∈ (toString n).toList := by
        rw [hdigits]
        exact List.mem_cons_self
      have hdigit := isDigit_of_mem_toString hminus
      cases hdigit
    · cases readDecimal high.natAbs (toString n) <;> rfl
  rw [hread, readDecimal_toString_eq]
  have hlimit : n ≤ high.natAbs ↔ (n : ℤ) ≤ high := by omega
  by_cases hn : (n : ℤ) ≤ high
  · rw [if_pos (hlimit.mpr hn), if_pos hn, Option.map_some]
  · rw [if_neg fun h => hn (hlimit.mp h), if_neg hn, Option.map_none]

/-- An integer between the limits is read back. -/
theorem readSigned_toString_int {low high n : ℤ} (hlow : low ≤ n) (hhigh : n ≤ high)
    (hzero : 0 ≤ high) :
  readSigned low high (toString n) = some n
  := by
  match n with
  | (m : ℕ) =>
      rw [show toString (m : ℤ) = toString m from rfl, readSigned_toString low hzero,
        if_pos hhigh]
  | .negSucc m =>
      have htext : (toString (Int.negSucc m)).toList = '-' :: (toString (m + 1)).toList := by
        rw [show toString (Int.negSucc m) = "-" ++ toString (m + 1) from rfl, String.toList_append]
        rfl
      have hlimit : m + 1 ≤ low.natAbs := by omega
      simp only [readSigned, htext, String.ofList_toList, readDecimal_toString hlimit]
      rfl

/-- What is read is between the limits. -/
theorem bounds_of_readSigned {low high n : ℤ} {s : String} (hlow : low ≤ 0) (hhigh : 0 ≤ high)
    (h : readSigned low high s = some n) :
  low ≤ n ∧ n ≤ high
  := by
  have hread : ∀ {limit m : ℕ} {t : String}, readDecimal limit t = some m → m ≤ limit := by
    intro limit m t hm
    rw [readDecimal] at hm
    split at hm
    · cases hm
    split at hm
    · dsimp only at hm
      split at hm
      next hle =>
        obtain rfl := Option.some.inj hm
        exact hle
      · cases hm
    · cases hm
  rw [readSigned] at h
  split at h
  · obtain ⟨m, hm, rfl⟩ := Option.map_eq_some_iff.mp h
    obtain ⟨k, hk, hcast⟩ := Option.bind_eq_some_iff.mp hm
    obtain rfl := Option.some.inj hcast
    have := hread hk
    omega
  · obtain ⟨m, hm, rfl⟩ := Option.map_eq_some_iff.mp h
    obtain ⟨k, hk, hcast⟩ := Option.bind_eq_some_iff.mp hm
    obtain rfl := Option.some.inj hcast
    have := hread hk
    omega

end Text
