import ShootingStar.JsonValue
import ShootingStar.Lib.Text

/-!
# Integers in JSON documents

A number of a document is delivered as the nearest double.  It is refused when it is no integer or
lies outside the limits of the integer type, and converted otherwise.  The limits are doubles too,
so the largest `uint64_t` is compared as `2 ^ 64`, and a conversion may be undefined
(`readsExactly_convertDouble_iff`).
-/

namespace JsonParser

/-- The largest `uint64_t`. -/
def maxUint64 : ℤ := 2 ^ 64 - 1

/-- The least `int64_t`. -/
def minInt64 : ℤ := -2 ^ 63

/-- The largest `int64_t`. -/
def maxInt64 : ℤ := 2 ^ 63 - 1

/-- A double converted to an integer between `low` and `high`, after the check of its value; `none`
where the conversion is undefined. -/
def convertDouble (tooSmall : ℚ → Bool) (low high : ℤ) (message : String) (number : ℚ) :
    Except String (Option ℤ) :=
  if tooSmall number = true ∨ nearestDouble high < number ∨ ⌊number⌋ ≠ number then .error message
  else .ok (Rounding.toInteger low high number)

/-- The `uint64_t` that a whole text stands for. -/
def parseUint64String (value context : String) : Except String ℕ :=
  match Text.readDecimal maxUint64.toNat value with
  | none => .error (context ++ " contains invalid uint64: " ++ value)
  | some parsed => .ok parsed

/-- A number or a text read as a `uint64_t`. -/
def readUint64Value (value : Json) (context : String) : Except String (Option ℤ) :=
  match value with
  | .text s => (parseUint64String s context).map fun parsed => some parsed
  | .int n =>
    convertDouble (· < 0) 0 maxUint64 (context ++ " contains invalid uint64") (nearestDouble n)
  | .float x => convertDouble (· < 0) 0 maxUint64 (context ++ " contains invalid uint64") x
  | _ => .error (context ++ " must be a number or string")

/-- A number or a text read as an `int64_t`. -/
def readInt64Value (value : Json) (context : String) : Except String (Option ℤ) :=
  match value with
  | .text s =>
    match Text.readSigned minInt64 maxInt64 s with
    | none => .error (context ++ " contains invalid int64: " ++ s)
    | some parsed => .ok (some parsed)
  | .int n =>
    convertDouble (· < nearestDouble minInt64) minInt64 maxInt64
      (context ++ " contains invalid int64") (nearestDouble n)
  | .float x =>
    convertDouble (· < nearestDouble minInt64) minInt64 maxInt64
      (context ++ " contains invalid int64") x
  | _ => .error (context ++ " must be a number or string")

/-! ### Limits -/

@[simp]
theorem nearestDouble_maxUint64 :
  nearestDouble maxUint64 = 2 ^ 64
  := by
  decide +kernel

@[simp]
theorem nearestDouble_minInt64 :
  nearestDouble minInt64 = -2 ^ 63
  := by
  decide +kernel

@[simp]
theorem nearestDouble_maxInt64 :
  nearestDouble maxInt64 = 2 ^ 63
  := by
  decide +kernel

/-! ### Reading integers -/

/-- A reading of `n` throws, or converts a number within the range and gives `n`. -/
def ReadsExactly (n : ℤ) (reading : Except String (Option ℤ)) : Prop :=
  ∀ result, reading = .ok result → result = some n

/-- An integer that some double is equal to. -/
def IsDouble (n : ℤ) : Prop :=
  ∃ (j : ℤ) (k : ℕ), j.natAbs < 2 ^ 53 ∧ n = j * 2 ^ k

theorem nearestDouble_eq_self_iff {n : ℤ} :
  nearestDouble n = n ↔ IsDouble n
  := Rounding.roundBits_eq_self_iff (by norm_num)

/-- Reading an integer: the double is refused, or it is the integer and within the range. -/
theorem readsExactly_convertDouble_iff (tooSmall : ℚ → Bool) (low high : ℤ) (message : String)
    (n : ℤ) :
  ReadsExactly n (convertDouble tooSmall low high message (nearestDouble n))
    ↔ tooSmall (nearestDouble n) = true ∨ nearestDouble high < nearestDouble n
      ∨ (low ≤ n ∧ n ≤ high ∧ IsDouble n)
  := by
  rw [← nearestDouble_eq_self_iff]
  obtain ⟨k, hk⟩ : ∃ k : ℤ, nearestDouble n = k := Rounding.exists_roundBits_eq 53 n
  have hfloor : ⌊(k : ℚ)⌋ = (k : ℚ) := by rw [Int.floor_intCast]
  rw [hk, convertDouble]
  by_cases hrefused : tooSmall k = true ∨ nearestDouble high < k
  · have hthrows : tooSmall (k : ℚ) = true ∨ nearestDouble high < k ∨ ⌊(k : ℚ)⌋ ≠ (k : ℚ) := by
      rcases hrefused with h | h
      · exact Or.inl h
      · exact Or.inr (Or.inl h)
    rw [if_pos hthrows, ← or_assoc]
    constructor
    · intro _
      exact Or.inl hrefused
    · intro _ result hresult
      cases hresult
  · have hconverts : ¬ (tooSmall (k : ℚ) = true ∨ nearestDouble high < k ∨ ⌊(k : ℚ)⌋ ≠ (k : ℚ)) := by
      rintro (h | h | h)
      · exact hrefused (Or.inl h)
      · exact hrefused (Or.inr h)
      · exact h hfloor
    rw [if_neg hconverts, ← or_assoc, or_iff_right hrefused, Rounding.toInteger,
      Rounding.truncate_intCast, Int.cast_inj]
    constructor
    · intro h
      have hsome := h _ rfl
      split_ifs at hsome with hrange
      obtain rfl := Option.some.inj hsome
      exact ⟨hrange.1, hrange.2, rfl⟩
    · rintro ⟨hlow, hhigh, rfl⟩ result hresult
      obtain rfl := Except.ok.inj hresult
      exact if_pos ⟨hlow, hhigh⟩

/-- Unsigned integers are read exactly when they are doubles, up to `2 ^ 64`, and refused below zero
and half a unit above it. -/
theorem readsExactly_readUint64Value_iff (n : ℤ) (context : String) :
  ReadsExactly n (readUint64Value (.int n) context)
    ↔ n < 0 ∨ 2 ^ 64 + 2 ^ 11 < n ∨ (n < 2 ^ 64 ∧ IsDouble n)
  := by
  have hneg : nearestDouble n < 0 ↔ n < 0 := Rounding.roundBits_neg_iff (by norm_num)
  have hbig : (2 : ℚ) ^ 64 < nearestDouble n ↔ 2 ^ 64 + 2 ^ 11 < n :=
    Rounding.two_pow_lt_roundBits_iff (by norm_num) (by norm_num)
  rw [readUint64Value, readsExactly_convertDouble_iff, nearestDouble_maxUint64, hbig,
    decide_eq_true_iff, hneg, maxUint64]
  constructor
  · rintro (h | h | ⟨-, h, hdouble⟩)
    · exact Or.inl h
    · exact Or.inr (Or.inl h)
    · exact Or.inr (Or.inr ⟨by omega, hdouble⟩)
  · rintro (h | h | ⟨h, hdouble⟩)
    · exact Or.inl h
    · exact Or.inr (Or.inl h)
    · rcases lt_or_ge n 0 with hn | hn
      · exact Or.inl hn
      · exact Or.inr (Or.inr ⟨hn, by omega, hdouble⟩)

/-- Signed integers are read exactly when they are doubles from `-2 ^ 63` up to `2 ^ 63`, and refused
half a unit outside. -/
theorem readsExactly_readInt64Value_iff (n : ℤ) (context : String) :
  ReadsExactly n (readInt64Value (.int n) context)
    ↔ n < -2 ^ 63 - 2 ^ 10 ∨ 2 ^ 63 + 2 ^ 10 < n ∨ (-2 ^ 63 ≤ n ∧ n < 2 ^ 63 ∧ IsDouble n)
  := by
  have hbig : ∀ m : ℤ, (2 : ℚ) ^ 63 < nearestDouble m ↔ 2 ^ 63 + 2 ^ 10 < m := fun m =>
    Rounding.two_pow_lt_roundBits_iff (by norm_num) (by norm_num)
  have hsmall : nearestDouble n < -2 ^ 63 ↔ n < -2 ^ 63 - 2 ^ 10 := by
    have h := hbig (-n)
    rw [nearestDouble, Rounding.roundBits_neg, lt_neg] at h
    refine h.trans ?_
    constructor <;> intro _ <;> omega
  rw [readInt64Value, readsExactly_convertDouble_iff, nearestDouble_maxInt64, hbig,
    decide_eq_true_iff, nearestDouble_minInt64, hsmall, minInt64, maxInt64]
  constructor
  · rintro (h | h | ⟨hlow, h, hdouble⟩)
    · exact Or.inl h
    · exact Or.inr (Or.inl h)
    · exact Or.inr (Or.inr ⟨hlow, by omega, hdouble⟩)
  · rintro (h | h | ⟨hlow, h, hdouble⟩)
    · exact Or.inl h
    · exact Or.inr (Or.inl h)
    · exact Or.inr (Or.inr ⟨hlow, by omega, hdouble⟩)

end JsonParser
