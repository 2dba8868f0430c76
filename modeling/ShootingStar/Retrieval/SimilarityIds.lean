import ShootingStar.Retrieval.ItemSimilarityStores
import ShootingStar.Utilities.JsonParser

/-!
# Identifiers in JSON documents

The identifiers of a local file and of the other documents are numbers or texts.  A number is read
exactly when some double is equal to it, up to the largest integer of the type; the others up to
half a unit above the limit are read as another number, or not at all
(`readsExactly_iff`).
-/

namespace RecommendationEngine

open JsonParser (convertDouble ReadsExactly IsDouble readUint64Value readInt64Value)

/-- The number of a value converted to a positive `uint64_t`; `none` where the conversion is
undefined. -/
def convertPositiveUint64 (number : ℚ) (context : String) : Except String (Option ℤ) :=
  convertDouble (· ≤ 0) 0 maxUint64 (context ++ " contains invalid positive uint64") number

/-- The reader of identifiers converts the number it has checked; the undefined conversion is that of
`2 ^ 64`. -/
theorem positiveUint64OfDouble_eq (number : ℚ) (context : String) :
  positiveUint64OfDouble number context
    = (convertPositiveUint64 number context).map fun result => (result.getD (2 ^ 64)).toNat
  := by
  have hmax : nearestDouble maxUint64 = 2 ^ 64 := by decide +kernel
  rw [positiveUint64OfDouble, convertPositiveUint64, convertDouble, hmax]
  simp only [decide_eq_true_eq]
  by_cases hthrows : number ≤ 0 ∨ 2 ^ 64 < number ∨ ⌊number⌋ ≠ number
  · rw [if_pos hthrows, if_pos hthrows]
    rfl
  · rw [if_neg hthrows, if_neg hthrows]
    push Not at hthrows
    obtain ⟨hpos, hle, hfloor⟩ := hthrows
    have hk : 0 < ⌊number⌋ := by
      rw [← hfloor] at hpos
      exact_mod_cast hpos
    have hk' : ⌊number⌋ ≤ 2 ^ 64 := by
      rw [← hfloor] at hle
      exact_mod_cast hle
    rw [← hfloor, Rounding.toInteger, Rounding.truncate_intCast, Int.floor_intCast]
    split_ifs with hrange
    · rfl
    · have heq : ⌊number⌋ = 2 ^ 64 := by
        rw [maxUint64] at hrange
        omega
      rw [heq]
      rfl

/-- Positive integers are read exactly when they are doubles, up to `2 ^ 64`. -/
theorem readsExactly_convertPositiveUint64_iff (n : ℤ) (context : String) :
  ReadsExactly n (convertPositiveUint64 (nearestDouble n) context)
    ↔ n ≤ 0 ∨ 2 ^ 64 + 2 ^ 11 < n ∨ (n < 2 ^ 64 ∧ IsDouble n)
  := by
  have hmax : nearestDouble maxUint64 = 2 ^ 64 := by decide +kernel
  have hpos : nearestDouble n ≤ 0 ↔ n ≤ 0 := by
    rw [← not_lt, ← not_lt]
    exact not_congr (Rounding.roundBits_pos_iff (by norm_num))
  have hbig : (2 : ℚ) ^ 64 < nearestDouble n ↔ 2 ^ 64 + 2 ^ 11 < n :=
    Rounding.two_pow_lt_roundBits_iff (by norm_num) (by norm_num)
  rw [convertPositiveUint64, JsonParser.readsExactly_convertDouble_iff, hmax, hbig,
    decide_eq_true_iff, hpos, maxUint64]
  constructor
  · rintro (h | h | ⟨-, h, hdouble⟩)
    · exact Or.inl h
    · exact Or.inr (Or.inl h)
    · exact Or.inr (Or.inr ⟨by omega, hdouble⟩)
  · rintro (h | h | ⟨h, hdouble⟩)
    · exact Or.inl h
    · exact Or.inr (Or.inl h)
    · rcases le_or_gt n 0 with hn | hn
      · exact Or.inl hn
      · exact Or.inr (Or.inr ⟨hn.le, by omega, hdouble⟩)

/-- When an integer of a document is read exactly or refused: by the two readers of the parser, and
by the reader of identifiers. -/
theorem readsExactly_iff (n : ℤ) (context : String) :
  (ReadsExactly n (readUint64Value (.int n) context)
      ↔ n < 0 ∨ 2 ^ 64 + 2 ^ 11 < n ∨ (n < 2 ^ 64 ∧ IsDouble n))
    ∧ (ReadsExactly n (readInt64Value (.int n) context)
      ↔ n < -2 ^ 63 - 2 ^ 10 ∨ 2 ^ 63 + 2 ^ 10 < n ∨ (-2 ^ 63 ≤ n ∧ n < 2 ^ 63 ∧ IsDouble n))
    ∧ (ReadsExactly n (convertPositiveUint64 (nearestDouble n) context)
      ↔ n ≤ 0 ∨ 2 ^ 64 + 2 ^ 11 < n ∨ (n < 2 ^ 64 ∧ IsDouble n))
    ∧ readPositiveUint64 (.int n) context
      = (convertPositiveUint64 (nearestDouble n) context).map
          fun result => (result.getD (2 ^ 64)).toNat
  := ⟨JsonParser.readsExactly_readUint64Value_iff n context,
    JsonParser.readsExactly_readInt64Value_iff n context,
    readsExactly_convertPositiveUint64_iff n context,
    positiveUint64OfDouble_eq (nearestDouble n) context⟩

/-- The integer after `2 ^ 53` is read as `2 ^ 53`, and the conversion of the largest integer of each
type is undefined. -/
theorem not_readsExactly :
  (readUint64Value (.int (2 ^ 53 + 1)) "id" = .ok (some (2 ^ 53))
      ∧ readInt64Value (.int (2 ^ 53 + 1)) "id" = .ok (some (2 ^ 53))
      ∧ readPositiveUint64 (.int (2 ^ 53 + 1)) "id" = .ok (2 ^ 53))
    ∧ (readUint64Value (.int (2 ^ 64 - 1)) "id" = .ok none
      ∧ readInt64Value (.int (2 ^ 63 - 1)) "id" = .ok none
      ∧ convertPositiveUint64 (nearestDouble (2 ^ 64 - 1)) "id" = .ok none)
    ∧ ¬ (∀ n context, ReadsExactly n (readUint64Value (.int n) context)
      ∧ ReadsExactly n (readInt64Value (.int n) context)
      ∧ ReadsExactly n (convertPositiveUint64 (nearestDouble n) context))
  := by
  have hlargest : readUint64Value (.int (2 ^ 64 - 1)) "id" = .ok none := by decide +kernel
  refine ⟨by decide +kernel, ⟨hlargest, by decide +kernel, by decide +kernel⟩, ?_⟩
  intro h
  have hexact := (h (2 ^ 64 - 1) "id").1 none hlargest
  cases hexact

end RecommendationEngine
