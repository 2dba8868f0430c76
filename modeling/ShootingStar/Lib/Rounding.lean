import Mathlib.Algebra.Order.Floor.Ring
import Mathlib.Algebra.Order.Ring.Abs
import Mathlib.Data.Int.Log
import Mathlib.Tactic.Linarith
import Mathlib.Tactic.NormNum
import Mathlib.Tactic.FieldSimp
import Mathlib.Tactic.Ring

/-!
# Rounding

`roundDecimals n` rounds to `n` decimals and `roundSignificant n` to `n` significant digits, ties
to even.  Numbers between zero and one with at most `n` decimals have at most `n` significant
digits (`roundSignificant_roundDecimals`).  `roundBits n` rounds an integer to `n` significant bits,
which changes nothing up to the `n`-th power of two (`roundBits_eq_self`) and further on only what
has more bits (`roundBits_eq_self_iff`).  A power of two is rounded to by the integers up to half a
unit above it (`two_pow_lt_roundBits_iff`).

An arithmetic computes with some of the numbers of an ordered field, and may round what it computes.
It keeps to the powers of two in the range of normal and subnormal numbers of double precision: a
result that is at least such a power is rounded to at least that power.  Unless an arithmetic is given
it is exact (`Arithmetic.exact`).  `Arithmetic.binary64` rounds to the nearest number of double
precision, and the even one of two; infinity is `2 ^ 1024`, greater than all finite numbers.
-/

namespace Rounding

variable {K : Type*} [Field K] [LinearOrder K] [IsStrictOrderedRing K] [FloorRing K]

/-- The nearest integer, and the even one of two. -/
def roundHalfEven (x : K) : ℤ :=
  if x - ⌊x⌋ < 1 / 2 then ⌊x⌋
  else if 1 / 2 < x - ⌊x⌋ then ⌊x⌋ + 1
  else if ⌊x⌋ % 2 = 0 then ⌊x⌋
  else ⌊x⌋ + 1

/-- A number rounded to `n` decimals. -/
def roundDecimals (n : ℕ) (x : K) : K :=
  roundHalfEven (x * 10 ^ n) / 10 ^ n

/-- A number rounded to `n` significant digits. -/
def roundSignificant (n : ℕ) (x : K) : K :=
  if x = 0 then 0
  else
    let unit : K := 10 ^ (Int.log 10 |x| - n + 1)
    roundHalfEven (x / unit) * unit

/-- An integer rounded to `n` significant bits. -/
def roundBits (n : ℕ) (m : ℤ) : K :=
  let unit : K := 2 ^ (Nat.log 2 m.natAbs + 1 - n)
  roundHalfEven (m / unit) * unit

@[simp]
theorem roundHalfEven_intCast (m : ℤ) :
  roundHalfEven (m : K) = m
  := by
  rw [roundHalfEven, Int.floor_intCast, if_pos]
  norm_num

omit [IsStrictOrderedRing K] in
theorem floor_le_roundHalfEven (x : K) :
  ⌊x⌋ ≤ roundHalfEven x
  := by
  rw [roundHalfEven]
  split_ifs <;> omega

theorem roundHalfEven_le_of_le {x : K} {m : ℤ} (h : x ≤ m) :
  roundHalfEven x ≤ m
  := by
  have hfloor : ⌊x⌋ ≤ m := Int.cast_le.mp ((Int.floor_le x).trans h)
  rcases hfloor.eq_or_lt with heq | hlt
  · have hx : x - ⌊x⌋ < 1 / 2 := by
      rw [heq]
      linarith
    rw [roundHalfEven, if_pos hx]
    exact hfloor
  · rw [roundHalfEven]
    split_ifs <;> omega

/-- The decimals kept are those of a multiple of the unit. -/
theorem roundSignificant_eq_self {n : ℕ} {x : K} {m : ℤ}
    (h : x = m * 10 ^ (Int.log 10 |x| - n + 1)) :
  roundSignificant n x = x
  := by
  rw [roundSignificant]
  split
  · rename_i hx
    exact hx.symm
  · have hunit : (10 : K) ^ (Int.log 10 |x| - n + 1) ≠ 0 := zpow_ne_zero _ (by norm_num)
    have hdiv : x / 10 ^ (Int.log 10 |x| - n + 1) = m := (div_eq_iff hunit).mpr h
    dsimp only
    rw [hdiv, roundHalfEven_intCast]
    exact h.symm

/-- An integer up to the `n`-th power of two has at most `n` significant bits. -/
theorem roundBits_eq_self {n : ℕ} (hn : 0 < n) {m : ℤ} (h : m.natAbs ≤ 2 ^ n) :
  (roundBits n m : K) = m
  := by
  rw [roundBits]
  rcases h.lt_or_eq with hlt | heq
  · have hlog : Nat.log 2 m.natAbs < n := Nat.log_lt_of_lt_pow' hn.ne' hlt
    have hexp : Nat.log 2 m.natAbs + 1 - n = 0 := by omega
    rw [hexp, pow_zero, div_one, mul_one, roundHalfEven_intCast]
  · have hexp : Nat.log 2 m.natAbs + 1 - n = 1 := by
      rw [heq, Nat.log_pow (by norm_num)]
      omega
    have heven : (2 : ℤ) ∣ m := by
      apply Int.natCast_dvd.mpr
      rw [heq]
      exact dvd_pow_self 2 hn.ne'
    obtain ⟨k, rfl⟩ := heven
    have hhalf : ((2 * k : ℤ) : K) / 2 = k := by
      push_cast
      field_simp
    rw [hexp, pow_one, hhalf, roundHalfEven_intCast]
    push_cast
    ring

/-- A number between zero and one with `n` decimals has at most `n` significant digits. -/
theorem roundSignificant_roundDecimals {n : ℕ} (hn : 0 < n) {x : K} (h0 : 0 ≤ x) (h1 : x ≤ 1) :
  roundSignificant n (roundDecimals n x) = roundDecimals n x
  := by
  have hten : (10 : K) ≠ 0 := by norm_num
  have hpow : (0 : K) < 10 ^ n := by positivity
  have hnonneg : (0 : ℤ) ≤ roundHalfEven (x * 10 ^ n) :=
    (Int.floor_nonneg.mpr (mul_nonneg h0 hpow.le)).trans (floor_le_roundHalfEven _)
  have hle : roundHalfEven (x * 10 ^ n) ≤ 10 ^ n := by
    apply roundHalfEven_le_of_le
    push_cast
    exact mul_le_of_le_one_left hpow.le h1
  rw [roundDecimals]
  generalize roundHalfEven (x * 10 ^ n) = m at hnonneg hle
  rcases hnonneg.eq_or_lt with rfl | hpos
  · simp [roundSignificant]
  have hy : (0 : K) < m / 10 ^ n := div_pos (Int.cast_pos.mpr hpos) hpow
  have hy1 : (m : K) / 10 ^ n ≤ 1 := by
    rw [div_le_one hpow]
    exact_mod_cast hle
  have hlog : Int.log 10 ((m : K) / 10 ^ n) ≤ 0 := by
    have h := Int.log_mono_right (b := 10) hy hy1
    rwa [Int.log_one_right] at h
  rcases hlog.eq_or_lt with hzero | hneg
  · have hone : (m : K) / 10 ^ n = 1 := by
      apply le_antisymm hy1
      have h := Int.zpow_log_le_self (b := 10) (by norm_num) hy
      rwa [hzero, zpow_zero] at h
    have hexp : (1 : K) = ((10 ^ (n - 1) : ℕ) : ℤ) * 10 ^ (Int.log 10 |(1 : K)| - n + 1) := by
      have hsum : ((n - 1 : ℕ) : ℤ) + (0 - n + 1) = 0 := by omega
      rw [abs_one, Int.log_one_right, Int.cast_natCast, Nat.cast_pow, Nat.cast_ofNat,
        ← zpow_natCast, ← zpow_add₀ hten, hsum, zpow_zero]
    rw [hone]
    exact roundSignificant_eq_self hexp
  · obtain ⟨j, hj⟩ : ∃ j : ℕ, Int.log 10 ((m : K) / 10 ^ n) = -1 - j := by
      use (-1 - Int.log 10 ((m : K) / 10 ^ n)).toNat
      omega
    apply roundSignificant_eq_self (m := m * 10 ^ j)
    have hsum : (j : ℤ) + (-1 - j - n + 1) = -n := by ring
    rw [abs_of_pos hy, hj, Int.cast_mul, Int.cast_pow, Int.cast_ofNat, mul_assoc,
      ← zpow_natCast (10 : K) j, ← zpow_add₀ hten, hsum, zpow_neg, zpow_natCast]
    exact div_eq_mul_inv _ _

/-! ### Rounding to bits -/

omit [IsStrictOrderedRing K] in
theorem le_roundHalfEven_of_le {x : K} {m : ℤ} (h : (m : K) ≤ x) :
  m ≤ roundHalfEven x
  := (Int.le_floor.mpr h).trans (floor_le_roundHalfEven x)

/-- What is rounded to an even integer or below it. -/
theorem roundHalfEven_le_iff {x : K} {m : ℤ} (hm : m % 2 = 0) :
  roundHalfEven x ≤ m ↔ x ≤ m + 1 / 2
  := by
  have hlt := Int.lt_floor_add_one x
  rcases lt_trichotomy ⌊x⌋ m with hfloor | hfloor | hfloor
  · have hle : (⌊x⌋ : K) + 1 ≤ m := by exact_mod_cast hfloor
    constructor
    · intro _
      linarith
    · intro _
      apply roundHalfEven_le_of_le
      linarith
  · rw [roundHalfEven, hfloor]
    split_ifs with hbelow habove
    · exact ⟨fun _ => by linarith, fun _ => le_rfl⟩
    · exact ⟨fun h => by omega, fun h => by linarith⟩
    · exact ⟨fun _ => by linarith, fun _ => le_rfl⟩
  · have hle : (m : K) + 1 ≤ x := by
      apply le_trans _ (Int.floor_le x)
      exact_mod_cast hfloor
    constructor
    · intro h
      have hfl := floor_le_roundHalfEven x
      omega
    · intro h
      linarith

@[simp]
theorem roundHalfEven_neg (x : K) :
  roundHalfEven (-x) = -roundHalfEven x
  := by
  have hle := Int.floor_le x
  have hlt := Int.lt_floor_add_one x
  rcases hle.eq_or_lt with heq | hne
  · rw [← heq, ← Int.cast_neg, roundHalfEven_intCast, roundHalfEven_intCast]
  · have hfloor : ⌊-x⌋ = -⌊x⌋ - 1 := by
      apply Int.floor_eq_iff.mpr
      push_cast
      constructor <;> linarith
    rw [roundHalfEven, roundHalfEven, hfloor]
    push_cast
    split_ifs <;> first | omega | linarith

omit [IsStrictOrderedRing K] in
/-- An integer is rounded to an integer. -/
theorem exists_roundBits_eq (n : ℕ) (m : ℤ) :
  ∃ k : ℤ, (roundBits n m : K) = k
  := by
  use roundHalfEven ((m : K) / 2 ^ (Nat.log 2 m.natAbs + 1 - n))
    * 2 ^ (Nat.log 2 m.natAbs + 1 - n)
  push_cast
  rfl

@[simp]
theorem roundBits_neg (n : ℕ) (m : ℤ) :
  (roundBits n (-m) : K) = -roundBits n m
  := by
  simp only [roundBits, Int.natAbs_neg, Int.cast_neg, neg_div, roundHalfEven_neg]
  ring

variable {n : ℕ} {m : ℤ}

/-- Integers are rounded to integers of at most `n` bits, and those with no more bits are kept. -/
theorem roundBits_eq_self_iff (hn : 0 < n) :
  (roundBits n m : K) = m ↔ ∃ (j : ℤ) (k : ℕ), j.natAbs < 2 ^ n ∧ m = j * 2 ^ k
  := by
  have hlog : m.natAbs < 2 ^ (Nat.log 2 m.natAbs + 1) :=
    Nat.lt_pow_succ_log_self (by norm_num) m.natAbs
  have hpow : ∀ k : ℕ, (0 : K) < 2 ^ k := fun k => by positivity
  constructor
  · intro h
    rw [roundBits] at h
    generalize hk : Nat.log 2 m.natAbs + 1 - n = k at h
    have hm : m = roundHalfEven ((m : K) / 2 ^ k) * 2 ^ k := by
      exact_mod_cast h.symm
    refine ⟨_, k, ?_, hm⟩
    have habs : m.natAbs = (roundHalfEven ((m : K) / 2 ^ k)).natAbs * 2 ^ k := by
      conv_lhs => rw [hm]
      rw [Int.natAbs_mul, Int.natAbs_pow]
      rfl
    have hlt : (roundHalfEven ((m : K) / 2 ^ k)).natAbs * 2 ^ k < 2 ^ n * 2 ^ k := by
      rw [← habs, ← pow_add]
      apply hlog.trans_le
      apply Nat.pow_le_pow_right (by norm_num)
      omega
    exact Nat.lt_of_mul_lt_mul_right hlt
  · rintro ⟨j, k, hj, hm⟩
    have habs : m.natAbs < 2 ^ (n + k) := by
      rw [hm, Int.natAbs_mul, Int.natAbs_pow, pow_add]
      exact Nat.mul_lt_mul_of_pos_right hj (Nat.pow_pos (by norm_num))
    have hle : Nat.log 2 m.natAbs < n + k := Nat.log_lt_of_lt_pow' (by omega) habs
    obtain ⟨i, hi⟩ : ∃ i, k = Nat.log 2 m.natAbs + 1 - n + i := Nat.exists_eq_add_of_le (by omega)
    have hdiv : (m : K) / 2 ^ (Nat.log 2 m.natAbs + 1 - n) = ((j * 2 ^ i : ℤ) : K) := by
      rw [div_eq_iff (hpow _).ne']
      conv_lhs => rw [hm, hi]
      push_cast
      ring
    rw [roundBits, hdiv, roundHalfEven_intCast, ← hdiv, div_mul_cancel₀ _ (hpow _).ne']

theorem two_pow_le_roundBits (hn : 0 < n) {p : ℕ} (h : 2 ^ p ≤ m) :
  (2 : K) ^ p ≤ roundBits n m
  := by
  have hpos : 0 < m := lt_of_lt_of_le (by positivity) h
  have hlog : 2 ^ Nat.log 2 m.natAbs ≤ m := by
    have hself := Nat.pow_log_le_self 2 (Int.natAbs_pos.mpr hpos.ne').ne'
    rw [← Int.natAbs_of_nonneg hpos.le]
    exact_mod_cast hself
  have hp : p ≤ Nat.log 2 m.natAbs := by
    apply Nat.le_log_of_pow_le (by norm_num)
    zify
    rw [abs_of_pos hpos]
    exact h
  rw [roundBits]
  generalize Nat.log 2 m.natAbs = l at hlog hp
  obtain ⟨i, hi⟩ : ∃ i, l = l + 1 - n + i := Nat.exists_eq_add_of_le (by omega)
  have hunit : (0 : K) < 2 ^ (l + 1 - n) := by positivity
  have hround : (2 : ℤ) ^ i ≤ roundHalfEven ((m : K) / 2 ^ (l + 1 - n)) := by
    apply le_roundHalfEven_of_le
    rw [le_div_iff₀ hunit]
    push_cast
    rw [← pow_add, Nat.add_comm, ← hi]
    exact_mod_cast hlog
  have hround : (2 : K) ^ i ≤ (roundHalfEven ((m : K) / 2 ^ (l + 1 - n)) : ℤ) := by
    exact_mod_cast hround
  calc (2 : K) ^ p ≤ 2 ^ l := pow_le_pow_right₀ (by norm_num) hp
    _ = 2 ^ i * 2 ^ (l + 1 - n) := by rw [← pow_add, Nat.add_comm, ← hi]
    _ ≤ _ := mul_le_mul_of_nonneg_right hround hunit.le

theorem roundBits_le_two_pow (hn : 0 < n) {p : ℕ} (h : m ≤ 2 ^ p) :
  (roundBits n m : K) ≤ 2 ^ p
  := by
  rcases le_or_gt m 0 with hm | hm
  · apply le_trans _ (pow_nonneg (by norm_num) p)
    rw [roundBits]
    apply mul_nonpos_of_nonpos_of_nonneg _ (by positivity)
    have hround : roundHalfEven ((m : K) / 2 ^ (Nat.log 2 m.natAbs + 1 - n)) ≤ 0 := by
      apply roundHalfEven_le_of_le
      rw [Int.cast_zero]
      apply div_nonpos_of_nonpos_of_nonneg _ (by positivity)
      exact_mod_cast hm
    exact_mod_cast hround
  · have hlog : Nat.log 2 m.natAbs ≤ p := by
      have hle : m.natAbs ≤ 2 ^ p := by
        zify
        rw [abs_of_pos hm]
        exact h
      have hmono := Nat.log_mono_right (b := 2) hle
      rwa [Nat.log_pow (by norm_num)] at hmono
    rw [roundBits]
    generalize Nat.log 2 m.natAbs = l at hlog
    obtain ⟨i, hi⟩ : ∃ i, p = l + 1 - n + i := Nat.exists_eq_add_of_le (by omega)
    have hunit : (0 : K) < 2 ^ (l + 1 - n) := by positivity
    have hround : roundHalfEven ((m : K) / 2 ^ (l + 1 - n)) ≤ 2 ^ i := by
      apply roundHalfEven_le_of_le
      rw [div_le_iff₀ hunit]
      push_cast
      rw [← pow_add, Nat.add_comm, ← hi]
      exact_mod_cast h
    have hround : ((roundHalfEven ((m : K) / 2 ^ (l + 1 - n)) : ℤ) : K) ≤ 2 ^ i := by
      exact_mod_cast hround
    calc _ ≤ (2 : K) ^ i * 2 ^ (l + 1 - n) := mul_le_mul_of_nonneg_right hround hunit.le
      _ = 2 ^ p := by rw [← pow_add, Nat.add_comm, ← hi]

theorem roundBits_pos_iff (hn : 0 < n) :
  (0 : K) < roundBits n m ↔ 0 < m
  := by
  have hone : ∀ k : ℤ, 0 < k → (1 : K) ≤ roundBits n k := by
    intro k hk
    rw [← pow_zero 2]
    apply two_pow_le_roundBits hn
    rw [pow_zero]
    exact hk
  constructor
  · intro h
    by_contra hm
    rcases (not_lt.mp hm).eq_or_lt with rfl | hneg
    · rw [roundBits_eq_self hn (by simp), Int.cast_zero] at h
      exact lt_irrefl _ h
    · have hle := hone (-m) (by omega)
      rw [roundBits_neg] at hle
      linarith
  · intro h
    exact lt_of_lt_of_le one_pos (hone m h)

theorem roundBits_neg_iff (hn : 0 < n) :
  (roundBits n m : K) < 0 ↔ m < 0
  := by
  have h := roundBits_pos_iff (K := K) (m := -m) hn
  rwa [roundBits_neg, neg_pos, neg_pos] at h

/-- Half a unit above a power of two the rounded integers leave it. -/
theorem two_pow_lt_roundBits_iff (hn : 2 ≤ n) {p : ℕ} (hp : n ≤ p) :
  (2 : K) ^ p < roundBits n m ↔ 2 ^ p + 2 ^ (p - n) < m
  := by
  have hpow : (2 : ℤ) ^ (p + 1) = 2 ^ p + 2 ^ p := by ring
  have hhalf : (2 : ℤ) ^ (p - n) < 2 ^ p := pow_lt_pow_right₀ (by norm_num) (by omega)
  have hpos : (0 : ℤ) < 2 ^ (p - n) := by positivity
  rcases lt_or_ge m (2 ^ p) with hlt | hge
  · have hle := roundBits_le_two_pow (K := K) (by omega : 0 < n) hlt.le
    constructor
    · intro h
      exact absurd h (not_lt.mpr hle)
    · intro h
      omega
  rcases lt_or_ge m (2 ^ (p + 1)) with hlt' | hge'
  · have hm : 0 ≤ m := le_trans (by positivity) hge
    have hlog : Nat.log 2 m.natAbs = p := by
      apply Nat.log_eq_of_pow_le_of_lt_pow <;> zify <;> rw [abs_of_nonneg hm] <;> assumption
    obtain ⟨i, rfl⟩ := Nat.exists_eq_add_of_le hp
    obtain ⟨j, rfl⟩ := Nat.exists_eq_add_of_le' hn
    have hunit : (0 : K) < 2 ^ (i + 1) := by positivity
    have heven : (2 ^ (j + 1) : ℤ) % 2 = 0 := by
      rw [pow_succ]
      exact Int.mul_emod_left _ _
    have hround := roundHalfEven_le_iff (x := (m : K) / 2 ^ (i + 1)) heven
    rw [div_le_iff₀ hunit] at hround
    have hsplit : (2 : K) ^ (j + 2 + i) = ((2 ^ (j + 1) : ℤ) : K) * 2 ^ (i + 1) := by
      push_cast
      ring
    have hexp : j + 2 + i + 1 - (j + 2) = i + 1 := by omega
    have hexp' : j + 2 + i - (j + 2) = i := by omega
    rw [roundBits, hlog, hexp, hsplit, hexp', mul_lt_mul_iff_left₀ hunit, Int.cast_lt, ← not_le,
      hround, not_le]
    have hsum : (((2 ^ (j + 1) : ℤ) : K) + 1 / 2) * 2 ^ (i + 1)
        = ((2 ^ (j + 2 + i) + 2 ^ i : ℤ) : K) := by
      push_cast
      ring
    rw [hsum, Int.cast_lt]
  · have hle := two_pow_le_roundBits (K := K) (by omega : 0 < n) hge'
    constructor
    · intro _
      omega
    · intro _
      apply lt_of_lt_of_le _ hle
      exact pow_lt_pow_right₀ (by norm_num) (by omega)

/-! ### Conversions -/

/-- A number without its fraction. -/
def truncate (x : K) : ℤ :=
  if 0 ≤ x then ⌊x⌋ else ⌈x⌉

/-- A number converted to an integer type, unless its integer part is out of the range. -/
def toInteger (low high : ℤ) (x : K) : Option ℤ :=
  if low ≤ truncate x ∧ truncate x ≤ high then some (truncate x) else none

@[simp]
theorem truncate_intCast (m : ℤ) :
  truncate (m : K) = m
  := by
  rw [truncate]
  split
  · exact Int.floor_intCast m
  · exact Int.ceil_intCast m

end Rounding

/-! ### Arithmetic that may round -/

/-- The exponents of the powers of two that are numbers of double precision. -/
def Arithmetic.InRange (e : ℤ) : Prop :=
  -1074 ≤ e ∧ e ≤ 1023

instance (e : ℤ) : Decidable (Arithmetic.InRange e) :=
  inferInstanceAs (Decidable (_ ∧ _))

/-- Operations whose results may be rounded. -/
class Arithmetic (K : Type*) [Field K] [LinearOrder K] where
  /-- The number that a literal stands for. -/
  literal : K → K
  add : K → K → K
  mul : K → K → K
  div : K → K → K
  le_literal {e : ℤ} {x : K} (he : Arithmetic.InRange e) (hx : 2 ^ e ≤ x) : 2 ^ e ≤ literal x
  le_mul {d e : ℤ} {x y : K} (he : Arithmetic.InRange (d + e)) (hx : 2 ^ d ≤ x) (hy : 2 ^ e ≤ y) :
    2 ^ (d + e) ≤ mul x y
  le_div {d e : ℤ} {x y : K} (he : Arithmetic.InRange (d - e)) (he' : Arithmetic.InRange e)
    (hx : 2 ^ d ≤ x) (hpos : 0 < y) (hy : y ≤ 2 ^ e) : 2 ^ (d - e) ≤ div x y

namespace Arithmetic

section Exact

variable {K : Type*} [Field K] [LinearOrder K] [IsStrictOrderedRing K]

theorem two_zpow_add_le_mul {d e : ℤ} {x y : K} (hx : 2 ^ d ≤ x) (hy : 2 ^ e ≤ y) :
  2 ^ (d + e) ≤ x * y
  := by
  rw [zpow_add₀ two_ne_zero]
  have hd : (0 : K) < 2 ^ d := zpow_pos two_pos d
  have he : (0 : K) < 2 ^ e := zpow_pos two_pos e
  exact mul_le_mul hx hy he.le (hd.le.trans hx)

theorem two_zpow_sub_le_div {d e : ℤ} {x y : K} (hx : 2 ^ d ≤ x) (hpos : 0 < y) (hy : y ≤ 2 ^ e) :
  2 ^ (d - e) ≤ x / y
  := by
  rw [zpow_sub₀ two_ne_zero]
  have hd : (0 : K) < 2 ^ d := zpow_pos two_pos d
  exact div_le_div₀ (hd.le.trans hx) hx hpos hy

/-- The arithmetic that does not round. -/
instance (priority := low) exact : Arithmetic K where
  literal x := x
  add x y := x + y
  mul x y := x * y
  div x y := x / y
  le_literal _ hx := hx
  le_mul _ hx hy := two_zpow_add_le_mul hx hy
  le_div _ _ hx hpos hy := two_zpow_sub_le_div hx hpos hy

@[simp]
theorem exact_literal (x : K) :
  exact.literal x = x
  := rfl

@[simp]
theorem exact_add (x y : K) :
  exact.add x y = x + y
  := rfl

@[simp]
theorem exact_mul (x y : K) :
  exact.mul x y = x * y
  := rfl

@[simp]
theorem exact_div (x y : K) :
  exact.div x y = x / y
  := rfl

end Exact

section Binary

variable {K : Type*} [Field K] [LinearOrder K] [IsStrictOrderedRing K] [FloorRing K]

/-- The nearest number of `p` binary digits that is a multiple of `2 ^ emin`. -/
def roundBinary (p : ℕ) (emin : ℤ) (x : K) : K :=
  if x = 0 then 0
  else
    let unit : K := 2 ^ max (Int.log 2 |x| - p + 1) emin
    Rounding.roundHalfEven (x / unit) * unit

/-- A power of two that is a multiple of `2 ^ emin` is not rounded across. -/
theorem two_zpow_le_roundBinary {p : ℕ} (hp : 0 < p) {emin e : ℤ} (he : emin ≤ e) {x : K}
    (hx : 2 ^ e ≤ x) :
  2 ^ e ≤ roundBinary p emin x
  := by
  have hpos : 0 < x := (zpow_pos two_pos e).trans_le hx
  rw [roundBinary, if_neg hpos.ne', abs_of_pos hpos]
  simp only
  generalize hu : max (Int.log 2 x - p + 1) emin = u
  have hunit : (0 : K) < 2 ^ u := zpow_pos two_pos u
  -- the greater of the power and the unit is a multiple of the unit
  have hle : (2 : K) ^ max e u ≤ x := by
    rcases max_choice e u with hmax | hmax
    · rw [hmax]
      exact hx
    · rw [hmax]
      rcases max_choice (Int.log 2 x - p + 1) emin with hlog | hmin
      · have hexp : u ≤ Int.log 2 x := by omega
        have hlog' : (2 : K) ^ Int.log 2 x ≤ x := by
          exact_mod_cast Int.zpow_log_le_self one_lt_two hpos
        exact (zpow_le_zpow_right₀ one_le_two hexp).trans hlog'
      · have hexp : u ≤ e := by omega
        exact (zpow_le_zpow_right₀ one_le_two hexp).trans hx
  obtain ⟨n, hn⟩ := Int.eq_ofNat_of_zero_le (sub_nonneg.mpr (le_max_right e u))
  have hmultiple : (2 : K) ^ max e u = ((2 ^ n : ℕ) : ℤ) * 2 ^ u := by
    have hexp : max e u = (n : ℤ) + u := by omega
    rw [hexp, zpow_add₀ two_ne_zero]
    push_cast
    rw [zpow_natCast]
  have hdiv : (((2 ^ n : ℕ) : ℤ) : K) ≤ x / 2 ^ u := by
    rw [le_div_iff₀ hunit, ← hmultiple]
    exact hle
  have hround := Rounding.le_roundHalfEven_of_le hdiv
  have hround' : (((2 ^ n : ℕ) : ℤ) : K) ≤ (Rounding.roundHalfEven (x / 2 ^ u) : K) :=
    Int.cast_le.mpr hround
  calc (2 : K) ^ e ≤ 2 ^ max e u := zpow_le_zpow_right₀ one_le_two (le_max_left e u)
    _ = ((2 ^ n : ℕ) : ℤ) * 2 ^ u := hmultiple
    _ ≤ Rounding.roundHalfEven (x / 2 ^ u) * 2 ^ u := mul_le_mul_of_nonneg_right hround' hunit.le

/-- The infinity of double precision, which stands above its finite numbers. -/
def infinity : K :=
  2 ^ 1024

/-- The nearest number of double precision. -/
def roundBinary64 (x : K) : K :=
  max (-infinity) (min infinity (roundBinary 53 (-1074) x))

theorem two_zpow_le_infinity {e : ℤ} (he : InRange e) :
  (2 : K) ^ e ≤ infinity
  := by
  rw [infinity, ← zpow_natCast]
  apply zpow_le_zpow_right₀ one_le_two
  exact he.2.trans (by norm_num)

theorem two_zpow_le_roundBinary64 {e : ℤ} (he : InRange e) {x : K} (hx : 2 ^ e ≤ x) :
  2 ^ e ≤ roundBinary64 x
  := by
  apply le_max_of_le_right
  apply le_min
  · exact two_zpow_le_infinity he
  · exact two_zpow_le_roundBinary (by norm_num) he.1 hx

/-- A finite number of double precision. -/
def IsFinite (x : K) : Prop :=
  |x| < infinity

instance (x : K) : Decidable (IsFinite x) :=
  inferInstanceAs (Decidable (_ < _))

/-- Infinity with the sign of a number. -/
def infinite (x : K) : K :=
  if 0 < x then infinity else if x < 0 then -infinity else 0

omit [IsStrictOrderedRing K] [FloorRing K] in
theorem infinite_of_pos {x : K} (hx : 0 < x) :
  infinite x = infinity
  := if_pos hx

theorem isFinite_of_le {e : ℤ} (he : InRange e) {x : K} (hpos : 0 < x) (hx : x ≤ 2 ^ e) :
  IsFinite x
  := by
  rw [IsFinite, abs_of_pos hpos]
  have hlt : (2 : K) ^ e < infinity := by
    rw [infinity, ← zpow_natCast]
    apply zpow_lt_zpow_right₀ one_lt_two
    exact he.2.trans_lt (by norm_num)
  exact hx.trans_lt hlt

/-- Arithmetic in double precision.  What is not a number is left out. -/
@[reducible]
def binary64 : Arithmetic K where
  literal := roundBinary64
  add x y :=
    if ¬ IsFinite x then x else if ¬ IsFinite y then y else roundBinary64 (x + y)
  mul x y := if IsFinite x ∧ IsFinite y then roundBinary64 (x * y) else infinite (x * y)
  div x y :=
    if ¬ IsFinite y then 0 else if ¬ IsFinite x then infinite (x * y) else roundBinary64 (x / y)
  le_literal he hx := two_zpow_le_roundBinary64 he hx
  le_mul {d e x y} he hx hy := by
    split
    · exact two_zpow_le_roundBinary64 he (two_zpow_add_le_mul hx hy)
    · have hpos : 0 < x * y :=
        mul_pos ((zpow_pos two_pos d).trans_le hx) ((zpow_pos two_pos e).trans_le hy)
      rw [infinite_of_pos hpos]
      exact two_zpow_le_infinity he
  le_div {d e x y} he he' hx hpos hy := by
    rw [if_neg (not_not.mpr (isFinite_of_le he' hpos hy))]
    split
    · rw [infinite_of_pos (mul_pos ((zpow_pos two_pos d).trans_le hx) hpos)]
      exact two_zpow_le_infinity he
    · exact two_zpow_le_roundBinary64 he (two_zpow_sub_le_div hx hpos hy)

end Binary

end Arithmetic
