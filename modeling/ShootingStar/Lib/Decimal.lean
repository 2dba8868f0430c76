import Mathlib.Data.NNRat.Lemmas
import Mathlib.Data.Rat.Floor
import ShootingStar.Lib.Rounding
import ShootingStar.Lib.Text

/-!
# Decimal numbers in texts

`read` reads a number at the front of a text as `strtod` does, but exactly, and `print` writes a
number with a fixed number of decimals.  What is written is read back as the number rounded to that
many decimals (`read_print`), and rounding keeps a number exactly when it has no more decimals
(`value_round_eq_iff`).
-/

namespace Decimal

/-- A number with a sign, which zero has too. -/
structure Signed where
  negative : Bool
  magnitude : NNRat
  deriving DecidableEq

/-- The rational number that it stands for. -/
def Signed.value (x : Signed) : ℚ :=
  if x.negative then -x.magnitude else x.magnitude

/-! ### Reading -/

/-- ASCII white space. -/
def isSpace (c : Char) : Bool :=
  c = ' ' ∨ (9 ≤ c.toNat ∧ c.toNat ≤ 13)

/-- The digits of a number, and how its exponent is marked and counts. -/
structure Numeral where
  isDigit : Char → Bool
  value : List Char → ℕ
  base : ℕ
  isExponentMark : Char → Bool
  exponentBase : ℕ

/-- Decimal digits with a decimal exponent. -/
def decimal : Numeral where
  isDigit := Char.isDigit
  value digits := Nat.ofDigitChars 10 digits 0
  base := 10
  isExponentMark c := c = 'e' ∨ c = 'E'
  exponentBase := 10

/-- The value of a hexadecimal digit. -/
def hexDigitValue (c : Char) : ℕ :=
  if c.isDigit then c.toNat - '0'.toNat else c.toLower.toNat - 'a'.toNat + 10

/-- Hexadecimal digits with a binary exponent. -/
def hexadecimal : Numeral where
  isDigit c := c.isDigit ∨ ('a' ≤ c.toLower ∧ c.toLower ≤ 'f')
  value digits := digits.foldl (fun n c => 16 * n + hexDigitValue c) 0
  base := 16
  isExponentMark c := c = 'p' ∨ c = 'P'
  exponentBase := 2

/-- A sign at the front: whether it is a minus sign, and what follows. -/
def readSign : List Char → Bool × List Char
  | '-' :: rest => (true, rest)
  | '+' :: rest => (false, rest)
  | cs => (false, cs)

/-- An exponent at the front, and what follows; a mark without digits is not read. -/
def readExponent (numeral : Numeral) (cs : List Char) : ℤ × List Char :=
  match cs with
  | [] => (0, cs)
  | mark :: rest =>
    let (negative, rest) := readSign rest
    let digits := rest.takeWhile Char.isDigit
    if numeral.isExponentMark mark ∧ digits ≠ [] then
      let exponent : ℤ := Nat.ofDigitChars 10 digits 0
      (if negative then -exponent else exponent, rest.dropWhile Char.isDigit)
    else (0, cs)

/-- The digits after a point at the front, and what follows. -/
def readFraction (numeral : Numeral) : List Char → List Char × List Char
  | '.' :: rest => (rest.takeWhile numeral.isDigit, rest.dropWhile numeral.isDigit)
  | cs => ([], cs)

/-- A number without a sign at the front, and what follows. -/
def readMagnitude (numeral : Numeral) (cs : List Char) : Option (NNRat × List Char) :=
  let whole := cs.takeWhile numeral.isDigit
  let (fraction, rest) := readFraction numeral (cs.dropWhile numeral.isDigit)
  if whole ++ fraction = [] then none
  else
    let (exponent, rest) := readExponent numeral rest
    some ((numeral.value (whole ++ fraction) : NNRat) * (numeral.exponentBase : NNRat) ^ exponent
      / (numeral.base : NNRat) ^ fraction.length, rest)

/-- A hexadecimal or a decimal number at the front, and what follows. -/
def readUnsigned (cs : List Char) : Option (NNRat × List Char) :=
  match cs with
  | '0' :: x :: rest =>
    if x = 'x' ∨ x = 'X' then
      (readMagnitude hexadecimal rest).or (readMagnitude decimal cs)
    else readMagnitude decimal cs
  | _ => readMagnitude decimal cs

/-- A finite number at the front after white space, and what follows. -/
def read (cs : List Char) : Option (Signed × List Char) :=
  let (negative, cs) := readSign (cs.dropWhile isSpace)
  (readUnsigned cs).map fun (magnitude, rest) =>
    ({ negative := negative, magnitude := magnitude }, rest)

/-! ### Writing -/

/-- The number of units of the last decimal. -/
def units (decimals : ℕ) (x : Signed) : ℕ :=
  (Rounding.roundHalfEven ((x.magnitude : ℚ) * 10 ^ decimals)).toNat

/-- The digits of a number with a point before the last ones. -/
def fixedPoint (decimals n : ℕ) : List Char :=
  Nat.toDigits 10 (n / 10 ^ decimals)
    ++ '.' :: (Nat.toDigits 10 (n % 10 ^ decimals)).leftpad decimals '0'

/-- A number with a fixed number of decimals. -/
def print (decimals : ℕ) (x : Signed) : List Char :=
  let digits := fixedPoint decimals (units decimals x)
  if x.negative then '-' :: digits else digits

/-- The number rounded to a number of decimals. -/
def round (decimals : ℕ) (x : Signed) : Signed where
  negative := x.negative
  magnitude := units decimals x / (10 ^ decimals : ℕ)

/-! ### Reading what is written -/

theorem isDigit_of_mem_leftpad {decimals n : ℕ} :
  ∀ c ∈ (Nat.toDigits 10 n).leftpad decimals '0', c.isDigit = true
  := by
  intro c hc
  rw [List.leftpad, List.mem_append] at hc
  rcases hc with hc | hc
  · rw [List.eq_of_mem_replicate hc]
    rfl
  · exact Nat.isDigit_of_mem_toDigits (by norm_num) (by norm_num) hc

/-- The digits before and after the point are those of the number. -/
theorem ofDigitChars_fixedPoint {decimals : ℕ} (h : 0 < decimals) (n : ℕ) :
  Nat.ofDigitChars 10 (Nat.toDigits 10 (n / 10 ^ decimals)
      ++ (Nat.toDigits 10 (n % 10 ^ decimals)).leftpad decimals '0') 0 = n
  := by
  have hlength : (Nat.toDigits 10 (n % 10 ^ decimals)).length ≤ decimals := by
    rw [Nat.length_toDigits_le_iff (by norm_num) h]
    exact Nat.mod_lt _ (by positivity)
  have hpad : ((Nat.toDigits 10 (n % 10 ^ decimals)).leftpad decimals '0').length = decimals := by
    rw [List.length_leftpad, max_eq_left hlength]
  rw [Nat.ofDigitChars_append, Nat.ofDigitChars_eq_ofDigitChars_zero, hpad,
    Nat.ofDigitChars_ten_toDigits, List.leftpad, Nat.ofDigitChars_append,
    Nat.ofDigitChars_replicate_zero, mul_zero, Nat.ofDigitChars_ten_toDigits]
  exact Nat.div_add_mod n (10 ^ decimals)

/-- A number with a point is read as written. -/
theorem readMagnitude_fixedPoint {decimals : ℕ} (h : 0 < decimals) (n : ℕ) :
  readMagnitude decimal (fixedPoint decimals n) = some ((n : NNRat) / 10 ^ decimals, [])
  := by
  have hwhole : ∀ c ∈ Nat.toDigits 10 (n / 10 ^ decimals), decimal.isDigit c = true :=
    fun c hc => Nat.isDigit_of_mem_toDigits (by norm_num) (by norm_num) hc
  have hfraction : ∀ c ∈ (Nat.toDigits 10 (n % 10 ^ decimals)).leftpad decimals '0',
      decimal.isDigit c = true := isDigit_of_mem_leftpad
  have hlength : ((Nat.toDigits 10 (n % 10 ^ decimals)).leftpad decimals '0').length = decimals := by
    rw [List.length_leftpad, max_eq_left]
    rw [Nat.length_toDigits_le_iff (by norm_num) h]
    exact Nat.mod_lt _ (by positivity)
  have hne : Nat.toDigits 10 (n / 10 ^ decimals)
      ++ (Nat.toDigits 10 (n % 10 ^ decimals)).leftpad decimals '0' ≠ [] := by
    simp [Nat.toDigits_ne_nil]
  have hvalue : decimal.value (Nat.toDigits 10 (n / 10 ^ decimals)
      ++ (Nat.toDigits 10 (n % 10 ^ decimals)).leftpad decimals '0') = n :=
    ofDigitChars_fixedPoint h n
  have hpoint : decimal.isDigit '.' = false := rfl
  simp only [readMagnitude, fixedPoint, List.takeWhile_append_of_pos hwhole,
    List.dropWhile_append_of_pos hwhole, List.takeWhile_cons, List.dropWhile_cons, hpoint,
    Bool.false_eq_true, if_false, List.append_nil, readFraction,
    List.takeWhile_eq_self_iff.mpr hfraction, List.dropWhile_eq_nil_iff.mpr hfraction, hne,
    readExponent, hvalue, hlength, zpow_zero, mul_one]
  rfl

/-- A text with a point starts with a digit and is no hexadecimal number. -/
theorem readUnsigned_fixedPoint {decimals : ℕ} (h : 0 < decimals) (n : ℕ) :
  readUnsigned (fixedPoint decimals n) = some ((n : NNRat) / 10 ^ decimals, [])
  := by
  rw [← readMagnitude_fixedPoint h]
  unfold readUnsigned
  split
  next x rest heq =>
    rw [if_neg]
    have hx : x.isDigit = true ∨ x = '.' := by
      have hmem : x ∈ fixedPoint decimals n := by
        rw [heq]
        simp
      rw [fixedPoint, List.mem_append, List.mem_cons] at hmem
      rcases hmem with hx | hx | hx
      · exact Or.inl (Nat.isDigit_of_mem_toDigits (by norm_num) (by norm_num) hx)
      · exact Or.inr hx
      · exact Or.inl (isDigit_of_mem_leftpad x hx)
    rcases hx with hx | rfl
    · rintro (rfl | rfl) <;> cases hx
    · decide
  · rfl

/-- A text with a point starts with a digit. -/
theorem exists_fixedPoint_eq_cons (decimals n : ℕ) :
  ∃ c rest, fixedPoint decimals n = c :: rest ∧ c.isDigit = true
  := by
  obtain ⟨c, rest, hdigits⟩ := List.exists_cons_of_ne_nil
    (Nat.toDigits_ne_nil : Nat.toDigits 10 (n / 10 ^ decimals) ≠ [])
  refine ⟨c, _, by rw [fixedPoint, hdigits, List.cons_append], ?_⟩
  apply Nat.isDigit_of_mem_toDigits (by norm_num) (by norm_num : 10 ≤ 10)
  rw [hdigits]
  exact List.mem_cons_self

theorem isSpace_of_isDigit {c : Char} (h : c.isDigit = true) :
  isSpace c = false
  := by
  have hrange : 48 ≤ c.toNat ∧ c.toNat ≤ 57 := by
    simpa [Char.isDigit, UInt32.le_iff_toNat_le] using h
  have hspace : c ≠ ' ' := by
    rintro rfl
    cases h
  rw [isSpace, decide_eq_false_iff_not]
  rintro (heq | hcontrol)
  · exact hspace heq
  · omega

theorem readSign_of_isDigit {c : Char} (h : c.isDigit = true) (rest : List Char) :
  readSign (c :: rest) = (false, c :: rest)
  := by
  unfold readSign
  split
  next heq =>
    obtain ⟨rfl, rfl⟩ := List.cons.inj heq
    cases h
  next heq =>
    obtain ⟨rfl, rfl⟩ := List.cons.inj heq
    cases h
  · rfl

/-- What is written is read as the rounded number. -/
theorem read_print {decimals : ℕ} (h : 0 < decimals) (x : Signed) :
  read (print decimals x) = some (round decimals x, [])
  := by
  obtain ⟨c, rest, hdigits, hc⟩ := exists_fixedPoint_eq_cons decimals (units decimals x)
  have hsign : readSign ((print decimals x).dropWhile isSpace)
      = (x.negative, fixedPoint decimals (units decimals x)) := by
    rw [print]
    cases hx : x.negative with
    | true => rfl
    | false =>
        rw [if_neg Bool.false_ne_true, hdigits,
          List.dropWhile_cons_of_neg (by simp [isSpace_of_isDigit hc])]
        exact readSign_of_isDigit hc rest
  simp only [read, hsign, readUnsigned_fixedPoint h, Option.map_some, round, Nat.cast_pow,
    Nat.cast_ofNat]

/-! ### Rounding -/

theorem units_eq {decimals : ℕ} {x : Signed} {m : ℕ}
    (h : (x.magnitude : ℚ) * 10 ^ decimals = m) :
  units decimals x = m
  := by
  rw [units, h, ← Int.cast_natCast, Rounding.roundHalfEven_intCast, Int.toNat_natCast]

/-- A number is rounded to itself exactly when it has no more decimals. -/
theorem value_round_eq_iff (decimals : ℕ) (x : Signed) :
  (round decimals x).value = x.value ↔ ∃ n : ℤ, 10 ^ decimals * x.value = n
  := by
  have hpow : (10 : ℚ) ^ decimals ≠ 0 := by positivity
  have hround : (round decimals x).value = x.value
      ↔ (units decimals x : ℚ) = x.magnitude * 10 ^ decimals := by
    rw [← div_eq_iff hpow]
    cases hx : x.negative <;> simp [Signed.value, round, hx]
  rw [hround]
  constructor
  · intro hunits
    cases hx : x.negative with
    | true =>
        use -units decimals x
        simp [Signed.value, hx, hunits, mul_comm]
    | false =>
        use units decimals x
        simp [Signed.value, hx, hunits, mul_comm]
  · rintro ⟨n, hn⟩
    have habs : |x.value| = x.magnitude := by
      cases hx : x.negative <;> simp [Signed.value, hx]
    have hmagnitude : (x.magnitude : ℚ) * 10 ^ decimals = n.natAbs := by
      rw [← habs, mul_comm, ← abs_of_pos (by positivity : (0 : ℚ) < 10 ^ decimals), ← abs_mul, hn,
        Nat.cast_natAbs, Int.cast_abs]
    rw [hmagnitude, units_eq hmagnitude]

@[simp]
theorem units_round (decimals : ℕ) (x : Signed) :
  units decimals (round decimals x) = units decimals x
  := by
  apply units_eq
  simp [round]

/-- A rounded number is written as the number was. -/
theorem print_round (decimals : ℕ) (x : Signed) :
  print decimals (round decimals x) = print decimals x
  := by
  rw [print, print, units_round]
  rfl

theorem magnitude_round (decimals : ℕ) (x : Signed) :
  ((round decimals x).magnitude : ℚ) = units decimals x / 10 ^ decimals
  := by
  simp [round]

/-- Rounding keeps a bound without decimals. -/
theorem magnitude_round_le {decimals : ℕ} {x : Signed} {m : ℕ} (h : x.magnitude ≤ m) :
  (round decimals x).magnitude ≤ m
  := by
  have hle : (x.magnitude : ℚ) * 10 ^ decimals ≤ ((m * 10 ^ decimals : ℕ) : ℤ) := by
    push_cast
    have hmagnitude : (x.magnitude : ℚ) ≤ m := by exact_mod_cast h
    gcongr
  have hunits : units decimals x ≤ m * 10 ^ decimals := by
    have hround := Rounding.roundHalfEven_le_of_le hle
    rw [units]
    omega
  have hpow : (0 : ℚ) < 10 ^ decimals := by positivity
  rw [← NNRat.coe_le_coe, magnitude_round, NNRat.coe_natCast, div_le_iff₀ hpow]
  exact_mod_cast hunits

/-- What is rounded is zero or at least a unit. -/
theorem magnitude_round_eq_zero_or (decimals : ℕ) (x : Signed) :
  (round decimals x).magnitude = 0 ∨ 1 / 10 ^ decimals ≤ ((round decimals x).magnitude : ℚ)
  := by
  rcases Nat.eq_zero_or_pos (units decimals x) with hzero | hpos
  · left
    rw [round, hzero, Nat.cast_zero, zero_div]
  · right
    have hone : (1 : ℚ) ≤ units decimals x := by exact_mod_cast hpos
    rw [magnitude_round]
    gcongr

end Decimal
