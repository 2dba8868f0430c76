import ShootingStar.Lib.Base64

/-!
# Runtime utilities

`base64Encode` writes the bytes of the credentials of a request three at a time, with shifts and
masks.  It is the encoding in base sixty-four with the standard alphabet (`base64Encode_eq_encode`).
-/

namespace RuntimeUtilities

open Base64 (standard)
open Base64.Alphabet (groupDigits groupDigits_eq writeGroup)

/-! ### The encoder -/

/-- The characters of the encoding, in the order of their values. -/
def kBase64Chars : List UInt8 :=
  "ABCDEFGHIJKLMNOPQRSTUVWXYZabcdefghijklmnopqrstuvwxyz0123456789+/".toList.map Char.toUInt8

/-- The characters of the three bytes from `i` on, where a byte after the last one is zero. -/
def base64Group (input : List UInt8) (i : ℕ) : List UInt8 :=
  let b0 := (input.getD i 0).toNat
  let b1 := if i + 1 < input.length then (input.getD (i + 1) 0).toNat else 0
  let b2 := if i + 2 < input.length then (input.getD (i + 2) 0).toNat else 0
  [ kBase64Chars.getD (b0 >>> 2) 0,
    kBase64Chars.getD (((b0 &&& 0x03) <<< 4) ||| (b1 >>> 4)) 0,
    if i + 1 < input.length then kBase64Chars.getD (((b1 &&& 0x0f) <<< 2) ||| (b2 >>> 6)) 0
    else '='.toUInt8,
    if i + 2 < input.length then kBase64Chars.getD (b2 &&& 0x3f) 0 else '='.toUInt8 ]

/-- The loop over the input, which has written `output` before it comes to `i`. -/
def base64EncodeFrom (input : List UInt8) (i : ℕ) (output : List UInt8) : List UInt8 :=
  if i < input.length then base64EncodeFrom input (i + 3) (output ++ base64Group input i)
  else output
termination_by input.length - i

/-- The encoding of bytes. -/
def base64Encode (input : List UInt8) : List UInt8 :=
  base64EncodeFrom input 0 []

/-! ### Shifts and masks -/

/-- The low bits of one byte followed by the high bits of the next one. -/
theorem shiftLeft_or_shiftRight {x y k m r : ℕ} (h : y < 2 ^ (r + m)) :
  ((x &&& (2 ^ k - 1)) <<< m) ||| (y >>> r) = x % 2 ^ k * 2 ^ m + y / 2 ^ r
  := by
  have hhigh : y >>> r < 2 ^ m := by
    rw [Nat.shiftRight_eq_div_pow]
    apply Nat.div_lt_of_lt_mul
    rwa [← pow_add]
  rw [← Nat.shiftLeft_add_eq_or_of_lt hhigh, Nat.and_two_pow_sub_one_eq_mod, Nat.shiftLeft_eq,
    Nat.shiftRight_eq_div_pow]

theorem kBase64Chars_eq :
  kBase64Chars = standard.symbols
  := by
  decide +kernel

theorem getD_kBase64Chars {d : ℕ} (h : d < 64) :
  kBase64Chars.getD d 0 = standard.symbol d
  := by
  have hlength : d < standard.symbols.length := h
  rw [kBase64Chars_eq, standard.symbol_eq hlength, List.getD_eq_getElem _ _ hlength]

/-! ### Groups -/

/-- A group depends on the rest of the input only. -/
theorem base64Group_drop (input : List UInt8) (i : ℕ) :
  base64Group (input.drop i) 0 = base64Group input i
  := by
  have hbyte : ∀ k, (input.drop i).getD k 0 = input.getD (i + k) 0 := by
    intro k
    rw [List.getD_eq_getElem?_getD, List.getD_eq_getElem?_getD, List.getElem?_drop]
  have hlt : ∀ k, k < (input.drop i).length ↔ i + k < input.length := by
    intro k
    rw [List.length_drop]
    omega
  simp only [base64Group, hbyte, hlt, Nat.zero_add, Nat.add_zero]

/-- The six bits of each character of three bytes. -/
def sextets (a b c : UInt8) : List ℕ :=
  [ a.toNat / 4, a.toNat % 4 * 16 + b.toNat / 16, b.toNat % 16 * 4 + c.toNat / 64, c.toNat % 64 ]

theorem lt_of_mem_sextets {a b c : UInt8} :
  ∀ d ∈ sextets a b c, d < 64
  := by
  have ha := a.toNat_lt
  have hb := b.toNat_lt
  have hc := c.toNat_lt
  intro d hd
  simp only [sextets, List.mem_cons, List.not_mem_nil, or_false] at hd
  omega

/-- A group has as many digits as its bytes have bits for, and missing bytes are zero. -/
theorem groupDigits_eq_take {bytes : List UInt8} (hne : bytes ≠ []) (h : bytes.length ≤ 3) :
  groupDigits bytes
    = (sextets (bytes.getD 0 0) (bytes.getD 1 0) (bytes.getD 2 0)).take (bytes.length + 1)
  := by
  have hlt : ∀ d ∈ (sextets (bytes.getD 0 0) (bytes.getD 1 0) (bytes.getD 2 0)).take
      (bytes.length + 1), d < 64 :=
    fun d hd => lt_of_mem_sextets d (List.mem_of_mem_take hd)
  match bytes with
  | [a] =>
      apply groupDigits_eq rfl hlt
      change Nat.ofDigits 64 [a.toNat % 4 * 16 + 0 / 16, a.toNat / 4]
        = Nat.ofDigits 256 [a.toNat] * 4 ^ 2
      simp only [Nat.ofDigits_cons, Nat.ofDigits_nil]
      omega
  | [a, b] =>
      apply groupDigits_eq rfl hlt
      change Nat.ofDigits 64 [b.toNat % 16 * 4 + 0 / 64, a.toNat % 4 * 16 + b.toNat / 16, a.toNat / 4]
        = Nat.ofDigits 256 [b.toNat, a.toNat] * 4 ^ 1
      simp only [Nat.ofDigits_cons, Nat.ofDigits_nil]
      omega
  | [a, b, c] =>
      apply groupDigits_eq rfl hlt
      change Nat.ofDigits 64 [c.toNat % 64, b.toNat % 16 * 4 + c.toNat / 64,
          a.toNat % 4 * 16 + b.toNat / 16, a.toNat / 4]
        = Nat.ofDigits 256 [c.toNat, b.toNat, a.toNat] * 4 ^ 0
      simp only [Nat.ofDigits_cons, Nat.ofDigits_nil]
      omega

/-- The shifts and masks of the loop as digits. -/
theorem base64Group_zero (input : List UInt8) :
  base64Group input 0
    = [ standard.symbol ((input.getD 0 0).toNat / 4),
        standard.symbol ((input.getD 0 0).toNat % 4 * 16 + (input.getD 1 0).toNat / 16),
        if 1 < input.length then
          standard.symbol ((input.getD 1 0).toNat % 16 * 4 + (input.getD 2 0).toNat / 64)
        else standard.pad,
        if 2 < input.length then standard.symbol ((input.getD 2 0).toNat % 64)
        else standard.pad ]
  := by
  have hbyte : ∀ k, (if k < input.length then (input.getD k 0).toNat else 0)
      = (input.getD k 0).toNat := by
    intro k
    by_cases hk : k < input.length
    · rw [if_pos hk]
    · rw [if_neg hk, List.getD_eq_default _ _ (not_lt.mp hk)]
      rfl
  simp only [base64Group, Nat.zero_add, hbyte]
  have ha := (input.getD 0 0).toNat_lt
  have hb := (input.getD 1 0).toNat_lt
  have hc := (input.getD 2 0).toNat_lt
  generalize (input.getD 0 0).toNat = a at ha ⊢
  generalize (input.getD 1 0).toNat = b at hb ⊢
  generalize (input.getD 2 0).toNat = c at hc ⊢
  have hfirst : a >>> 2 = a / 4 := Nat.shiftRight_eq_div_pow a 2
  have hsecond : ((a &&& 0x03) <<< 4) ||| (b >>> 4) = a % 4 * 16 + b / 16 :=
    @shiftLeft_or_shiftRight a b 2 4 4 hb
  have hthird : ((b &&& 0x0f) <<< 2) ||| (c >>> 6) = b % 16 * 4 + c / 64 :=
    @shiftLeft_or_shiftRight b c 4 2 6 hc
  have hfourth : c &&& 0x3f = c % 64 := Nat.and_two_pow_sub_one_eq_mod c 6
  rw [hfirst, hsecond, hthird, hfourth, getD_kBase64Chars (by omega), getD_kBase64Chars (by omega),
    getD_kBase64Chars (by omega), getD_kBase64Chars (by omega)]
  rfl

/-- The three bytes at the front of an input. -/
theorem base64Group_eq_writeGroup {input : List UInt8} (h : input ≠ []) :
  base64Group input 0 = standard.writeGroup (input.take 3)
  := by
  rw [base64Group_zero, writeGroup, groupDigits_eq_take (by simpa using h) (by simp)]
  rcases input with - | ⟨a, - | ⟨b, - | ⟨c, rest⟩⟩⟩
  · exact absurd rfl h
  · rfl
  · rfl
  · simp [sextets]

/-! ### The loop -/

theorem base64EncodeFrom_eq (input : List UInt8) (i : ℕ) (output : List UInt8) :
  base64EncodeFrom input i output = output ++ standard.encode (input.drop i)
  := by
  induction i, output using base64EncodeFrom.induct input with
  | case1 i output h ih =>
      have hne : input.drop i ≠ [] := by
        rw [Ne, List.drop_eq_nil_iff]
        omega
      rw [base64EncodeFrom, if_pos h, ih, standard.encode_of_ne_nil hne, List.drop_drop,
        ← base64Group_eq_writeGroup hne, base64Group_drop, List.append_assoc]
  | case2 i output h =>
      rw [base64EncodeFrom, if_neg h, List.drop_of_length_le (by omega)]
      exact (List.append_nil output).symm

/-- The loop writes the standard encoding. -/
theorem base64Encode_eq_encode (input : List UInt8) :
  base64Encode input = standard.encode input
  := base64EncodeFrom_eq input 0 []

/-- The encoding is the standard one, and the standard reader gives the input back. -/
theorem base64Encode_standard :
  (∀ input : List UInt8,
    (base64Encode input).length = 4 * ((input.length + 2) / 3)
    ∧ (∃ characters : List UInt8, (∀ c ∈ characters, c ∈ standard.symbols)
        ∧ base64Encode input
          = characters ++ List.replicate ((3 - input.length % 3) % 3) standard.pad)
    ∧ standard.decode (base64Encode input) = some input)
  ∧ Function.Injective base64Encode
  := by
  have hread : ∀ input, standard.decode (base64Encode input) = some input := by
    intro input
    rw [base64Encode_eq_encode]
    apply standard.decode_encode
  constructor
  · intro input
    refine ⟨?_, ?_, hread input⟩
    · rw [base64Encode_eq_encode, standard.length_encode]
    · obtain ⟨digits, hdigits, hencode⟩ := standard.encode_eq_append input
      refine ⟨digits.map standard.symbol, ?_, ?_⟩
      · intro c hc
        obtain ⟨d, hd, rfl⟩ := List.mem_map.mp hc
        exact standard.symbol_mem (hdigits d hd)
      · rw [base64Encode_eq_encode, hencode]
  · intro input input' heq
    apply Option.some.inj
    calc some input
        = standard.decode (base64Encode input) := (hread input).symm
      _ = standard.decode (base64Encode input') := congrArg _ heq
      _ = some input' := hread input'

example : base64Encode ("fo".toList.map Char.toUInt8) = "Zm8=".toList.map Char.toUInt8
  := by
  decide +kernel

end RuntimeUtilities
