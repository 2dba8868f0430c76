import Mathlib.Data.List.DropRight
import Mathlib.Data.List.GetD
import Mathlib.Data.List.Nodup
import Mathlib.Data.Nat.Digits.Lemmas

/-!
# Base64

A group of one, two or three bytes is a number, which is written with two, three or four digits of
base sixty-four.  A short group is filled up with a padding symbol, and the bits its last digit has
in excess are zero.  `encode` writes bytes in groups of three, and `decode` is the strict reader,
which accepts padding in the last group only and no bits in excess.  What is written is read back
(`decode_encode`).
-/

universe u

namespace Base64

/-! ### Bytes as numbers -/

/-- The number that bytes are, the first one the most significant. -/
def number (bytes : List UInt8) : ℕ :=
  Nat.ofDigits 256 (bytes.map UInt8.toNat).reverse

/-- The bytes of a number. -/
def bytesOf (count n : ℕ) : List UInt8 :=
  (Nat.digitsAppend 256 count n).reverse.map UInt8.ofNat

theorem lt_of_mem_reverse_map_toNat {bytes : List UInt8} :
  ∀ d ∈ (bytes.map UInt8.toNat).reverse, d < 256
  := by
  intro d hd
  rw [List.mem_reverse, List.mem_map] at hd
  obtain ⟨b, -, rfl⟩ := hd
  exact b.toNat_lt

theorem number_lt (bytes : List UInt8) :
  number bytes < 256 ^ bytes.length
  := by
  have hnumber := Nat.ofDigits_lt_base_pow_length (by decide)
    (@lt_of_mem_reverse_map_toNat bytes)
  rwa [List.length_reverse, List.length_map] at hnumber

theorem bytesOf_number (bytes : List UInt8) :
  bytesOf bytes.length (number bytes) = bytes
  := by
  have hdigits : (bytes.map UInt8.toNat).reverse.length = bytes.length := by
    rw [List.length_reverse, List.length_map]
  rw [bytesOf, number, (Nat.setInvOn_digitsAppend_ofDigits (by decide) bytes.length).1
    ⟨hdigits, lt_of_mem_reverse_map_toNat⟩, List.reverse_reverse, List.map_map]
  apply List.map_id''
  intro b
  apply UInt8.ofNat_toNat

/-! ### Symbols -/

/-- Sixty-four symbols for the digits and one for padding. -/
structure Alphabet (α : Type u) where
  symbols : List α
  pad : α
  length_symbols : symbols.length = 64
  nodup : symbols.Nodup
  pad_notMem : pad ∉ symbols

namespace Alphabet

variable {α : Type u} (A : Alphabet α)

/-- The symbol of a digit. -/
def symbol (d : ℕ) : α := A.symbols.getD d A.pad

theorem symbol_eq {d : ℕ} (h : d < A.symbols.length) :
  A.symbol d = A.symbols[d]
  := List.getD_eq_getElem _ _ h

theorem symbol_mem {d : ℕ} (h : d < 64) :
  A.symbol d ∈ A.symbols
  := by
  rw [← A.length_symbols] at h
  rw [A.symbol_eq h]
  apply List.getElem_mem

/-- The digit of a symbol. -/
def digit [BEq α] (c : α) : Option ℕ := A.symbols.idxOf? c

theorem digit_symbol [BEq α] [LawfulBEq α] {d : ℕ} (h : d < 64) :
  A.digit (A.symbol d) = some d
  := by
  rw [← A.length_symbols] at h
  rw [digit, A.symbol_eq h, List.idxOf?_eq_some_iff]
  use h, rfl
  intro e he heq
  have hindices := (A.nodup.getElem_inj_iff).mp heq
  omega

theorem mapM_digit_map_symbol [BEq α] [LawfulBEq α] {digits : List ℕ} (h : ∀ d ∈ digits, d < 64) :
  (digits.map A.symbol).mapM A.digit = some digits
  := by
  induction digits with
  | nil => rfl
  | cons d digits ih =>
      rw [List.forall_mem_cons] at h
      rw [List.map_cons, List.mapM_cons, A.digit_symbol h.1, ih h.2]
      rfl

/-! ### Groups -/

/-- The bytes of a group as digits. -/
def groupDigits (bytes : List UInt8) : List ℕ :=
  (Nat.digitsAppend 64 (bytes.length + 1) (number bytes * 4 ^ (3 - bytes.length))).reverse

/-- The bytes of a group as symbols. -/
def writeGroup (bytes : List UInt8) : List α :=
  (groupDigits bytes).map A.symbol ++ List.replicate (3 - bytes.length) A.pad

/-- The bytes of a group of symbols, which has no padding but at its end. -/
def readGroup [BEq α] (group : List α) : Option (List UInt8) := do
  let digits ← (group.rdropWhile (· == A.pad)).mapM A.digit
  let n := Nat.ofDigits 64 digits.reverse
  let excess := 4 ^ (4 - digits.length)
  if 2 ≤ digits.length ∧ excess ∣ n then some (bytesOf (digits.length - 1) (n / excess)) else none

theorem lt_of_mem_groupDigits {bytes : List UInt8} :
  ∀ d ∈ groupDigits bytes, d < 64
  := by
  intro d hd
  rw [groupDigits, List.mem_reverse] at hd
  exact Nat.lt_of_mem_digitsAppend (by decide) _ _ hd

/-- A group has one list of digits. -/
theorem groupDigits_eq {bytes : List UInt8} {digits : List ℕ}
    (hlength : digits.length = bytes.length + 1) (hlt : ∀ d ∈ digits, d < 64)
    (hnumber : Nat.ofDigits 64 digits.reverse = number bytes * 4 ^ (3 - bytes.length)) :
  groupDigits bytes = digits
  := by
  have hlt' : ∀ d ∈ digits.reverse, d < 64 := fun d hd => hlt d (List.mem_reverse.mp hd)
  rw [groupDigits, ← hnumber, (Nat.setInvOn_digitsAppend_ofDigits (by decide) _).1
    ⟨(List.length_reverse).trans hlength, hlt'⟩, List.reverse_reverse]

/-- The digits of a group have as many bits in excess as its number is shifted by. -/
theorem number_mul_lt {bytes : List UInt8} (h : bytes.length ≤ 3) :
  number bytes * 4 ^ (3 - bytes.length) < 64 ^ (bytes.length + 1)
  := by
  have hnumber := number_lt bytes
  generalize bytes.length = k at h hnumber ⊢
  interval_cases k <;> omega

theorem length_groupDigits {bytes : List UInt8} (h : bytes.length ≤ 3) :
  (groupDigits bytes).length = bytes.length + 1
  := by
  rw [groupDigits, List.length_reverse,
    Nat.length_digitsAppend (by decide) _ (number_mul_lt h)]

theorem length_writeGroup {bytes : List UInt8} (h : bytes.length ≤ 3) :
  (A.writeGroup bytes).length = 4
  := by
  rw [writeGroup, List.length_append, List.length_map, List.length_replicate, length_groupDigits h]
  omega

/-- A group is filled up from the end of its digits. -/
theorem rdropWhile_writeGroup [BEq α] [LawfulBEq α] (bytes : List UInt8) :
  (A.writeGroup bytes).rdropWhile (· == A.pad) = (groupDigits bytes).map A.symbol
  := by
  rw [writeGroup]
  generalize 3 - bytes.length = pads
  induction pads with
  | zero =>
      rw [List.replicate_zero, List.append_nil, List.rdropWhile_eq_self_iff]
      intro hne hpad
      obtain ⟨d, hd, hlast⟩ := List.mem_map.mp (List.getLast_mem hne)
      rw [beq_iff_eq, ← hlast] at hpad
      apply A.pad_notMem
      rw [← hpad]
      exact A.symbol_mem (lt_of_mem_groupDigits d hd)
  | succ pads ih =>
      rw [List.replicate_succ', ← List.append_assoc, List.rdropWhile_concat,
        if_pos (beq_self_eq_true A.pad), ih]

theorem readGroup_writeGroup [BEq α] [LawfulBEq α] {bytes : List UInt8} (hne : bytes ≠ [])
    (h : bytes.length ≤ 3) :
  A.readGroup (A.writeGroup bytes) = some bytes
  := by
  have hlength := length_groupDigits h
  have hpositive := List.length_pos_of_ne_nil hne
  have hexcess : 4 - (groupDigits bytes).length = 3 - bytes.length := by
    omega
  have hnumber : Nat.ofDigits 64 (groupDigits bytes).reverse
      = number bytes * 4 ^ (4 - (groupDigits bytes).length) := by
    rw [hexcess, groupDigits, List.reverse_reverse]
    exact (Nat.setInvOn_digitsAppend_ofDigits (by decide) _).2 (number_mul_lt h)
  rw [readGroup, A.rdropWhile_writeGroup, A.mapM_digit_map_symbol lt_of_mem_groupDigits]
  simp only [Option.bind_eq_bind, Option.bind_some, hnumber]
  rw [if_pos ⟨by omega, Nat.dvd_mul_left _ _⟩, Nat.mul_div_cancel _ (by positivity), hlength,
    Nat.add_sub_cancel, bytesOf_number]

/-! ### Texts -/

/-- The bytes in groups of three. -/
def encode : List UInt8 → List α
  | [] => []
  | [a] => A.writeGroup [a]
  | [a, b] => A.writeGroup [a, b]
  | a :: b :: c :: rest => A.writeGroup [a, b, c] ++ encode rest

/-- The bytes of groups of four symbols. -/
def decode [BEq α] : List α → Option (List UInt8)
  | [] => some []
  | w :: x :: y :: z :: rest => do
    let bytes ← A.readGroup [w, x, y, z]
    if rest ≠ [] ∧ bytes.length < 3 then none else return bytes ++ (← decode rest)
  | _ => none

theorem encode_of_ne_nil {bytes : List UInt8} (h : bytes ≠ []) :
  A.encode bytes = A.writeGroup (bytes.take 3) ++ A.encode (bytes.drop 3)
  := by
  match bytes with
  | [_] => exact (List.append_nil _).symm
  | [_, _] => exact (List.append_nil _).symm
  | _ :: _ :: _ :: _ => rfl

/-- Each group but the last one is full. -/
theorem decode_writeGroup_append [BEq α] [LawfulBEq α] {bytes : List UInt8} (hne : bytes ≠ [])
    (h : bytes.length ≤ 3) {rest : List α} (hfull : rest ≠ [] → bytes.length = 3) :
  A.decode (A.writeGroup bytes ++ rest) = (A.decode rest).map (bytes ++ ·)
  := by
  have hread := A.readGroup_writeGroup hne h
  obtain ⟨w, x, y, z, hgroup⟩ : ∃ w x y z, A.writeGroup bytes = [w, x, y, z] := by
    match A.writeGroup bytes, A.length_writeGroup h with
    | [w, x, y, z], _ => exact ⟨w, x, y, z, rfl⟩
  rw [hgroup] at hread ⊢
  have hshort : ¬ (rest ≠ [] ∧ bytes.length < 3) := by
    rintro ⟨hrest, hlt⟩
    exact hlt.ne (hfull hrest)
  simp only [List.cons_append, List.nil_append, decode, hread, Option.bind_eq_bind,
    Option.bind_some, if_neg hshort]
  cases A.decode rest <;> rfl

/-- What is written is read back. -/
theorem decode_encode [BEq α] [LawfulBEq α] (bytes : List UInt8) :
  A.decode (A.encode bytes) = some bytes
  := by
  induction bytes using encode.induct with
  | case1 => rfl
  | case2 a =>
      have hread := A.decode_writeGroup_append (List.cons_ne_nil a []) (by simp) (absurd rfl)
      rwa [List.append_nil] at hread
  | case3 a b =>
      have hread := A.decode_writeGroup_append (List.cons_ne_nil a [b]) (by simp) (absurd rfl)
      rwa [List.append_nil] at hread
  | case4 a b c rest ih =>
      rw [encode, A.decode_writeGroup_append (List.cons_ne_nil a [b, c]) le_rfl fun _ => rfl, ih]
      rfl

theorem length_encode (bytes : List UInt8) :
  (A.encode bytes).length = 4 * ((bytes.length + 2) / 3)
  := by
  induction bytes using encode.induct with
  | case1 => rfl
  | case2 a =>
      rw [encode, A.length_writeGroup (by simp)]
      simp
  | case3 a b =>
      rw [encode, A.length_writeGroup (by simp)]
      simp
  | case4 a b c rest ih =>
      rw [encode, List.length_append, A.length_writeGroup le_rfl, ih]
      simp only [List.length_cons]
      omega

/-- Padding stands at the end only. -/
theorem encode_eq_append (bytes : List UInt8) :
  ∃ digits : List ℕ, (∀ d ∈ digits, d < 64)
    ∧ A.encode bytes
      = digits.map A.symbol ++ List.replicate ((3 - bytes.length % 3) % 3) A.pad
  := by
  induction bytes using encode.induct with
  | case1 => exact ⟨[], by simp, rfl⟩
  | case2 a => exact ⟨groupDigits [a], lt_of_mem_groupDigits, rfl⟩
  | case3 a b => exact ⟨groupDigits [a, b], lt_of_mem_groupDigits, rfl⟩
  | case4 a b c rest ih =>
      obtain ⟨digits, hdigits, hrest⟩ := ih
      use groupDigits [a, b, c] ++ digits
      constructor
      · intro d hd
        rcases List.mem_append.mp hd with hd | hd
        · exact lt_of_mem_groupDigits d hd
        · exact hdigits d hd
      · have hlength : (a :: b :: c :: rest).length % 3 = rest.length % 3 := by
          simp only [List.length_cons]
          omega
        rw [encode, hrest, hlength, writeGroup, List.map_append, List.append_assoc,
          List.append_assoc]
        rfl

end Alphabet

/-- Capital letters, small letters, decimal digits, `+` and `/`, with `=` for padding. -/
def standard : Alphabet UInt8 where
  symbols := (List.range' 65 26 ++ List.range' 97 26 ++ List.range' 48 10 ++ [43, 47]).map UInt8.ofNat
  pad := 61
  length_symbols := by decide +kernel
  nodup := by decide +kernel
  pad_notMem := by decide +kernel

end Base64
