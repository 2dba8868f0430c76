import Mathlib.Tactic.IntervalCases
import ShootingStar.Lib.Text
import ShootingStar.Lib.Utf8

/-!
# Objects as bytes

`readObject` reads one JSON object whose values are strings, integers and truth values from bytes: the
strings are decoded to bytes, members of one key are kept, and nothing may follow the object.  An
object that is written with an escape of bytes that is read back (`Escapes`) is read as its members,
in order (`readObject_writeObject`).
-/

namespace JsonText

/-- The value of a member. -/
inductive Value where
  | string (text : List UInt8)
  | int (value : ℤ)
  | bool (value : Bool)
  deriving DecidableEq, Repr

/-- A member of an object: its key and its value. -/
abbrev Member := List UInt8 × Value

/-- The bytes of a text of ASCII characters. -/
def ascii (text : String) : List UInt8 :=
  text.toList.map Char.toUInt8

/-- The byte around a text. -/
def quote : UInt8 := '"'.toUInt8

/-- The byte that begins an escape. -/
def backslash : UInt8 := '\\'.toUInt8

/-- The byte between members. -/
def comma : UInt8 := ','.toUInt8

/-- The byte between a key and its value. -/
def colon : UInt8 := ':'.toUInt8

/-- The byte that begins an object. -/
def openBrace : UInt8 := 0x7b

/-- The byte that ends an object. -/
def closeBrace : UInt8 := 0x7d

/-! ### Writing -/

section Writing

variable (esc : UInt8 → List UInt8)

/-- A text in quotes, with its bytes escaped. -/
def writeString (text : List UInt8) : List UInt8 :=
  quote :: text.flatMap esc ++ [quote]

/-- A value as it is written. -/
def writeValue : Value → List UInt8
  | .string text => writeString esc text
  | .int value => ascii (toString value)
  | .bool value => ascii (if value then "true" else "false")

/-- A key and its value. -/
def writeMember (member : Member) : List UInt8 :=
  writeString esc member.1 ++ colon :: writeValue esc member.2

/-- An object with its members in order. -/
def writeObject (members : List Member) : List UInt8 :=
  openBrace :: [comma].intercalate (members.map (writeMember esc)) ++ [closeBrace]

end Writing

/-- Lists with a separator before each but the first. -/
theorem intercalate_cons_eq (sep : UInt8) (l : List UInt8) (ls : List (List UInt8)) :
  [sep].intercalate (l :: ls) = l ++ ls.flatMap (sep :: ·)
  := by
  induction ls generalizing l with
  | nil => simp
  | cons next ls ih => simp [List.intercalate_cons_cons, ih]

/-! ### Reading -/

/-- The input without the white space at its front. -/
def skipSpace (input : List UInt8) : List UInt8 :=
  input.dropWhile fun b => b ∈ ascii " \t\n\r"

/-- The value of a hexadecimal digit. -/
def hexValue (b : UInt8) : Option ℕ :=
  if 0x30 ≤ b ∧ b ≤ 0x39 then some (b.toNat - 0x30)
  else if 0x41 ≤ b ∧ b ≤ 0x46 then some (b.toNat - 0x41 + 10)
  else if 0x61 ≤ b ∧ b ≤ 0x66 then some (b.toNat - 0x61 + 10)
  else none

/-- The number that hexadecimal digits stand for. -/
def readCode (digits : List UInt8) : Option ℕ :=
  digits.foldlM (fun code d => (hexValue d).map fun value => code * 16 + value) 0

/-- The bytes of an escaped code; a code that is half of a pair is not read. -/
def encodeCode (code : ℕ) : Option (List UInt8) :=
  if code.isValidChar then some (String.utf8EncodeChar (Char.ofNat code)) else none

/-- The byte that is meant by a letter after a backslash. -/
def shortEscape (e : UInt8) : Option UInt8 :=
  (((ascii "\"\\/bfnrt").zip [quote, backslash, '/'.toUInt8, 8, 12, 10, 13, 9]).lookup e)

/-- A string, after its opening quote, and what follows its closing quote. -/
def readChars : List UInt8 → Option (List UInt8 × List UInt8)
  | [] => none
  | b :: rest =>
    if b = quote then some ([], rest)
    else if b = backslash then
      match rest with
      | [] => none
      | e :: rest =>
        if e = 'u'.toUInt8 then
          match rest with
          | d₁ :: d₂ :: d₃ :: d₄ :: rest =>
            match (readCode [d₁, d₂, d₃, d₄]).bind encodeCode with
            | some bytes => (readChars rest).map fun read => (bytes ++ read.1, read.2)
            | none => none
          | _ => none
        else
          match shortEscape e with
          | some byte => (readChars rest).map fun read => (byte :: read.1, read.2)
          | none => none
    else if b < 0x20 then none
    else (readChars rest).map fun read => (b :: read.1, read.2)

/-- A text in quotes at the front, and what follows. -/
def readString : List UInt8 → Option (List UInt8 × List UInt8)
  | [] => none
  | b :: rest => if b = quote then readChars rest else none

/-- The byte is a decimal digit. -/
def isDigit (b : UInt8) : Bool :=
  0x30 ≤ b && b ≤ 0x39

/-- A natural number without leading zeros, fraction and exponent. -/
def readDigits (input : List UInt8) : Option (ℕ × List UInt8) :=
  let digits := input.takeWhile isDigit
  let rest := input.dropWhile isDigit
  if digits = [] ∨ (digits.head? = some 0x30 ∧ 1 < digits.length)
      ∨ (∃ b ∈ rest.head?, b ∈ ascii ".eE") then none
  else some (digits.foldl (fun n d => n * 10 + (d.toNat - 0x30)) 0, rest)

/-- An integer at the front, and what follows. -/
def readInt : List UInt8 → Option (ℤ × List UInt8)
  | [] => none
  | b :: rest =>
    if b = '-'.toUInt8 then (readDigits rest).map fun read => (-(read.1 : ℤ), read.2)
    else (readDigits (b :: rest)).map fun read => ((read.1 : ℤ), read.2)

/-- What follows a literal. -/
def readLiteral (literal : String) (input : List UInt8) : Option (List UInt8) :=
  if (ascii literal).isPrefixOf input then some (input.drop literal.length) else none

/-- A value at the front, and what follows. -/
def readValue : List UInt8 → Option (Value × List UInt8)
  | [] => none
  | b :: rest =>
    if b = quote then (readChars rest).map fun read => (.string read.1, read.2)
    else if b = 't'.toUInt8 then (readLiteral "true" (b :: rest)).map fun rest => (.bool true, rest)
    else if b = 'f'.toUInt8 then (readLiteral "false" (b :: rest)).map fun rest => (.bool false, rest)
    else (readInt (b :: rest)).map fun read => (.int read.1, read.2)

/-- A key with its value at the front, and what follows after white space. -/
def readMember (input : List UInt8) : Option (Member × List UInt8) :=
  match readString (skipSpace input) with
  | none => none
  | some (key, rest) =>
    match skipSpace rest with
    | [] => none
    | b :: rest =>
      if b = colon then
        (readValue (skipSpace rest)).map fun read => ((key, read.1), skipSpace read.2)
      else none

/-- The members of an object up to its closing brace; the number bounds how many are read. -/
def readMembers : ℕ → List UInt8 → Option (List Member × List UInt8)
  | 0, _ => none
  | fuel + 1, input =>
    match readMember input with
    | none => none
    | some (_, []) => none
    | some (member, b :: rest) =>
      if b = comma then (readMembers fuel rest).map fun read => (member :: read.1, read.2)
      else if b = closeBrace then some ([member], rest)
      else none

/-- The members of an object, after its opening brace. -/
def readBody (input : List UInt8) : Option (List Member × List UInt8) :=
  match skipSpace input with
  | [] => none
  | b :: rest => if b = closeBrace then some ([], rest) else readMembers input.length (b :: rest)

/-- The members of an object that is the whole input. -/
def readObject (input : List UInt8) : Option (List Member) :=
  match skipSpace input with
  | [] => none
  | b :: rest =>
    if b = openBrace then
      match readBody rest with
      | none => none
      | some (members, rest) => if skipSpace rest = [] then some members else none
    else none

/-! ### Strings -/

theorem readChars_quote (rest : List UInt8) :
  readChars (quote :: rest) = some ([], rest)
  := by
  rw [readChars.eq_def]
  exact if_pos rfl

/-- A byte that stands for itself. -/
theorem readChars_self {b : UInt8} (hquote : b ≠ quote) (hbackslash : b ≠ backslash)
    (hcontrol : ¬ b < 0x20) (rest : List UInt8) :
  readChars (b :: rest) = (readChars rest).map fun read => (b :: read.1, read.2)
  := by
  rw [readChars.eq_def]
  dsimp only
  rw [if_neg hquote, if_neg hbackslash, if_neg hcontrol]

theorem readChars_short {e byte : UInt8} (hu : e ≠ 'u'.toUInt8) (h : shortEscape e = some byte)
    (rest : List UInt8) :
  readChars (backslash :: e :: rest) = (readChars rest).map fun read => (byte :: read.1, read.2)
  := by
  have hne : backslash ≠ quote := by decide
  rw [readChars.eq_def]
  dsimp only
  rw [if_neg hne, if_pos rfl, if_neg hu, h]

theorem readChars_unicode {d₁ d₂ d₃ d₄ : UInt8} {bytes : List UInt8}
    (h : (readCode [d₁, d₂, d₃, d₄]).bind encodeCode = some bytes) (rest : List UInt8) :
  readChars (backslash :: 'u'.toUInt8 :: d₁ :: d₂ :: d₃ :: d₄ :: rest)
    = (readChars rest).map fun read => (bytes ++ read.1, read.2)
  := by
  have hne : backslash ≠ quote := by decide
  rw [readChars.eq_def]
  dsimp only
  rw [if_neg hne, if_pos rfl, if_pos rfl, h]

/-- Every byte is escaped so that it is read back. -/
def Escapes (esc : UInt8 → List UInt8) : Prop :=
  ∀ b rest, readChars (esc b ++ rest) = (readChars rest).map fun read => (b :: read.1, read.2)

theorem readChars_escape {esc : UInt8 → List UInt8} (hesc : Escapes esc) (text rest : List UInt8) :
  readChars (text.flatMap esc ++ quote :: rest) = some (text, rest)
  := by
  induction text with
  | nil => rw [List.flatMap_nil, List.nil_append, readChars_quote]
  | cons b text ih =>
      rw [List.flatMap_cons, List.append_assoc, hesc, ih]
      rfl

/-! ### Integers -/

/-- The decimal digits of a positive number do not start with a zero. -/
theorem head?_toDigits {n : ℕ} (h : 0 < n) :
  (Nat.toDigits 10 n).head? ≠ some '0'
  := by
  induction n using Nat.strong_induction_on with
  | _ n ih =>
      by_cases hn : n < 10
      · rw [Nat.toDigits_of_lt_base hn]
        interval_cases n <;> decide
      · rw [Nat.toDigits_of_base_le (by norm_num) (by omega),
          List.head?_append_of_ne_nil _ Nat.toDigits_ne_nil]
        exact ih (n / 10) (by omega) (by omega)

/-- The byte of a digit. -/
theorem isDigit_toUInt8 {c : Char} (h : c.isDigit = true) :
  isDigit c.toUInt8 = true ∧ c.toUInt8.toNat = c.toNat
  := by
  obtain ⟨hlow, hhigh⟩ := Char.isDigit_iff_toNat.mp h
  have hlow : 48 ≤ c.toNat := hlow
  have hhigh : c.toNat ≤ 57 := hhigh
  have hnat : c.toUInt8.toNat = c.toNat := by
    have hval : c.toUInt8.toNat = c.toNat % 256 := UInt32.toNat_toUInt8 c.val
    omega
  refine ⟨?_, hnat⟩
  rw [isDigit, Bool.and_eq_true, decide_eq_true_iff, decide_eq_true_iff, UInt8.le_iff_toNat_le,
    UInt8.le_iff_toNat_le, hnat]
  exact ⟨hlow, hhigh⟩

/-- What follows a number ends it. -/
def EndsNumber (rest : List UInt8) : Prop :=
  ∀ b ∈ rest.head?, isDigit b = false ∧ b ∉ ascii ".eE"

theorem isDigit_of_mem_ascii_toString {n : ℕ} {b : UInt8} (h : b ∈ ascii (toString n)) :
  isDigit b = true
  := by
  obtain ⟨c, hc, rfl⟩ := List.mem_map.mp h
  exact (isDigit_toUInt8 (Text.isDigit_of_mem_toString hc)).1

theorem ascii_toString_ne_nil (n : ℕ) :
  ascii (toString n) ≠ []
  := by
  rw [ascii, ne_eq, List.map_eq_nil_iff, String.toList_eq_nil_iff]
  exact Text.toString_ne_empty n

theorem readDigits_toString (n : ℕ) {rest : List UInt8} (hrest : EndsNumber rest) :
  readDigits (ascii (toString n) ++ rest) = some (n, rest)
  := by
  have hlist : (toString n).toList = Nat.toDigits 10 n := by rw [Nat.toString_eq_repr, Nat.toList_repr]
  have hdigits : ∀ b ∈ ascii (toString n), isDigit b = true :=
    fun _ => isDigit_of_mem_ascii_toString
  have hspan : rest.takeWhile isDigit = [] ∧ rest.dropWhile isDigit = rest := by
    cases rest with
    | nil => exact ⟨rfl, rfl⟩
    | cons b rest =>
        have hb := (hrest b rfl).1
        exact ⟨List.takeWhile_cons_of_neg (by rw [hb]; decide),
          List.dropWhile_cons_of_neg (by rw [hb]; decide)⟩
  have htake : (ascii (toString n) ++ rest).takeWhile isDigit = ascii (toString n) := by
    rw [List.takeWhile_append_of_pos hdigits, hspan.1, List.append_nil]
  have hdrop : (ascii (toString n) ++ rest).dropWhile isDigit = rest := by
    rw [List.dropWhile_append_of_pos hdigits, hspan.2]
  have hvalue : (ascii (toString n)).foldl (fun n d => n * 10 + (d.toNat - 0x30)) 0 = n := by
    have hsame : ∀ acc, ∀ c ∈ Nat.toDigits 10 n,
        acc * 10 + (c.toUInt8.toNat - 0x30) = 10 * acc + (c.toNat - '0'.toNat) := by
      intro acc c hc
      rw [(isDigit_toUInt8 (Nat.isDigit_of_mem_toDigits (by norm_num) (by norm_num) hc)).2, mul_comm]
      rfl
    rw [ascii, hlist, List.foldl_map, List.foldl_ext _ _ _ hsame, ← Nat.ofDigitChars_eq_foldl,
      Nat.ofDigitChars_ten_toDigits]
  have hwhole : ¬ (ascii (toString n) = [] ∨ ((ascii (toString n)).head? = some 0x30
      ∧ 1 < (ascii (toString n)).length) ∨ ∃ b ∈ rest.head?, b ∈ ascii ".eE") := by
    rintro (hnil | ⟨hzero, hlength⟩ | ⟨b, hb, hmem⟩)
    · exact ascii_toString_ne_nil n hnil
    · rw [ascii, hlist, List.head?_map, Option.map_eq_some_iff] at hzero
      obtain ⟨c, hc, hbyte⟩ := hzero
      have hdigit := Nat.isDigit_of_mem_toDigits (by norm_num) (by norm_num) (List.mem_of_mem_head? hc)
      have hcode : c.toNat = '0'.toNat := by
        rw [← (isDigit_toUInt8 hdigit).2, hbyte]
        rfl
      obtain rfl := Char.toNat_inj.mp hcode
      rcases Nat.eq_zero_or_pos n with rfl | hpos
      · exact absurd hlength (by decide)
      · exact head?_toDigits hpos hc
    · exact (hrest b hb).2 hmem
  simp only [readDigits, htake, hdrop, if_neg hwhole, hvalue]

theorem ascii_toString_negSucc (n : ℕ) :
  ascii (toString (Int.negSucc n)) = '-'.toUInt8 :: ascii (toString (n + 1))
  := by
  have hneg : toString (Int.negSucc n) = "-" ++ toString (n + 1) := rfl
  rw [ascii, hneg, String.toList_append, List.map_append]
  rfl

theorem readInt_toString (n : ℤ) {rest : List UInt8} (hrest : EndsNumber rest) :
  readInt (ascii (toString n) ++ rest) = some (n, rest)
  := by
  cases n with
  | ofNat n =>
      have htext : ascii (toString (Int.ofNat n)) = ascii (toString n) := rfl
      have hread := readDigits_toString n hrest
      rw [htext]
      cases hbytes : ascii (toString n) with
      | nil => exact absurd hbytes (ascii_toString_ne_nil n)
      | cons b bytes =>
          have hb : b ≠ '-'.toUInt8 := by
            rintro rfl
            have hdigit := isDigit_of_mem_ascii_toString (hbytes ▸ List.mem_cons_self)
            revert hdigit
            decide
          rw [hbytes] at hread
          rw [List.cons_append, readInt, if_neg hb, ← List.cons_append, hread]
          rfl
  | negSucc n =>
      rw [ascii_toString_negSucc, List.cons_append, readInt, if_pos rfl, readDigits_toString (n + 1) hrest]
      rfl

/-- The first byte of an integer is a digit or a minus sign. -/
theorem exists_ascii_toString (n : ℤ) :
  ∃ b bytes, ascii (toString n) = b :: bytes ∧ (isDigit b = true ∨ b = '-'.toUInt8)
  := by
  cases n with
  | ofNat n =>
      have htext : ascii (toString (Int.ofNat n)) = ascii (toString n) := rfl
      obtain ⟨b, bytes, hbytes⟩ := List.exists_cons_of_ne_nil (ascii_toString_ne_nil n)
      refine ⟨b, bytes, htext.trans hbytes, .inl (isDigit_of_mem_ascii_toString (n := n) ?_)⟩
      rw [hbytes]
      exact List.mem_cons_self
  | negSucc n => exact ⟨_, _, ascii_toString_negSucc n, .inr rfl⟩

/-! ### Bytes of a written object -/

theorem mem_intercalate {sep b : UInt8} {lists : List (List UInt8)}
    (h : b ∈ [sep].intercalate lists) :
  b = sep ∨ ∃ l ∈ lists, b ∈ l
  := by
  cases lists with
  | nil => cases h
  | cons l lists =>
      rw [intercalate_cons_eq, List.mem_append, List.mem_flatMap] at h
      rcases h with h | ⟨l', hl', h⟩
      · exact .inr ⟨l, List.mem_cons_self, h⟩
      · rcases List.mem_cons.mp h with rfl | h
        · exact .inl rfl
        · exact .inr ⟨l', List.mem_cons_of_mem l hl', h⟩

section Bytes

variable {esc : UInt8 → List UInt8} {P : UInt8 → Prop} (hesc : ∀ b, ∀ c ∈ esc b, P c)
  (hascii : ∀ c : UInt8, 0x20 ≤ c → c ≤ 0x7e → P c)

include hesc hascii

theorem of_mem_writeString {text : List UInt8} {c : UInt8} (h : c ∈ writeString esc text) :
  P c
  := by
  rw [writeString, List.cons_append, List.mem_cons, List.mem_append, List.mem_flatMap,
    List.mem_singleton] at h
  rcases h with rfl | ⟨b, -, h⟩ | rfl
  · exact hascii _ (by decide) (by decide)
  · exact hesc b c h
  · exact hascii _ (by decide) (by decide)

theorem of_mem_writeValue {value : Value} {c : UInt8} (h : c ∈ writeValue esc value) :
  P c
  := by
  cases value with
  | string text => exact of_mem_writeString hesc hascii h
  | int n =>
      have hdigit : ∀ {b : UInt8}, isDigit b = true → P b := by
        intro b hb
        rw [isDigit, Bool.and_eq_true, decide_eq_true_iff, decide_eq_true_iff] at hb
        have hlow : (0x20 : UInt8) ≤ 0x30 := by decide
        have hhigh : (0x39 : UInt8) ≤ 0x7e := by decide
        exact hascii b (UInt8.le_trans hlow hb.1) (UInt8.le_trans hb.2 hhigh)
      cases n with
      | ofNat n => exact hdigit (isDigit_of_mem_ascii_toString (n := n) h)
      | negSucc n =>
          rw [writeValue, ascii_toString_negSucc] at h
          rcases List.mem_cons.mp h with rfl | h
          · exact hascii _ (by decide) (by decide)
          · exact hdigit (isDigit_of_mem_ascii_toString h)
  | bool value =>
      have hall : ∀ value : Bool, ∀ c ∈ ascii (if value then "true" else "false"),
          0x20 ≤ c ∧ c ≤ 0x7e := by decide +kernel
      exact hascii c (hall value c h).1 (hall value c h).2

/-- Every byte of an object is a printable character or comes from the escape of a byte. -/
theorem of_mem_writeObject {members : List Member} {c : UInt8} (h : c ∈ writeObject esc members) :
  P c
  := by
  rw [writeObject, List.cons_append, List.mem_cons, List.mem_append, List.mem_singleton] at h
  rcases h with rfl | h | rfl
  · exact hascii _ (by decide) (by decide)
  · rcases mem_intercalate h with rfl | ⟨l, hl, h⟩
    · exact hascii _ (by decide) (by decide)
    · obtain ⟨member, -, rfl⟩ := List.mem_map.mp hl
      rw [writeMember, List.mem_append, List.mem_cons] at h
      rcases h with h | rfl | h
      · exact of_mem_writeString hesc hascii h
      · exact hascii _ (by decide) (by decide)
      · exact of_mem_writeValue hesc hascii h
  · exact hascii _ (by decide) (by decide)

end Bytes

/-! ### Objects as texts -/

/-- The key and the text of the value are in UTF-8. -/
def Member.IsText (member : Member) : Prop :=
  Utf8.IsText member.1 ∧ ∀ text, member.2 = .string text → Utf8.IsText text

section Texts

variable {esc : UInt8 → List UInt8} (hesc : Utf8.KeepsText esc)

include hesc

theorem isText_writeString_append (text rest : List UInt8) :
  Utf8.IsText (writeString esc text ++ rest) ↔ Utf8.IsText text ∧ Utf8.IsText rest
  := by
  have hquote : Utf8.IsText [quote] := Utf8.isText_ascii (by decide +kernel)
  have hnot : ¬ Utf8.IsContinuation quote := Utf8.not_isContinuation_of_lt (by decide)
  have hsplit : writeString esc text ++ rest
      = [quote] ++ (text.flatMap esc ++ quote :: rest) := by simp [writeString]
  rw [hsplit, Utf8.isText_append_iff hquote, Utf8.isText_append_cons_iff hnot,
    Utf8.isText_flatMap_iff hesc, ← List.singleton_append, Utf8.isText_append_iff hquote]

theorem isText_writeMember_append (member : Member) (rest : List UInt8) :
  Utf8.IsText (writeMember esc member ++ rest) ↔ member.IsText ∧ Utf8.IsText rest
  := by
  obtain ⟨key, value⟩ := member
  have hcolon : Utf8.IsText [colon] := Utf8.isText_ascii (by decide +kernel)
  have hsplit : writeMember esc (key, value) ++ rest
      = writeString esc key ++ ([colon] ++ (writeValue esc value ++ rest)) := by simp [writeMember]
  rw [hsplit, isText_writeString_append hesc, Utf8.isText_append_iff hcolon, Member.IsText, and_assoc]
  apply and_congr_right'
  cases value with
  | string text =>
      rw [writeValue, isText_writeString_append hesc]
      simp
  | int n =>
      have hbytes : Utf8.IsText (ascii (toString n)) := by
        apply Utf8.isText_ascii
        intro c hc
        refine @of_mem_writeValue (fun _ => []) (fun c => c.toNat < 0x80) (by simp) ?_ (.int n) c hc
        intro c _ hhigh
        have hle := UInt8.le_iff_toNat_le.mp hhigh
        have hbound : (0x7e : UInt8).toNat = 0x7e := rfl
        omega
      rw [writeValue, Utf8.isText_append_iff hbytes]
      simp
  | bool value =>
      have hbytes : Utf8.IsText (ascii (if value then "true" else "false")) := by
        cases value <;> exact Utf8.isText_ascii (by decide +kernel)
      rw [writeValue, Utf8.isText_append_iff hbytes]
      simp

/-- An object is in UTF-8 exactly when its keys and the texts of its values are. -/
theorem isText_writeObject_iff (members : List Member) :
  Utf8.IsText (writeObject esc members) ↔ ∀ member ∈ members, member.IsText
  := by
  have hascii : ∀ b : UInt8, b.toNat < 0x80 → Utf8.IsText [b] := fun b hb =>
    Utf8.isText_ascii fun c hc => by rwa [List.mem_singleton.mp hc]
  have hrest : ∀ members : List Member, Utf8.IsText
      ((members.map (writeMember esc)).flatMap (comma :: ·) ++ [closeBrace])
      ↔ ∀ member ∈ members, member.IsText := by
    intro members
    induction members with
    | nil => simp [hascii closeBrace (by decide)]
    | cons member members ih =>
        rw [List.map_cons, List.flatMap_cons, List.append_assoc, List.cons_append,
          ← List.singleton_append, Utf8.isText_append_iff (hascii comma (by decide)),
          isText_writeMember_append hesc, ih, List.forall_mem_cons]
  rw [writeObject, List.cons_append, ← List.singleton_append,
    Utf8.isText_append_iff (hascii openBrace (by decide))]
  cases members with
  | nil => simp [hascii closeBrace (by decide)]
  | cons member members =>
      rw [List.map_cons, intercalate_cons_eq, List.append_assoc, isText_writeMember_append hesc,
        hrest, List.forall_mem_cons]

end Texts

/-! ### Members -/

theorem skipSpace_cons {b : UInt8} (hb : b ∉ ascii " \t\n\r") (rest : List UInt8) :
  skipSpace (b :: rest) = b :: rest
  := List.dropWhile_cons_of_neg (by rw [decide_eq_true_iff]; exact hb)

/-- What follows a member ends it. -/
def EndsMember (rest : List UInt8) : Prop :=
  ∃ b after, rest = b :: after ∧ (b = comma ∨ b = closeBrace)

theorem EndsMember.endsNumber {rest : List UInt8} (h : EndsMember rest) :
  EndsNumber rest
  := by
  obtain ⟨b, after, rfl, rfl | rfl⟩ := h <;>
  · intro b hb
    obtain rfl := Option.some.inj hb
    decide

theorem EndsMember.skipSpace_eq {rest : List UInt8} (h : EndsMember rest) :
  skipSpace rest = rest
  := by
  obtain ⟨b, after, rfl, rfl | rfl⟩ := h <;> exact skipSpace_cons (by decide) after

theorem readLiteral_append (literal : String) (rest : List UInt8) :
  readLiteral literal (ascii literal ++ rest) = some rest
  := by
  have hstart : (ascii literal).isPrefixOf (ascii literal ++ rest) = true := by
    rw [List.isPrefixOf_iff_prefix]
    exact List.prefix_append _ _
  have hlength : literal.length = (ascii literal).length := by
    rw [ascii, List.length_map, String.length_toList]
  rw [readLiteral, if_pos hstart, hlength, List.drop_left]

variable {esc : UInt8 → List UInt8}

/-- A value that is written is read back. -/
theorem readValue_writeValue (hesc : Escapes esc) (value : Value) {rest : List UInt8}
    (hrest : EndsMember rest) :
  readValue (skipSpace (writeValue esc value ++ rest)) = some (value, rest)
  := by
  cases value with
  | string text =>
      rw [writeValue, writeString, List.append_assoc, List.cons_append, skipSpace_cons (by decide),
        readValue, if_pos rfl, List.singleton_append, readChars_escape hesc]
      rfl
  | int n =>
      obtain ⟨b, bytes, hbytes, hb⟩ := exists_ascii_toString n
      have hall : ∀ x ∈ quote :: 't'.toUInt8 :: 'f'.toUInt8 :: ascii " \t\n\r",
          ¬ (isDigit x = true ∨ x = '-'.toUInt8) := by decide +kernel
      have hne : b ∉ quote :: 't'.toUInt8 :: 'f'.toUInt8 :: ascii " \t\n\r" :=
        fun hmem => hall b hmem hb
      simp only [List.mem_cons, not_or] at hne
      have hread := readInt_toString n hrest.endsNumber
      rw [hbytes, List.cons_append] at hread
      rw [writeValue, hbytes, List.cons_append, skipSpace_cons hne.2.2.2, readValue, if_neg hne.1,
        if_neg hne.2.1, if_neg hne.2.2.1, hread]
      rfl
  | bool value =>
      cases value with
      | true =>
          have hbytes : writeValue esc (.bool true) ++ rest = 't'.toUInt8 :: (ascii "rue" ++ rest) := rfl
          have hread := readLiteral_append "true" rest
          have hne : 't'.toUInt8 ≠ quote := by decide
          rw [hbytes, skipSpace_cons (by decide), readValue, if_neg hne, if_pos rfl]
          exact congrArg (Option.map _) hread
      | false =>
          have hbytes : writeValue esc (.bool false) ++ rest = 'f'.toUInt8 :: (ascii "alse" ++ rest) := rfl
          have hread := readLiteral_append "false" rest
          have hne : 'f'.toUInt8 ≠ quote := by decide
          have hne' : 'f'.toUInt8 ≠ 't'.toUInt8 := by decide
          rw [hbytes, skipSpace_cons (by decide), readValue, if_neg hne, if_neg hne', if_pos rfl]
          exact congrArg (Option.map _) hread

/-- A member that is written is read back. -/
theorem readMember_writeMember (hesc : Escapes esc) (member : Member) {rest : List UInt8}
    (hrest : EndsMember rest) :
  readMember (writeMember esc member ++ rest) = some (member, rest)
  := by
  obtain ⟨key, value⟩ := member
  have hbytes : writeMember esc (key, value) ++ rest
      = quote :: (key.flatMap esc ++ quote :: colon :: (writeValue esc value ++ rest)) := by
    simp [writeMember, writeString]
  have hstring : readString (skipSpace (writeMember esc (key, value) ++ rest))
      = some (key, colon :: (writeValue esc value ++ rest)) := by
    rw [hbytes, skipSpace_cons (by decide), readString, if_pos rfl, readChars_escape hesc]
  rw [readMember, hstring]
  dsimp only
  rw [skipSpace_cons (by decide)]
  dsimp only
  rw [if_pos rfl, readValue_writeValue hesc value hrest, Option.map_some, hrest.skipSpace_eq]

/-- Members that are written with commas between them are read back in order. -/
theorem readMembers_writeMembers (hesc : Escapes esc) {members : List Member} (hne : members ≠ [])
    (rest : List UInt8) {fuel : ℕ} (hfuel : members.length ≤ fuel) :
  readMembers fuel ([comma].intercalate (members.map (writeMember esc)) ++ closeBrace :: rest)
    = some (members, rest)
  := by
  induction members generalizing fuel with
  | nil => exact absurd rfl hne
  | cons member members ih =>
      obtain ⟨fuel, rfl⟩ := Nat.exists_eq_succ_of_ne_zero (n := fuel) (by
        rw [List.length_cons] at hfuel
        omega)
      cases members with
      | nil =>
          have hclose : closeBrace ≠ comma := by decide
          rw [List.map_singleton, List.intercalate_singleton, readMembers,
            readMember_writeMember hesc member ⟨closeBrace, rest, rfl, .inr rfl⟩]
          dsimp only
          rw [if_neg hclose, if_pos rfl]
      | cons next members =>
          have hlength : (next :: members).length ≤ fuel := Nat.le_of_succ_le_succ hfuel
          rw [List.map_cons, List.map_cons, List.intercalate_cons_cons, List.append_assoc,
            List.append_assoc, List.singleton_append, readMembers,
            readMember_writeMember hesc member ⟨comma, _, rfl, .inl rfl⟩]
          dsimp only
          rw [if_pos rfl, ← List.map_cons, ih (List.cons_ne_nil _ _) hlength, Option.map_some]

theorem length_le_intercalate {lists : List (List UInt8)} (h : ∀ l ∈ lists, l ≠ []) :
  lists.length ≤ ([comma].intercalate lists).length
  := by
  induction lists with
  | nil => exact Nat.zero_le _
  | cons l lists ih =>
      have hl : 0 < l.length := List.length_pos_iff.mpr (h l List.mem_cons_self)
      have hrest := ih fun l hl => h l (List.mem_cons_of_mem _ hl)
      cases lists with
      | nil =>
          rw [List.intercalate_singleton]
          exact hl
      | cons next lists =>
          rw [List.intercalate_cons_cons]
          simp only [List.length_append, List.length_cons, List.length_nil] at hrest ⊢
          omega

/-- An object that is written is read as its members. -/
theorem readObject_writeObject (hesc : Escapes esc) (members : List Member) :
  readObject (writeObject esc members) = some members
  := by
  have hbody : readBody ([comma].intercalate (members.map (writeMember esc)) ++ [closeBrace])
      = some (members, []) := by
    cases members with
    | nil =>
        have hclose : closeBrace ∉ ascii " \t\n\r" := by decide
        rw [readBody, List.map_nil, List.intercalate_nil, List.nil_append, skipSpace_cons hclose]
        exact if_pos rfl
    | cons member members =>
        have hstart : ∃ after, [comma].intercalate ((member :: members).map (writeMember esc))
            ++ [closeBrace] = quote :: after := by
          cases members <;> exact ⟨_, rfl⟩
        have hlength : (member :: members).length
            ≤ ([comma].intercalate ((member :: members).map (writeMember esc)) ++ [closeBrace]).length := by
          have hle := @length_le_intercalate ((member :: members).map (writeMember esc)) (by
            intro l hl
            obtain ⟨m, -, rfl⟩ := List.mem_map.mp hl
            exact List.cons_ne_nil _ _)
          rw [List.length_map] at hle
          rw [List.length_append]
          omega
        have hread := readMembers_writeMembers hesc (List.cons_ne_nil member members) [] hlength
        obtain ⟨after, hafter⟩ := hstart
        have hquote : quote ∉ ascii " \t\n\r" := by decide
        have hne : quote ≠ closeBrace := by decide
        rw [hafter] at hread ⊢
        rw [readBody, skipSpace_cons hquote]
        dsimp only
        rw [if_neg hne, hread]
  have hopen : openBrace ∉ ascii " \t\n\r" := by decide
  rw [readObject, writeObject, List.cons_append, skipSpace_cons hopen]
  dsimp only
  rw [if_pos rfl, hbody]
  rfl

end JsonText
