import ShootingStar.Lib.Outcome
import ShootingStar.Utilities.JsonParser

/-!
# Fields of JSON objects

A field of an object is read by its name.  An optional field that is missing or null is read as zero,
the empty text or nothing; a field of another kind is refused with a message that names it.  The
context of a reading is seen in its messages only.
-/

open Outcome (InMessages)

namespace JsonParser

/-- A reading, or the message of the exception it throws. -/
abbrev Reading (α : Type) : Type :=
  Except String α

/-- What the readers call: `stod` reads a finite number at the front of a text, with the length it
reads, and `outOfRange` is what the machine makes of a number whose conversion to an integer is
undefined. -/
structure ValueReaders where
  stod : String → Option (ℚ × ℕ)
  outOfRange : Json → BitVec 64

/-! ### Fields -/

/-- The value of a field. -/
def findField (fields : List (String × Json)) (fieldName : String) : Option Json :=
  fields.lookup fieldName

/-- The value of a field that must be there. -/
def requiredField (fields : List (String × Json)) (fieldName context : String) : Reading Json :=
  match findField fields fieldName with
  | none => .error (context ++ " is missing field " ++ fieldName)
  | some value => .ok value

/-- The value is `null`. -/
def isNull : Json → Bool
  | .null => true
  | _ => false

/-! ### Values -/

/-- A number, also one in a text. -/
def readDoubleValue (readers : ValueReaders) (value : Json) (context : String) : Reading ℚ :=
  match value with
  | .int n => .ok (nearestDouble n)
  | .float x => .ok x
  | .text s =>
    match readers.stod s with
    | some (parsed, size) =>
      if size = s.utf8ByteSize then .ok parsed else .error (context ++ " contains invalid double")
    | none => .error (context ++ " contains invalid double")
  | _ => .error (context ++ " contains invalid double")

/-- A value that must be of some kind. -/
def readKind {α : Type} (kind : Json → Option α) (complaint : String) (value : Json)
    (context : String) : Reading α :=
  match kind value with
  | some read => .ok read
  | none => .error (context ++ complaint)

/-- The text of a value. -/
def readStringValue : Json → String → Reading String :=
  readKind (fun | .text s => some s | _ => none) " must be a string"

/-- The fields of a value. -/
def readStructValue : Json → String → Reading (List (String × Json)) :=
  readKind (fun | .object fields => some fields | _ => none) " must be an object"

/-- The elements of a value. -/
def readListValue : Json → String → Reading (List Json) :=
  readKind (fun | .array values => some values | _ => none) " must be an array"

/-- The least `int`. -/
def minInt : ℤ := -2 ^ 31

/-- The largest `int`. -/
def maxInt : ℤ := 2 ^ 31 - 1

/-- The integer that is read; an undefined conversion leaves what the machine makes of it. -/
def readUint64 (readers : ValueReaders) (value : Json) (context : String) : Reading ℕ :=
  (readUint64Value value context).map fun parsed =>
    parsed.elim (readers.outOfRange value).toNat Int.toNat

/-- An `int64_t`, where a cast out of the range gives what the reader makes of it. -/
def readInt64 (readers : ValueReaders) (value : Json) (context : String) : Reading ℤ :=
  (readInt64Value value context).map fun parsed => parsed.getD (readers.outOfRange value).toInt

/-- An `int64_t` that must lie in the range of `int`. -/
def readIntValue (readers : ValueReaders) (value : Json) (context : String) : Reading ℤ := do
  let parsed ← readInt64 readers value context
  if parsed < minInt ∨ maxInt < parsed then .error (context ++ " is outside int range")
  else .ok parsed

/-- The values of a list, each read with its position in the context. -/
def readElements {α : Type} (read : Json → String → Reading α) (context : String)
    (values : List Json) : Reading (List α) :=
  values.zipIdx.mapM fun value => read value.1 (context ++ "[" ++ toString value.2 ++ "]")

/-! ### Readers of fields -/

/-- The `uint64_t` of a field that must be there. -/
def readRequiredUint64 (readers : ValueReaders) (fields : List (String × Json))
    (fieldName context : String) : Reading ℕ := do
  let value ← requiredField fields fieldName context
  readUint64 readers value (context ++ "." ++ fieldName)

/-- A field that may be missing or null. -/
def readOptional {α : Type} (read : Json → String → Reading α) (missing : α)
    (fields : List (String × Json)) (fieldName context : String) : Reading α :=
  match findField fields fieldName with
  | none => .ok missing
  | some value =>
    if isNull value then .ok missing else read value (context ++ "." ++ fieldName)

/-- The text of a field, empty when it is missing. -/
def readOptionalString : List (String × Json) → String → String → Reading String :=
  readOptional readStringValue ""

/-- The `int` of a field, zero when it is missing. -/
def readOptionalInt (readers : ValueReaders) :
    List (String × Json) → String → String → Reading ℤ :=
  readOptional (readIntValue readers) 0

/-- The `int64_t` of a field, zero when it is missing. -/
def readOptionalInt64 (readers : ValueReaders) :
    List (String × Json) → String → String → Reading ℤ :=
  readOptional (readInt64 readers) 0

/-- The number of a field, zero when it is missing. -/
def readOptionalDouble (readers : ValueReaders) :
    List (String × Json) → String → String → Reading ℚ :=
  readOptional (readDoubleValue readers) 0

/-- The fields of a field, if it is there. -/
def readOptionalStruct :
    List (String × Json) → String → String → Reading (Option (List (String × Json))) :=
  readOptional (fun value context => some <$> readStructValue value context) none

/-- The values of a field that may be missing. -/
def readOptionalList {α : Type} (read : Json → String → Reading α) :
    List (String × Json) → String → String → Reading (List α) :=
  readOptional
    (fun value context => do
      let values ← readListValue value context
      readElements read context values)
    []

/-- The texts of a field, none when it is missing. -/
def readOptionalStringList : List (String × Json) → String → String → Reading (List String) :=
  readOptionalList readStringValue

/-! ### Values that are read back -/

section Optional

variable {α : Type} {read : Json → String → Reading α} {missing : α}
  {fields : List (String × Json)} {fieldName : String}

theorem readOptional_of_findField {value : Json} (h : findField fields fieldName = some value)
    (hnull : isNull value = false) (context : String) :
  readOptional read missing fields fieldName context = read value (context ++ "." ++ fieldName)
  := by
  rw [readOptional, h]
  exact if_neg (by rw [hnull]; decide)

/-- A value that may be missing is read back, or read as what stands for a missing value. -/
theorem readOptional_ofOption {write : α → Json} (hnull : ∀ a, isNull (write a) = false)
    {value : Option α} (h : findField fields fieldName = some (.ofOption write value))
    {context : String}
    (hread : ∀ a ∈ value, read (write a) (context ++ "." ++ fieldName) = pure a) :
  readOptional read missing fields fieldName context = pure (value.getD missing)
  := by
  cases value with
  | none =>
      rw [readOptional, h]
      rfl
  | some a =>
      exact (readOptional_of_findField h (hnull a) context).trans (hread a rfl)

end Optional

/-- A number that the checks accept is converted. -/
theorem convertDouble_intCast {tooSmall : ℚ → Bool} {low high n : ℤ} (message : String)
    (hsmall : tooSmall n = false) (hbig : (n : ℚ) ≤ nearestDouble high) (hlow : low ≤ n)
    (hhigh : n ≤ high) :
  convertDouble tooSmall low high message n = .ok (some n)
  := by
  have haccepted : ¬ (tooSmall (n : ℚ) = true ∨ nearestDouble high < n ∨ ⌊(n : ℚ)⌋ ≠ (n : ℚ)) := by
    rintro (h | h | h)
    · rw [hsmall] at h
      cases h
    · exact absurd hbig (not_le.mpr h)
    · exact h (by rw [Int.floor_intCast])
  rw [convertDouble, if_neg haccepted, Rounding.toInteger, Rounding.truncate_intCast,
    if_pos ⟨hlow, hhigh⟩]

/-- Integers up to `2 ^ 53` are read back. -/
theorem readUint64_int (readers : ValueReaders) {n : ℤ} (hlow : 0 ≤ n) (hhigh : n ≤ 2 ^ 53)
    (context : String) :
  readUint64 readers (.int n) context = .ok n.toNat
  := by
  have hbig : (n : ℚ) ≤ 2 ^ 64 := by
    exact_mod_cast hhigh.trans (by norm_num : (2 : ℤ) ^ 53 ≤ 2 ^ 64)
  have hread : readUint64Value (.int n) context = .ok (some n) := by
    rw [readUint64Value, nearestDouble_eq_self (by omega)]
    apply convertDouble_intCast
    · simpa using hlow
    · rw [nearestDouble_maxUint64]
      exact hbig
    · exact hlow
    · rw [maxUint64]
      omega
  rw [readUint64, hread]
  rfl

theorem readInt64_int (readers : ValueReaders) {n : ℤ} (h : n.natAbs ≤ 2 ^ 53) (context : String) :
  readInt64 readers (.int n) context = .ok n
  := by
  have hlow : -2 ^ 63 ≤ n := by omega
  have hhigh : n ≤ 2 ^ 63 := by omega
  have hread : readInt64Value (.int n) context = .ok (some n) := by
    rw [readInt64Value, nearestDouble_eq_self h]
    apply convertDouble_intCast
    · rw [nearestDouble_minInt64, decide_eq_false_iff_not, not_lt]
      exact_mod_cast hlow
    · rw [nearestDouble_maxInt64]
      exact_mod_cast hhigh
    · exact hlow
    · rw [maxInt64]
      omega
  rw [readInt64, hread]
  rfl

theorem readIntValue_int (readers : ValueReaders) {n : ℤ} (hlow : minInt ≤ n) (hhigh : n ≤ maxInt)
    (context : String) :
  readIntValue readers (.int n) context = .ok n
  := by
  have hrange : n.natAbs ≤ 2 ^ 53 := by
    rw [minInt] at hlow
    rw [maxInt] at hhigh
    omega
  have hwithin : ¬ (n < minInt ∨ maxInt < n) := by omega
  have hread : readInt64 readers (.int n) context = pure n := readInt64_int readers hrange context
  rw [readIntValue, hread, pure_bind, if_neg hwithin]

/-- The values of a list are read one by one. -/
theorem readElements_map {α β : Type} {read : Json → String → Reading β} {write : α → Json}
    {result : α → β} (h : ∀ a context, read (write a) context = pure (result a))
    (values : List α) (context : String) :
  readElements read context (values.map write) = pure (values.map result)
  := by
  suffices hfrom : ∀ n, ((values.map write).zipIdx n).mapM (fun value : Json × ℕ =>
      read value.1 (context ++ "[" ++ toString value.2 ++ "]")) = pure (values.map result) from
    hfrom 0
  induction values with
  | nil =>
      intro n
      rfl
  | cons a values ih =>
      intro n
      rw [List.map_cons, List.zipIdx_cons, List.mapM_cons, h, pure_bind, ih, pure_bind,
        List.map_cons]

/-! ### Fields that are read back -/

section Fields

variable {fields : List (String × Json)} {fieldName : String}

theorem readOptionalString_ofOption {value : Option String}
    (h : findField fields fieldName = some (.ofOption .text value)) (context : String) :
  readOptionalString fields fieldName context = pure (value.getD "")
  := readOptional_ofOption (fun _ => rfl) h fun _ _ => rfl

theorem readOptionalDouble_ofOption (readers : ValueReaders) {value : Option ℚ}
    (h : findField fields fieldName = some (.ofOption .float value)) (context : String) :
  readOptionalDouble readers fields fieldName context = pure (value.getD 0)
  := readOptional_ofOption (fun _ => rfl) h fun _ _ => rfl

theorem readOptionalInt_ofOption (readers : ValueReaders) {value : Option ℤ}
    (h : findField fields fieldName = some (.ofOption .int value))
    (hrange : ∀ n ∈ value, minInt ≤ n ∧ n ≤ maxInt) (context : String) :
  readOptionalInt readers fields fieldName context = pure (value.getD 0)
  := readOptional_ofOption (fun _ => rfl) h fun n hn =>
    readIntValue_int readers (hrange n hn).1 (hrange n hn).2 _

theorem readOptionalInt_natCast (readers : ValueReaders) {n : ℕ}
    (h : findField fields fieldName = some (.int n)) (hle : n ≤ maxInt) (context : String) :
  readOptionalInt readers fields fieldName context = pure (n : ℤ)
  := by
  have hrange : ∀ m ∈ some (n : ℤ), minInt ≤ m ∧ m ≤ maxInt := by
    intro m hm
    obtain rfl := Option.some.inj hm
    rw [minInt]
    exact ⟨by omega, hle⟩
  exact readOptionalInt_ofOption readers h hrange context

theorem readOptionalInt64_ofOption (readers : ValueReaders) {value : Option ℤ}
    (h : findField fields fieldName = some (.ofOption .int value))
    (hrange : ∀ n ∈ value, n.natAbs ≤ 2 ^ 53) (context : String) :
  readOptionalInt64 readers fields fieldName context = pure (value.getD 0)
  := readOptional_ofOption (fun _ => rfl) h fun n hn => readInt64_int readers (hrange n hn) _

theorem readOptionalList_map {α β : Type} {read : Json → String → Reading β} {write : α → Json}
    {result : α → β} {values : List α}
    (h : findField fields fieldName = some (.array (values.map write)))
    (hread : ∀ a context, read (write a) context = pure (result a)) (context : String) :
  readOptionalList read fields fieldName context = pure (values.map result)
  := (readOptional_of_findField h rfl context).trans (readElements_map hread values _)

theorem readOptionalStringList_text {values : List String}
    (h : findField fields fieldName = some (.array (values.map .text))) (context : String) :
  readOptionalStringList fields fieldName context = pure values
  := by
  have hread : ∀ (s context : String), readStringValue (.text s) context = pure (id s) :=
    fun _ _ => rfl
  rw [readOptionalStringList, readOptionalList_map h hread, List.map_id]

theorem readOptionalStruct_object {inner : List (String × Json)}
    (h : findField fields fieldName = some (.object inner)) (context : String) :
  readOptionalStruct fields fieldName context = pure (some inner)
  := readOptional_of_findField h rfl context

end Fields

/-! ### Contexts -/

theorem toOption_convertDouble (tooSmall : ℚ → Bool) (low high : ℤ) (number : ℚ)
    (message message' : String) :
  (convertDouble tooSmall low high message number).toOption
    = (convertDouble tooSmall low high message' number).toOption
  := by
  rw [convertDouble, convertDouble]
  split <;> rfl

theorem inMessages_readUint64 (readers : ValueReaders) (value : Json) :
  InMessages (readUint64 readers value)
  := by
  apply InMessages.map
  cases value with
  | text s =>
      apply InMessages.map
      intro context context'
      simp only [parseUint64String]
      split <;> rfl
  | int n =>
      intro context context'
      rw [readUint64Value, readUint64Value]
      exact toOption_convertDouble _ _ _ _ _ _
  | float x =>
      intro context context'
      rw [readUint64Value, readUint64Value]
      exact toOption_convertDouble _ _ _ _ _ _
  | _ => exact Outcome.inMessages_error _

theorem inMessages_readInt64 (readers : ValueReaders) (value : Json) :
  InMessages (readInt64 readers value)
  := by
  apply InMessages.map
  cases value with
  | text s =>
      intro context context'
      rw [readInt64Value, readInt64Value]
      split <;> rfl
  | int n =>
      intro context context'
      rw [readInt64Value, readInt64Value]
      exact toOption_convertDouble _ _ _ _ _ _
  | float x =>
      intro context context'
      rw [readInt64Value, readInt64Value]
      exact toOption_convertDouble _ _ _ _ _ _
  | _ => exact Outcome.inMessages_error _

theorem inMessages_readIntValue (readers : ValueReaders) (value : Json) :
  InMessages (readIntValue readers value)
  := by
  apply InMessages.bind (inMessages_readInt64 readers value)
  intro parsed
  split
  · exact Outcome.inMessages_error _
  · exact Outcome.inMessages_const _

theorem inMessages_readDoubleValue (readers : ValueReaders) (value : Json) :
  InMessages (readDoubleValue readers value)
  := by
  cases value with
  | text s =>
      intro context context'
      simp only [readDoubleValue]
      split
      · split <;> rfl
      · rfl
  | int n => exact Outcome.inMessages_const _
  | float x => exact Outcome.inMessages_const _
  | _ => exact Outcome.inMessages_error _

theorem inMessages_readKind {α : Type} (kind : Json → Option α) (complaint : String)
    (value : Json) :
  InMessages (readKind kind complaint value)
  := by
  intro context context'
  rw [readKind, readKind]
  split <;> rfl

theorem inMessages_readElements {α : Type} {read : Json → String → Reading α}
    (h : ∀ value, InMessages (read value)) (values : List Json) :
  InMessages fun context => readElements read context values
  := by
  apply InMessages.mapM
  intro value
  exact (h value.1).comp _

theorem inMessages_readRequiredUint64 (readers : ValueReaders) (fields : List (String × Json))
    (fieldName : String) :
  InMessages (readRequiredUint64 readers fields fieldName)
  := by
  apply InMessages.bind
  · intro context context'
    rw [requiredField, requiredField]
    split <;> rfl
  · intro value
    exact (inMessages_readUint64 readers value).comp _

theorem inMessages_readOptional {α : Type} {read : Json → String → Reading α}
    (h : ∀ value, InMessages (read value)) (missing : α) (fields : List (String × Json))
    (fieldName : String) :
  InMessages (readOptional read missing fields fieldName)
  := by
  intro context context'
  rw [readOptional, readOptional]
  split
  · rfl
  · split
    · rfl
    · exact h _ _ _

theorem inMessages_readOptionalList {α : Type} {read : Json → String → Reading α}
    (h : ∀ value, InMessages (read value)) (fields : List (String × Json)) (fieldName : String) :
  InMessages (readOptionalList read fields fieldName)
  := by
  apply inMessages_readOptional
  intro value
  exact (inMessages_readKind _ _ value).bind fun values => inMessages_readElements h values

end JsonParser
