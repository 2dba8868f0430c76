import Mathlib.Data.Rat.Floor
import ShootingStar.Lib.Rounding

/-!
# JSON values

The documents that the tools write and the services read.  A number is an integer or a finite
number; the services hold both as doubles (`nearestDouble`).
-/

/-- A JSON value. -/
inductive Json where
  | null
  | bool (value : Bool)
  | int (value : ℤ)
  | float (value : ℚ)
  | text (value : String)
  | array (values : List Json)
  | object (fields : List (String × Json))

/-- How numbers in texts are read: by `int` and `float`, with the messages of the exceptions they
throw, and by `stod`, which reads a finite number at the front of a text, with the length it
reads. -/
structure NumberReaders where
  int : String → Except String ℤ
  float : String → Except String ℚ
  stod : String → Option (ℚ × ℕ)

/-- The double nearest to an integer. -/
def nearestDouble (n : ℤ) : ℚ :=
  Rounding.roundBits 53 n

/-- Integers up to `2 ^ 53` are doubles. -/
theorem nearestDouble_eq_self {n : ℤ} (h : n.natAbs ≤ 2 ^ 53) :
  nearestDouble n = n
  := Rounding.roundBits_eq_self (by norm_num) h

namespace Json

/-- `int` of a value. -/
def toInt (readers : NumberReaders) : Json → Except String ℤ
  | int n => .ok n
  | bool b => .ok (if b then 1 else 0)
  | float x => .ok (x.num.tdiv x.den)
  | text s => readers.int s
  | _ => .error "int() argument must be a string, a bytes-like object or a real number"

/-- `float` of a value. -/
def toFloat (readers : NumberReaders) : Json → Except String ℚ
  | int n => .ok (nearestDouble n)
  | bool b => .ok (if b then 1 else 0)
  | float x => .ok x
  | text s => readers.float s
  | _ => .error "float() argument must be a string or a real number"

/-- A value that may be missing, as it is written. -/
def ofOption {α : Type} (write : α → Json) : Option α → Json
  | none => null
  | some value => write value

end Json
