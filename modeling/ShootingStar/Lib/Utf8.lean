import Mathlib.Data.List.Basic
import Mathlib.Tactic.NormNum

/-!
# UTF-8

`IsText` tells that bytes are the UTF-8 encoding of characters.  `run` reads bytes one by one and
keeps what may follow: how many bytes the current character still needs, and between which bounds the
next one must lie.  It accepts exactly the encodings of characters (`isText_iff`).

Where a text is cut, the part before the cut is a text exactly when the byte after it does not
continue a character (`isText_take_iff`).
-/

namespace Utf8

/-- The bytes of a text. -/
def bytesOf (text : String) : List UInt8 :=
  text.toList.flatMap String.utf8EncodeChar

theorem bytesOf_append (text text' : String) :
  bytesOf (text ++ text') = bytesOf text ++ bytesOf text'
  := by
  simp only [bytesOf, String.toList_append, List.flatMap_append]

/-- The bytes encode characters. -/
def IsText (bytes : List UInt8) : Prop :=
  ∃ text : List Char, bytes = text.flatMap String.utf8EncodeChar

/-- What a character that has begun still needs. -/
structure Pending where
  needed : ℕ
  low : ℕ := 0x80
  high : ℕ := 0xbf
  /-- The next byte continues a character. -/
  continues : 0x80 ≤ low ∧ high ≤ 0xbf := by decide

/-- No character has begun. -/
def Pending.none : Pending where
  needed := 0

/-- The first byte of a character. -/
def first (b : ℕ) : Option Pending :=
  if b < 0x80 then some .none
  else if b < 0xc2 then none
  else if b < 0xe0 then some { needed := 1 }
  else if b < 0xf0 then
    some
      { needed := 2
        low := if b = 0xe0 then 0xa0 else 0x80
        high := if b = 0xed then 0x9f else 0xbf
        continues := by split <;> split <;> decide }
  else if b < 0xf5 then
    some
      { needed := 3
        low := if b = 0xf0 then 0x90 else 0x80
        high := if b = 0xf4 then 0x8f else 0xbf
        continues := by split <;> split <;> decide }
  else none

/-- One byte. -/
def step (pending : Pending) (b : UInt8) : Option Pending :=
  match pending.needed with
  | 0 => first b.toNat
  | needed + 1 =>
    if pending.low ≤ b.toNat ∧ b.toNat ≤ pending.high then some { needed := needed } else none

/-- Bytes one by one. -/
def run (pending : Pending) (bytes : List UInt8) : Option Pending :=
  bytes.foldlM step pending

/-- The bytes end where no character has begun. -/
def Accepts (pending : Pending) (bytes : List UInt8) : Prop :=
  (run pending bytes).map Pending.needed = some 0

/-- The byte continues a character. -/
def IsContinuation (b : UInt8) : Prop :=
  0x80 ≤ b.toNat ∧ b.toNat ≤ 0xbf

instance : DecidablePred IsContinuation :=
  fun b => inferInstanceAs (Decidable (0x80 ≤ b.toNat ∧ b.toNat ≤ 0xbf))

theorem run_append (pending : Pending) (bytes bytes' : List UInt8) :
  run pending (bytes ++ bytes') = (run pending bytes).bind fun pending => run pending bytes'
  := List.foldlM_append

theorem run_cons (pending : Pending) (b : UInt8) (bytes : List UInt8) :
  run pending (b :: bytes) = (step pending b).bind fun pending => run pending bytes
  := List.foldlM_cons

theorem accepts_nil {pending : Pending} :
  Accepts pending [] ↔ pending.needed = 0
  := by
  rw [Accepts]
  exact Option.some_inj

theorem accepts_cons {pending : Pending} {b : UInt8} {bytes : List UInt8} :
  Accepts pending (b :: bytes) ↔ ∃ next, step pending b = some next ∧ Accepts next bytes
  := by
  rw [Accepts, run_cons]
  cases step pending b <;> simp [Accepts]

/-! ### Encoded characters -/

/-- A byte that a character needs. -/
theorem accepts_needed {pending : Pending} {n : ℕ} (hneeded : pending.needed = n + 1)
    {bytes : List UInt8} :
  Accepts pending bytes ↔ ∃ b rest, bytes = b :: rest
    ∧ (pending.low ≤ b.toNat ∧ b.toNat ≤ pending.high) ∧ Accepts { needed := n } rest
  := by
  cases bytes with
  | nil => simp [accepts_nil, hneeded]
  | cons b bytes =>
      rw [accepts_cons, step, hneeded]
      by_cases h : pending.low ≤ b.toNat ∧ b.toNat ≤ pending.high <;> simp [h]

theorem first_one {b : ℕ} (h : b < 0x80) :
  first b = some .none
  := if_pos h

theorem first_two {b : ℕ} (hlow : 0xc2 ≤ b) (hhigh : b < 0xe0) :
  first b = some { needed := 1 }
  := by
  rw [first, if_neg (by omega), if_neg (by omega), if_pos hhigh]

theorem first_three {b : ℕ} (hlow : 0xe0 ≤ b) (hhigh : b < 0xf0) :
  ∃ pending, first b = some pending ∧ pending.needed = 1 + 1
    ∧ pending.low = (if b = 0xe0 then 0xa0 else 0x80)
    ∧ pending.high = if b = 0xed then 0x9f else 0xbf
  := by
  rw [first, if_neg (by omega), if_neg (by omega), if_neg (by omega), if_pos hhigh]
  exact ⟨_, rfl, rfl, rfl, rfl⟩

theorem first_four {b : ℕ} (hlow : 0xf0 ≤ b) (hhigh : b < 0xf5) :
  ∃ pending, first b = some pending ∧ pending.needed = 2 + 1
    ∧ pending.low = (if b = 0xf0 then 0x90 else 0x80)
    ∧ pending.high = if b = 0xf4 then 0x8f else 0xbf
  := by
  rw [first, if_neg (by omega), if_neg (by omega), if_neg (by omega), if_neg (by omega),
    if_pos hhigh]
  exact ⟨_, rfl, rfl, rfl, rfl⟩

theorem accepts_first {b : UInt8} {pending : Pending} (h : first b.toNat = some pending)
    (bytes : List UInt8) :
  Accepts .none (b :: bytes) ↔ Accepts pending bytes
  := by
  have hstep : step .none b = some pending := h
  simp [accepts_cons, hstep]

theorem accepts_next {pending : Pending} {n : ℕ} (hneeded : pending.needed = n + 1) {b : UInt8}
    (hb : pending.low ≤ b.toNat ∧ b.toNat ≤ pending.high) (bytes : List UInt8) :
  Accepts pending (b :: bytes) ↔ Accepts { needed := n } bytes
  := by
  have hstep : step pending b = some { needed := n } := by
    rw [step, hneeded]
    exact if_pos hb
  simp [accepts_cons, hstep]

theorem accepts_continuation {n : ℕ} {b : UInt8} (hb : IsContinuation b) (bytes : List UInt8) :
  Accepts { needed := n + 1 } (b :: bytes) ↔ Accepts { needed := n } bytes
  := @accepts_next { needed := n + 1 } n rfl b hb bytes

/-- A character leaves no character begun. -/
theorem accepts_encode_append (c : Char) (bytes : List UInt8) :
  Accepts .none (String.utf8EncodeChar c ++ bytes) ↔ Accepts .none bytes
  := by
  have hvalid : c.val.toNat < 0xd800 ∨ (0xdfff < c.val.toNat ∧ c.val.toNat < 0x110000) := c.valid
  have hbyte : ∀ n < 256, (UInt8.ofNat n).toNat = n := fun n hn => UInt8.toNat_ofNat_of_lt' hn
  have hcontinuation : ∀ n, IsContinuation (UInt8.ofNat (n % 0x40 + 0x80)) := by
    intro n
    rw [IsContinuation, hbyte _ (by omega)]
    omega
  rw [String.utf8EncodeChar]
  generalize c.val.toNat = v at hvalid
  split
  next h₁ => exact accepts_first (by rw [hbyte v (by omega)]; exact first_one (by omega)) bytes
  split
  next h₁ h₂ =>
    have hfirst := @first_two (v / 64 % 0x20 + 0xc0) (by omega) (by omega)
    rw [← hbyte (v / 64 % 0x20 + 0xc0) (by omega)] at hfirst
    exact (accepts_first hfirst _).trans (accepts_continuation (hcontinuation v) bytes)
  split
  next h₁ h₂ h₃ =>
    obtain ⟨pending, hfirst, hneeded, hlow, hhigh⟩ :=
      @first_three (v / 4096 % 0x10 + 0xe0) (by omega) (by omega)
    have hbounds : pending.low ≤ (UInt8.ofNat (v / 64 % 0x40 + 0x80)).toNat
        ∧ (UInt8.ofNat (v / 64 % 0x40 + 0x80)).toNat ≤ pending.high := by
      rw [hlow, hhigh, hbyte _ (by omega)]
      constructor <;> split <;> omega
    rw [← hbyte (v / 4096 % 0x10 + 0xe0) (by omega)] at hfirst
    calc Accepts .none _
        ↔ Accepts pending _ := accepts_first hfirst _
      _ ↔ Accepts { needed := 1 } _ := accepts_next hneeded hbounds _
      _ ↔ Accepts .none bytes := accepts_continuation (hcontinuation v) bytes
  next h₁ h₂ h₃ =>
    obtain ⟨pending, hfirst, hneeded, hlow, hhigh⟩ :=
      @first_four (v / 262144 % 0x08 + 0xf0) (by omega) (by omega)
    have hbounds : pending.low ≤ (UInt8.ofNat (v / 4096 % 0x40 + 0x80)).toNat
        ∧ (UInt8.ofNat (v / 4096 % 0x40 + 0x80)).toNat ≤ pending.high := by
      rw [hlow, hhigh, hbyte _ (by omega)]
      constructor <;> split <;> omega
    rw [← hbyte (v / 262144 % 0x08 + 0xf0) (by omega)] at hfirst
    calc Accepts .none _
        ↔ Accepts pending _ := accepts_first hfirst _
      _ ↔ Accepts { needed := 2 } _ := accepts_next hneeded hbounds _
      _ ↔ Accepts { needed := 1 } _ := accepts_continuation (hcontinuation (v / 64)) _
      _ ↔ Accepts .none bytes := accepts_continuation (hcontinuation v) bytes

/-- An ASCII byte is a character of its own. -/
theorem val_of_mem_encode {c : Char} {b : UInt8} (hmem : b ∈ String.utf8EncodeChar c)
    (h : b.toNat < 0x80) :
  c.val.toNat = b.toNat
  := by
  have hbyte : ∀ n < 256, (UInt8.ofNat n).toNat = n := fun n hn => UInt8.toNat_ofNat_of_lt' hn
  rw [String.utf8EncodeChar] at hmem
  generalize c.val.toNat = v at hmem ⊢
  have hhigh : ∀ n, 0x80 ≤ n → n < 256 → b ≠ UInt8.ofNat n := by
    rintro n hlow hlt rfl
    rw [hbyte n hlt] at h
    omega
  have hrest : ∀ n, b ≠ UInt8.ofNat (n % 0x40 + 0x80) :=
    fun n => hhigh _ (by omega) (by omega)
  split at hmem
  next h₁ =>
    rw [List.mem_singleton.mp hmem, hbyte v (by omega)]
  · exfalso
    split at hmem
    · simp only [List.mem_cons, List.not_mem_nil, or_false, hrest,
        hhigh (v / 64 % 0x20 + 0xc0) (by omega) (by omega)] at hmem
    split at hmem
    · simp only [List.mem_cons, List.not_mem_nil, or_false, hrest,
        hhigh (v / 4096 % 0x10 + 0xe0) (by omega) (by omega)] at hmem
    · simp only [List.mem_cons, List.not_mem_nil, or_false, hrest,
        hhigh (v / 262144 % 0x08 + 0xf0) (by omega) (by omega)] at hmem

theorem exists_char {n : ℕ} (h : n.isValidChar) :
  ∃ c : Char, c.val.toNat = n
  := ⟨Char.ofNatAux n h, UInt32.toNat_ofNatLT⟩

theorem IsText.cons {bytes : List UInt8} (h : IsText bytes) {c : Char} {encoded : List UInt8}
    (hc : String.utf8EncodeChar c = encoded) :
  IsText (encoded ++ bytes)
  := by
  obtain ⟨text, rfl⟩ := h
  exact ⟨c :: text, by rw [List.flatMap_cons, hc]⟩

theorem ofNat_eq {n : ℕ} {b : UInt8} (h : n = b.toNat) :
  UInt8.ofNat n = b
  := by
  rw [h, UInt8.ofNat_toNat]

theorem exists_encode_one {b : UInt8} (h : b.toNat < 0x80) :
  ∃ c, String.utf8EncodeChar c = [b]
  := by
  obtain ⟨c, hc⟩ := @exists_char b.toNat (by left; omega)
  refine ⟨c, ?_⟩
  rw [String.utf8EncodeChar, hc, if_pos (by omega), UInt8.ofNat_toNat]

theorem exists_encode_two {b₀ b₁ : UInt8} (h₀ : 0xc2 ≤ b₀.toNat ∧ b₀.toNat < 0xe0)
    (h₁ : IsContinuation b₁) :
  ∃ c, String.utf8EncodeChar c = [b₀, b₁]
  := by
  obtain ⟨hlow, hhigh⟩ := h₁
  obtain ⟨c, hc⟩ := @exists_char ((b₀.toNat - 0xc0) * 64 + (b₁.toNat - 0x80)) (by left; omega)
  refine ⟨c, ?_⟩
  rw [String.utf8EncodeChar, hc, if_neg (by omega), if_pos (by omega), ofNat_eq, ofNat_eq] <;> omega

theorem exists_encode_three {b₀ b₁ b₂ : UInt8} (h₀ : 0xe0 ≤ b₀.toNat ∧ b₀.toNat < 0xf0)
    (h₁ : (if b₀.toNat = 0xe0 then 0xa0 else 0x80) ≤ b₁.toNat
      ∧ b₁.toNat ≤ if b₀.toNat = 0xed then 0x9f else 0xbf)
    (h₂ : IsContinuation b₂) :
  ∃ c, String.utf8EncodeChar c = [b₀, b₁, b₂]
  := by
  obtain ⟨hlow, hhigh⟩ := h₂
  have hvalid : ((b₀.toNat - 0xe0) * 4096 + (b₁.toNat - 0x80) * 64 + (b₂.toNat - 0x80)).isValidChar := by
    rw [Nat.isValidChar]
    split at h₁ <;> split at h₁ <;> omega
  obtain ⟨c, hc⟩ := exists_char hvalid
  refine ⟨c, ?_⟩
  have hlarge : 0x80 ≤ b₁.toNat ∧ b₁.toNat ≤ 0xbf ∧ (b₀.toNat = 0xe0 → 0xa0 ≤ b₁.toNat) := by
    split at h₁ <;> split at h₁ <;> omega
  rw [String.utf8EncodeChar, hc, if_neg (by omega), if_neg (by omega), if_pos (by omega), ofNat_eq,
    ofNat_eq, ofNat_eq] <;> omega

theorem exists_encode_four {b₀ b₁ b₂ b₃ : UInt8} (h₀ : 0xf0 ≤ b₀.toNat ∧ b₀.toNat < 0xf5)
    (h₁ : (if b₀.toNat = 0xf0 then 0x90 else 0x80) ≤ b₁.toNat
      ∧ b₁.toNat ≤ if b₀.toNat = 0xf4 then 0x8f else 0xbf)
    (h₂ : IsContinuation b₂) (h₃ : IsContinuation b₃) :
  ∃ c, String.utf8EncodeChar c = [b₀, b₁, b₂, b₃]
  := by
  obtain ⟨hlow₂, hhigh₂⟩ := h₂
  obtain ⟨hlow₃, hhigh₃⟩ := h₃
  have hvalid : ((b₀.toNat - 0xf0) * 262144 + (b₁.toNat - 0x80) * 4096 + (b₂.toNat - 0x80) * 64
      + (b₃.toNat - 0x80)).isValidChar := by
    rw [Nat.isValidChar]
    split at h₁ <;> split at h₁ <;> omega
  obtain ⟨c, hc⟩ := exists_char hvalid
  refine ⟨c, ?_⟩
  have hlarge : 0x80 ≤ b₁.toNat ∧ b₁.toNat ≤ 0xbf ∧ (b₀.toNat = 0xf0 → 0x90 ≤ b₁.toNat) := by
    split at h₁ <;> split at h₁ <;> omega
  rw [String.utf8EncodeChar, hc, if_neg (by omega), if_neg (by omega), if_neg (by omega), ofNat_eq,
    ofNat_eq, ofNat_eq, ofNat_eq] <;> omega

/-- Accepted bytes encode characters. -/
theorem isText_of_accepts {bytes : List UInt8} (h : Accepts .none bytes) :
  IsText bytes
  := by
  induction hlength : bytes.length using Nat.strong_induction_on generalizing bytes with
  | _ n ih =>
      cases bytes with
      | nil => exact ⟨[], rfl⟩
      | cons b₀ rest =>
          rw [List.length_cons] at hlength
          obtain ⟨next, hfirst, hrest⟩ := accepts_cons.mp h
          have hfirst : first b₀.toNat = some next := hfirst
          by_cases h₁ : b₀.toNat < 0x80
          · rw [first_one h₁] at hfirst
            cases hfirst
            obtain ⟨c, hc⟩ := exists_encode_one h₁
            exact (ih rest.length (by omega) hrest rfl).cons hc
          by_cases h₂ : b₀.toNat < 0xc2
          · rw [first, if_neg h₁, if_pos h₂] at hfirst
            cases hfirst
          by_cases h₃ : b₀.toNat < 0xe0
          · rw [first_two (by omega) h₃] at hfirst
            cases hfirst
            obtain ⟨b₁, rest, rfl, hb₁, hrest⟩ := (accepts_needed rfl).mp hrest
            obtain ⟨c, hc⟩ := exists_encode_two ⟨by omega, h₃⟩ hb₁
            exact (ih rest.length (by rw [← hlength, List.length_cons]; omega) hrest rfl).cons hc
          by_cases h₄ : b₀.toNat < 0xf0
          · obtain ⟨pending, heq, hneeded, hlow, hhigh⟩ := @first_three b₀.toNat (by omega) h₄
            rw [heq] at hfirst
            cases hfirst
            obtain ⟨b₁, rest, rfl, hb₁, hrest⟩ := (accepts_needed hneeded).mp hrest
            obtain ⟨b₂, rest, rfl, hb₂, hrest⟩ := (accepts_needed rfl).mp hrest
            rw [hlow, hhigh] at hb₁
            obtain ⟨c, hc⟩ := exists_encode_three ⟨by omega, h₄⟩ hb₁ hb₂
            exact (ih rest.length (by simp only [← hlength, List.length_cons]; omega) hrest rfl).cons hc
          by_cases h₅ : b₀.toNat < 0xf5
          · obtain ⟨pending, heq, hneeded, hlow, hhigh⟩ := @first_four b₀.toNat (by omega) h₅
            rw [heq] at hfirst
            cases hfirst
            obtain ⟨b₁, rest, rfl, hb₁, hrest⟩ := (accepts_needed hneeded).mp hrest
            obtain ⟨b₂, rest, rfl, hb₂, hrest⟩ := (accepts_needed rfl).mp hrest
            obtain ⟨b₃, rest, rfl, hb₃, hrest⟩ := (accepts_needed rfl).mp hrest
            rw [hlow, hhigh] at hb₁
            obtain ⟨c, hc⟩ := exists_encode_four ⟨by omega, h₅⟩ hb₁ hb₂ hb₃
            exact (ih rest.length (by simp only [← hlength, List.length_cons]; omega) hrest rfl).cons hc
          · rw [first, if_neg h₁, if_neg h₂, if_neg h₃, if_neg h₄, if_neg h₅] at hfirst
            cases hfirst

/-- The bytes that are accepted are those that encode characters. -/
theorem isText_iff {bytes : List UInt8} :
  IsText bytes ↔ Accepts .none bytes
  := by
  refine ⟨?_, isText_of_accepts⟩
  rintro ⟨text, rfl⟩
  induction text with
  | nil => exact accepts_nil.mpr rfl
  | cons c text ih => rwa [List.flatMap_cons, accepts_encode_append]

/-! ### Parts of a text -/

theorem accepts_append {pending : Pending} {bytes bytes' : List UInt8} :
  Accepts pending (bytes ++ bytes') ↔ ∃ next, run pending bytes = some next ∧ Accepts next bytes'
  := by
  rw [Accepts, run_append]
  cases run pending bytes <;> simp [Accepts]

/-- What follows a text. -/
theorem isText_append_iff {bytes : List UInt8} (h : IsText bytes) (bytes' : List UInt8) :
  IsText (bytes ++ bytes') ↔ IsText bytes'
  := by
  obtain ⟨text, rfl⟩ := h
  rw [isText_iff, isText_iff]
  induction text with
  | nil => rfl
  | cons c text ih => rw [List.flatMap_cons, List.append_assoc, accepts_encode_append, ih]

theorem not_isContinuation_of_isText {b : UInt8} {bytes : List UInt8} (h : IsText (b :: bytes)) :
  ¬ IsContinuation b
  := by
  rintro ⟨hlow, hhigh⟩
  obtain ⟨next, hfirst, -⟩ := accepts_cons.mp (isText_iff.mp h)
  have hfirst : first b.toNat = some next := hfirst
  rw [first, if_neg (by omega), if_pos (by omega)] at hfirst
  cases hfirst

/-- A byte that does not continue a character splits a text into texts. -/
theorem isText_append_cons_iff {b : UInt8} (hb : ¬ IsContinuation b) (bytes rest : List UInt8) :
  IsText (bytes ++ b :: rest) ↔ IsText bytes ∧ IsText (b :: rest)
  := by
  constructor
  · intro h
    obtain ⟨pending, hrun, hrest⟩ := accepts_append.mp (isText_iff.mp h)
    obtain ⟨next, hstep, -⟩ := accepts_cons.mp hrest
    have hneeded : pending.needed = 0 := by
      rw [step] at hstep
      split at hstep
      next hzero => exact hzero
      · split at hstep
        next hbounds =>
          have hcontinues := pending.continues
          exact absurd ⟨by omega, by omega⟩ hb
        · cases hstep
    have hbytes : IsText bytes := by
      rw [isText_iff, Accepts, hrun, Option.map_some, hneeded]
    exact ⟨hbytes, (isText_append_iff hbytes _).mp h⟩
  · rintro ⟨hbytes, hrest⟩
    exact (isText_append_iff hbytes _).mpr hrest

/-- The part of a text before a cut is a text exactly when the byte after the cut does not continue a
character. -/
theorem isText_take_iff {bytes : List UInt8} (h : IsText bytes) (n : ℕ) :
  IsText (bytes.take n) ↔ ∀ b ∈ bytes[n]?, ¬ IsContinuation b
  := by
  cases hdrop : bytes.drop n with
  | nil =>
      have hlength := List.drop_eq_nil_iff.mp hdrop
      rw [List.take_of_length_le hlength, List.getElem?_eq_none hlength]
      simp [h]
  | cons b rest =>
      have hb : bytes[n]? = some b := by
        rw [← List.head?_drop, hdrop]
        rfl
      have hsplit : bytes = bytes.take n ++ b :: rest := by rw [← hdrop, List.take_append_drop]
      rw [hb]
      simp only [Option.mem_def, Option.some_inj, forall_eq']
      constructor
      · intro htake
        rw [hsplit, isText_append_iff htake] at h
        exact not_isContinuation_of_isText h
      · intro hcontinuation
        rw [hsplit] at h
        exact ((isText_append_cons_iff hcontinuation _ _).mp h).1

/-! ### ASCII -/

theorem not_isContinuation_of_lt {b : UInt8} (h : b.toNat < 0x80) :
  ¬ IsContinuation b
  := fun hb => by
    have hlow := hb.1
    omega

/-- ASCII bytes are read where no character has begun, and begin none. -/
theorem accepts_ascii {pending : Pending} {bytes : List UInt8} (hne : bytes ≠ [])
    (h : ∀ b ∈ bytes, b.toNat < 0x80) (rest : List UInt8) :
  Accepts pending (bytes ++ rest) ↔ pending.needed = 0 ∧ Accepts .none rest
  := by
  induction bytes generalizing pending with
  | nil => exact absurd rfl hne
  | cons b bytes ih =>
      have hb := h b List.mem_cons_self
      have hcontinues := pending.continues
      have hstep : step pending b = if pending.needed = 0 then some .none else none := by
        rw [step]
        cases pending.needed with
        | zero => exact first_one hb
        | succ n => exact if_neg fun hbounds => by omega
      rw [List.cons_append, accepts_cons, hstep]
      by_cases hneeded : pending.needed = 0
      · simp only [hneeded, if_true, Option.some_inj, exists_eq_left', true_and]
        cases bytes with
        | nil => rfl
        | cons b' bytes =>
            rw [ih (List.cons_ne_nil _ _) fun b hb => h b (List.mem_cons_of_mem _ hb)]
            exact and_iff_right rfl
      · simp [hneeded]

theorem isText_ascii {bytes : List UInt8} (h : ∀ b ∈ bytes, b.toNat < 0x80) :
  IsText bytes
  := by
  rw [isText_iff]
  by_cases hne : bytes = []
  · rw [hne, accepts_nil]
    rfl
  · rw [← List.append_nil bytes, accepts_ascii hne h, accepts_nil]
    exact ⟨rfl, rfl⟩

/-! ### Escapes -/

/-- Every byte is kept or, if it is ASCII, written with ASCII bytes. -/
def KeepsText (esc : UInt8 → List UInt8) : Prop :=
  ∀ b, esc b = [b] ∨ (b.toNat < 0x80 ∧ esc b ≠ [] ∧ ∀ c ∈ esc b, c.toNat < 0x80)

/-- Escaped bytes are a text exactly when the bytes are. -/
theorem isText_flatMap_iff {esc : UInt8 → List UInt8} (hesc : KeepsText esc) (bytes : List UInt8) :
  IsText (bytes.flatMap esc) ↔ IsText bytes
  := by
  have hone : ∀ pending b rest, Accepts pending (esc b ++ rest) ↔ Accepts pending (b :: rest) := by
    intro pending b rest
    rcases hesc b with hb | ⟨hb, hne, hascii⟩
    · rw [hb, List.singleton_append]
    · rw [accepts_ascii hne hascii, ← List.singleton_append,
        accepts_ascii (List.cons_ne_nil b []) fun c hc => by rwa [List.mem_singleton.mp hc]]
  have hall : ∀ pending, Accepts pending (bytes.flatMap esc) ↔ Accepts pending bytes := by
    induction bytes with
    | nil => exact fun _ => Iff.rfl
    | cons b bytes ih =>
        intro pending
        rw [List.flatMap_cons, hone, accepts_cons, accepts_cons]
        simp only [ih]
  rw [isText_iff, isText_iff, hall]

end Utf8
