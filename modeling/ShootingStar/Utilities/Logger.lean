import ShootingStar.Lib.JsonText

/-!
# Log lines

A log line is one JSON object, built by adding fields one after another.  Keys and strings are escaped
byte by byte, so no line contains a control byte, and each is read back as the fields that were added
(`readObject_finish`).  So the lines of the log are the lines that were written
(`splitOn_output`).
-/

namespace Logger

open JsonText

/-- The levels of a message. -/
inductive LogLevel where
  | debug | info | warning | error
  deriving DecidableEq, Repr

/-- The place of a level. -/
def LogLevel.toNat : LogLevel → ℕ
  | .debug => 0
  | .info => 1
  | .warning => 2
  | .error => 3

/-- A message of a level is logged. -/
def shouldLog (messageLogLevel minLogLevel : LogLevel) : Bool :=
  minLogLevel.toNat ≤ messageLogLevel.toNat

/-- The level of a severity; an unknown one is that of information. -/
def logLevelFromSeverity (severity : List UInt8) : LogLevel :=
  if severity = ascii "debug" then .debug
  else if severity = ascii "warning" then .warning
  else if severity = ascii "error" then .error
  else .info

/-! ### Escaping -/

/-- A number in hexadecimal, with zeros before it up to a width. -/
def paddedHex (width n : ℕ) : List UInt8 :=
  ((Nat.toDigits 16 n).leftpad width '0').map Char.toUInt8

/-- A byte as it is written within a text. -/
def escapeByte (ch : UInt8) : List UInt8 :=
  if ch = '\\'.toUInt8 then ascii "\\\\"
  else if ch = '"'.toUInt8 then ascii "\\\""
  else if ch = 0x08 then ascii "\\b"
  else if ch = 0x0c then ascii "\\f"
  else if ch = '\n'.toUInt8 then ascii "\\n"
  else if ch = '\r'.toUInt8 then ascii "\\r"
  else if ch = '\t'.toUInt8 then ascii "\\t"
  else if ch < 0x20 then ascii "\\u" ++ paddedHex 4 ch.toNat
  else [ch]

/-- A text as it is written between quotes. -/
def escapeJson (value : List UInt8) : List UInt8 :=
  value.flatMap escapeByte

/-! ### Building a line -/

/-- A line that is being written. -/
structure JsonLogBuilder where
  firstField : Bool := true
  line : List UInt8 := [openBrace]
  deriving DecidableEq, Repr

namespace JsonLogBuilder

/-- The line with a key, after a comma when it is not the first. -/
def addKey (builder : JsonLogBuilder) (key : List UInt8) : JsonLogBuilder where
  firstField := false
  line := (if builder.firstField then builder.line else builder.line ++ [comma])
    ++ [quote] ++ escapeJson key ++ ascii "\":"

/-- The line with a text under a key. -/
def addString (builder : JsonLogBuilder) (key value : List UInt8) : JsonLogBuilder :=
  let builder := builder.addKey key
  { builder with line := builder.line ++ [quote] ++ escapeJson value ++ [quote] }

/-- The line with an integer under a key. -/
def addInt (builder : JsonLogBuilder) (key : List UInt8) (value : ℤ) : JsonLogBuilder :=
  let builder := builder.addKey key
  { builder with line := builder.line ++ ascii (toString value) }

/-- The line with a truth value under a key. -/
def addBool (builder : JsonLogBuilder) (key : List UInt8) (value : Bool) : JsonLogBuilder :=
  let builder := builder.addKey key
  { builder with line := builder.line ++ ascii (if value then "true" else "false") }

/-- The whole line. -/
def finish (builder : JsonLogBuilder) : List UInt8 :=
  builder.line ++ [closeBrace]

/-- One addition of a field. -/
def add (builder : JsonLogBuilder) : Member → JsonLogBuilder
  | (key, .string value) => builder.addString key value
  | (key, .int value) => builder.addInt key value
  | (key, .bool value) => builder.addBool key value

/-- The builder after some additions. -/
def addAll (fields : List Member) : JsonLogBuilder :=
  fields.foldl add {}

end JsonLogBuilder

/-! ### Writing lines -/

/-- A text that is logged under a key. -/
structure LogField where
  key : List UInt8
  value : List UInt8
  deriving DecidableEq, Repr

/-- `LogStructured`: the line that is written, if one is. -/
def logStructured (formatUtcTimestamp : List UInt8) (minLogLevel : LogLevel)
    (severity loggerName event : List UInt8) (fields : List LogField) : Option (List UInt8) :=
  if shouldLog (logLevelFromSeverity severity) minLogLevel then
    let builder : JsonLogBuilder := {}
    let builder := builder.addString (ascii "timestamp") formatUtcTimestamp
    let builder := builder.addString (ascii "logger_name") loggerName
    let builder := builder.addString (ascii "severity") severity
    let builder := builder.addString (ascii "event") event
    let builder := fields.foldl (fun builder field => builder.addString field.key field.value) builder
    some builder.finish
  else none

/-- What `WriteLogLine` puts out for some lines. -/
def output (lines : List (List UInt8)) : List UInt8 :=
  lines.flatMap fun line => line ++ ['\n'.toUInt8]

/-! ### Escaped bytes -/

theorem readCode_paddedHex :
  ∀ n < 32, (paddedHex 4 n).length = 4
    ∧ (readCode (paddedHex 4 n)).bind encodeCode = some [UInt8.ofNat n]
  := by
  decide +kernel

theorem escapes_escapeByte :
  Escapes escapeByte
  := by
  intro b rest
  have hshort : ∀ {e byte : UInt8}, e ≠ 'u'.toUInt8 → shortEscape e = some byte →
      readChars ([backslash, e] ++ rest) = (readChars rest).map fun read => (byte :: read.1, read.2) :=
    fun hu he => readChars_short hu he rest
  rw [escapeByte]
  iterate 7
    split
    next h =>
      subst h
      exact hshort (by decide) rfl
  split
  next hcontrol =>
    obtain ⟨hlength, hcode⟩ := readCode_paddedHex b.toNat (UInt8.lt_iff_toNat_lt.mp hcontrol)
    rw [UInt8.ofNat_toNat] at hcode
    match paddedHex 4 b.toNat, hlength, hcode with
    | [d₁, d₂, d₃, d₄], _, hcode => exact readChars_unicode hcode rest
  next hbackslash hquote _ _ _ _ _ hcontrol => exact readChars_self hquote hbackslash hcontrol rest

/-- No byte is escaped as a control byte. -/
theorem le_of_mem_escapeByte {b c : UInt8} (h : c ∈ escapeByte b) :
  0x20 ≤ c
  := by
  have hshort : ∀ text ∈ ["\\\\", "\\\"", "\\b", "\\f", "\\n", "\\r", "\\t"], ∀ c ∈ ascii text, 0x20 ≤ c := by
    decide +kernel
  have hhex : ∀ n < 32, ∀ c ∈ ascii "\\u" ++ paddedHex 4 n, 0x20 ≤ c := by decide +kernel
  rw [escapeByte] at h
  iterate 7
    split at h
    · exact hshort _ (by decide) c h
  split at h
  next hcontrol => exact hhex b.toNat (UInt8.lt_iff_toNat_lt.mp hcontrol) c h
  next hcontrol =>
    rw [List.mem_singleton.mp h]
    exact UInt8.not_lt.mp hcontrol

/-! ### The finished line -/

namespace JsonLogBuilder

/-- An addition writes a member, after a comma unless it is the first. -/
theorem add_eq (builder : JsonLogBuilder) (field : Member) :
  builder.add field
    = ⟨false, builder.line ++ (if builder.firstField then [] else [comma])
        ++ writeMember escapeByte field⟩
  := by
  have hkey : ∀ key, builder.addKey key
      = ⟨false, builder.line ++ (if builder.firstField then [] else [comma])
        ++ (writeString escapeByte key ++ [colon])⟩ := by
    intro key
    have htext : ascii "\":" = [quote, colon] := rfl
    rw [addKey, htext]
    cases builder.firstField <;> simp [writeString, escapeJson]
  obtain ⟨key, value⟩ := field
  cases value <;>
    simp [add, addString, addInt, addBool, hkey, writeMember, writeValue, writeString, escapeJson]

/-- The additions after the first write members after commas. -/
theorem foldl_add (fields : List Member) (line : List UInt8) :
  fields.foldl add ⟨false, line⟩
    = ⟨false, line ++ (fields.map (writeMember escapeByte)).flatMap (comma :: ·)⟩
  := by
  induction fields generalizing line with
  | nil => simp
  | cons field fields ih =>
      rw [List.foldl_cons, add_eq, ih]
      simp

/-- A finished line is the object of the fields that were added. -/
theorem finish_addAll (fields : List Member) :
  (addAll fields).finish = writeObject escapeByte fields
  := by
  rw [finish, writeObject]
  cases fields with
  | nil => rfl
  | cons field fields =>
      rw [addAll, List.foldl_cons, add_eq, foldl_add, List.map_cons, intercalate_cons_eq]
      simp

end JsonLogBuilder

/-- No line contains a control byte, and each is read as the fields that were added, in order. -/
theorem readObject_finish (fields : List Member) :
  (∀ b ∈ (JsonLogBuilder.addAll fields).finish, 0x20 ≤ b)
    ∧ readObject (JsonLogBuilder.addAll fields).finish = some fields
  := by
  rw [JsonLogBuilder.finish_addAll]
  constructor
  · intro b
    exact of_mem_writeObject (fun _ _ => le_of_mem_escapeByte) fun _ hlow _ => hlow
  · exact readObject_writeObject escapes_escapeByte fields

/-! ### The log -/

/-- The members of a line that is logged. -/
theorem logStructured_eq_some {formatUtcTimestamp : List UInt8} {minLogLevel : LogLevel}
    {severity loggerName event : List UInt8} {fields : List LogField} {line : List UInt8}
    (h : logStructured formatUtcTimestamp minLogLevel severity loggerName event fields = some line) :
  line = writeObject escapeByte
    ([(ascii "timestamp", .string formatUtcTimestamp), (ascii "logger_name", .string loggerName),
      (ascii "severity", .string severity), (ascii "event", .string event)]
      ++ fields.map fun field => (field.key, .string field.value))
  := by
  rw [logStructured] at h
  split at h
  · rw [← Option.some.inj h, ← JsonLogBuilder.finish_addAll, JsonLogBuilder.addAll,
      List.foldl_append, List.foldl_map]
    rfl
  · cases h

/-- The lines of the log are the lines that were written. -/
theorem splitOn_output {lines : List (List UInt8)} (h : ∀ line ∈ lines, ∀ b ∈ line, 0x20 ≤ b) :
  (output lines).splitOn '\n'.toUInt8 = lines ++ [[]]
  := by
  have houtput : output lines = ['\n'.toUInt8].intercalate (lines ++ [[]]) := by
    induction lines with
    | nil => rfl
    | cons line lines ih =>
        rw [output, List.flatMap_cons, ← output, ih fun l hl => h l (List.mem_cons_of_mem _ hl)]
        cases lines <;> simp [List.intercalate_cons_cons]
  rw [houtput, List.splitOn_intercalate]
  · intro line hline hmem
    rcases List.mem_append.mp hline with hline | hline
    · exact absurd (h line hline _ hmem) (by decide)
    · rw [List.mem_singleton.mp hline] at hmem
      cases hmem
  · simp

end Logger
