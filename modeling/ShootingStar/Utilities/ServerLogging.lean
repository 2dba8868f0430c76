import ShootingStar.Utilities.Logger

/-!
# Logged calls

A server logs the request and the response of a call, rendered as JSON, and cuts a rendering that is
long.  The cut is made after a number of bytes, so it may fall within a character: the line is then no
longer in UTF-8 (`isText_logPayloadEvent_iff`).
-/

namespace Logger

open JsonText

/-- `kMaxPayloadJsonLength`. -/
def kMaxPayloadJsonLength : ℕ := 4096

/-- The text that is logged, and whether it was cut. -/
def truncateForLog (value : List UInt8) : List UInt8 × Bool :=
  if value.length ≤ kMaxPayloadJsonLength then (value, false)
  else (value.take kMaxPayloadJsonLength, true)

/-- The kind of a call. -/
inductive RpcType where
  | unary | clientStreaming | serverStreaming | bidiStreaming | unknown
  deriving DecidableEq, Repr

/-- The kind of a call as it is logged. -/
def rpcTypeToString : RpcType → List UInt8
  | .unary => ascii "unary"
  | .clientStreaming => ascii "client_streaming"
  | .serverStreaming => ascii "server_streaming"
  | .bidiStreaming => ascii "bidi_streaming"
  | .unknown => ascii "unknown"

/-- A message as the interceptor sees it: the identifiers in it, empty when it has none, and its
rendering or the error of rendering it. -/
structure Message where
  traceId : List UInt8
  requestId : List UInt8
  json : Except (List UInt8) (List UInt8)

/-- What is known of a call. -/
structure ServerLoggingInterceptor where
  loggerName : List UInt8
  minLogLevel : LogLevel
  /-- The peer of the call, when there is a context of it. -/
  peer : Option (List UInt8)
  method : List UInt8
  rpcType : RpcType
  traceId : List UInt8 := []
  requestId : List UInt8 := []
  hasTraceId : Bool := false
  hasRequestId : Bool := false
  requestLogged : Bool := false
  responseLogged : Bool := false

namespace ServerLoggingInterceptor

/-- `LogPayloadEvent`: the line that is written, if one is. -/
def logPayloadEvent (interceptor : ServerLoggingInterceptor)
    (formatUtcTimestamp event payloadFieldName : List UInt8)
    (messageJson : Except (List UInt8) (List UInt8)) : Option (List UInt8) :=
  if shouldLog .debug interceptor.minLogLevel then
    let builder : JsonLogBuilder := {}
    let builder := builder.addString (ascii "timestamp") formatUtcTimestamp
    let builder := builder.addString (ascii "logger_name") interceptor.loggerName
    let builder := builder.addString (ascii "severity") (ascii "debug")
    let builder := builder.addString (ascii "method") interceptor.method
    let builder :=
      if interceptor.hasTraceId then builder.addString (ascii "trace_id") interceptor.traceId
      else builder
    let builder :=
      if interceptor.hasRequestId then builder.addString (ascii "request_id") interceptor.requestId
      else builder
    let builder := builder.addString (ascii "event") event
    let builder := builder.addString (ascii "rpc_type") (rpcTypeToString interceptor.rpcType)
    let builder := builder.addString (ascii "peer") (interceptor.peer.getD [])
    match messageJson with
    | .error payloadError =>
      some (builder.addString (ascii "payload_json_error") payloadError).finish
    | .ok payloadJson =>
      let (payloadForLog, payloadTruncated) := truncateForLog payloadJson
      let builder := builder.addString payloadFieldName payloadForLog
      let builder := builder.addBool (ascii "payload_truncated") payloadTruncated
      some builder.finish
  else none

/-- `LogRequestMessage`, with the line it writes; the identifiers of the request are kept. -/
def logRequestMessage (interceptor : ServerLoggingInterceptor) (formatUtcTimestamp : List UInt8)
    (recvMessage : Option Message) : ServerLoggingInterceptor × Option (List UInt8) :=
  match interceptor.requestLogged, recvMessage with
  | false, some message =>
    let interceptor :=
      { interceptor with
        requestLogged := true
        traceId := message.traceId
        hasTraceId := !message.traceId.isEmpty
        requestId := message.requestId
        hasRequestId := !message.requestId.isEmpty }
    (interceptor, interceptor.logPayloadEvent formatUtcTimestamp (ascii "request_received")
      (ascii "request_json") message.json)
  | _, _ => (interceptor, none)

/-- `LogResponseMessage`, with the line it writes. -/
def logResponseMessage (interceptor : ServerLoggingInterceptor) (formatUtcTimestamp : List UInt8)
    (sendMessage : Option Message) : ServerLoggingInterceptor × Option (List UInt8) :=
  match interceptor.responseLogged, sendMessage with
  | false, some message =>
    let interceptor := { interceptor with responseLogged := true }
    (interceptor, interceptor.logPayloadEvent formatUtcTimestamp (ascii "response_sent")
      (ascii "response_json") message.json)
  | _, _ => (interceptor, none)

/-! ### The members of a line -/

/-- The members before those of the payload. -/
def commonFields (interceptor : ServerLoggingInterceptor) (formatUtcTimestamp event : List UInt8) :
    List Member :=
  [(ascii "timestamp", .string formatUtcTimestamp),
    (ascii "logger_name", .string interceptor.loggerName),
    (ascii "severity", .string (ascii "debug")), (ascii "method", .string interceptor.method)]
  ++ (if interceptor.hasTraceId then [(ascii "trace_id", .string interceptor.traceId)] else [])
  ++ (if interceptor.hasRequestId then [(ascii "request_id", .string interceptor.requestId)] else [])
  ++ [(ascii "event", .string event),
    (ascii "rpc_type", .string (rpcTypeToString interceptor.rpcType)),
    (ascii "peer", .string (interceptor.peer.getD []))]

/-- The members of the payload. -/
def payloadFields (payloadFieldName : List UInt8) :
    Except (List UInt8) (List UInt8) → List Member
  | .error payloadError => [(ascii "payload_json_error", .string payloadError)]
  | .ok payloadJson =>
    [(payloadFieldName, .string (truncateForLog payloadJson).1),
      (ascii "payload_truncated", .bool (truncateForLog payloadJson).2)]

theorem logPayloadEvent_eq_some {interceptor : ServerLoggingInterceptor}
    {formatUtcTimestamp event payloadFieldName : List UInt8}
    {messageJson : Except (List UInt8) (List UInt8)} {line : List UInt8}
    (h : interceptor.logPayloadEvent formatUtcTimestamp event payloadFieldName messageJson
      = some line) :
  line = writeObject escapeByte (interceptor.commonFields formatUtcTimestamp event
    ++ payloadFields payloadFieldName messageJson)
  := by
  rw [logPayloadEvent] at h
  split at h
  · rw [← JsonLogBuilder.finish_addAll, JsonLogBuilder.addAll]
    cases messageJson <;> cases htrace : interceptor.hasTraceId <;>
      cases hrequest : interceptor.hasRequestId <;>
    · simp only [htrace, hrequest] at h
      rw [← Option.some.inj h]
      simp only [commonFields, payloadFields, htrace, hrequest]
      rfl
  · cases h

/-- A line is written when all messages are logged. -/
theorem exists_logPayloadEvent {interceptor : ServerLoggingInterceptor}
    (hlevel : interceptor.minLogLevel = .debug) (formatUtcTimestamp event payloadFieldName : List UInt8)
    (messageJson : Except (List UInt8) (List UInt8)) :
  ∃ line, interceptor.logPayloadEvent formatUtcTimestamp event payloadFieldName messageJson = some line
  := by
  have hdebug : shouldLog .debug interceptor.minLogLevel = true := by
    rw [hlevel]
    rfl
  rw [logPayloadEvent, if_pos hdebug]
  cases messageJson <;> exact ⟨_, rfl⟩

/-! ### Lines as texts -/

theorem keepsText_escapeByte :
  Utf8.KeepsText escapeByte
  := by
  have hshort : ∀ text ∈ ["\\\\", "\\\"", "\\b", "\\f", "\\n", "\\r", "\\t"],
      ascii text ≠ [] ∧ ∀ c ∈ ascii text, c.toNat < 0x80 := by decide +kernel
  have hhex : ∀ n < 32, ∀ c ∈ ascii "\\u" ++ paddedHex 4 n, c.toNat < 0x80 := by decide +kernel
  intro b
  rw [escapeByte]
  iterate 7
    split
    next h =>
      subst h
      exact .inr ⟨by decide, hshort _ (by decide)⟩
  split
  next hcontrol =>
    have hlt : b.toNat < 32 := UInt8.lt_iff_toNat_lt.mp hcontrol
    exact .inr ⟨by omega, List.cons_ne_nil _ _, hhex b.toNat hlt⟩
  · exact .inl rfl

/-- What the interceptor knows of a call is in UTF-8. -/
structure IsText (interceptor : ServerLoggingInterceptor) : Prop where
  loggerName : Utf8.IsText interceptor.loggerName
  method : Utf8.IsText interceptor.method
  traceId : Utf8.IsText interceptor.traceId
  requestId : Utf8.IsText interceptor.requestId
  peer : Utf8.IsText (interceptor.peer.getD [])

theorem IsText.commonFields {interceptor : ServerLoggingInterceptor} (h : interceptor.IsText)
    {formatUtcTimestamp event : List UInt8} (htimestamp : Utf8.IsText formatUtcTimestamp)
    (hevent : Utf8.IsText event) {member : Member}
    (hmember : member ∈ interceptor.commonFields formatUtcTimestamp event) :
  member.IsText
  := by
  have hascii : ∀ {key text : List UInt8}, (∀ b ∈ key, b.toNat < 0x80) → Utf8.IsText text →
      Member.IsText (key, .string text) := by
    intro key text hkey htext
    refine ⟨Utf8.isText_ascii hkey, fun text' heq => ?_⟩
    rwa [← Value.string.inj heq]
  have hrpc : Utf8.IsText (rpcTypeToString interceptor.rpcType) := by
    apply Utf8.isText_ascii
    cases interceptor.rpcType <;> decide +kernel
  rw [ServerLoggingInterceptor.commonFields] at hmember
  rcases List.mem_append.mp hmember with hmember | hmember
  · rcases List.mem_append.mp hmember with hmember | hmember
    · rcases List.mem_append.mp hmember with hmember | hmember
      · simp only [List.mem_cons, List.not_mem_nil, or_false] at hmember
        rcases hmember with rfl | rfl | rfl | rfl
        · exact hascii (by decide +kernel) htimestamp
        · exact hascii (by decide +kernel) h.loggerName
        · exact hascii (by decide +kernel) (Utf8.isText_ascii (by decide +kernel))
        · exact hascii (by decide +kernel) h.method
      · split at hmember
        · rw [List.mem_singleton.mp hmember]
          exact hascii (by decide +kernel) h.traceId
        · cases hmember
    · split at hmember
      · rw [List.mem_singleton.mp hmember]
        exact hascii (by decide +kernel) h.requestId
      · cases hmember
  · simp only [List.mem_cons, List.not_mem_nil, or_false] at hmember
    rcases hmember with rfl | rfl | rfl
    · exact hascii (by decide +kernel) hevent
    · exact hascii (by decide +kernel) hrpc
    · exact hascii (by decide +kernel) h.peer

/-! ### The payload -/

theorem truncateForLog_fst (value : List UInt8) :
  (truncateForLog value).1 = value.take kMaxPayloadJsonLength
  := by
  rw [truncateForLog]
  split
  next hlength => exact (List.take_of_length_le hlength).symm
  · rfl

theorem truncateForLog_snd (value : List UInt8) :
  ((truncateForLog value).2 = false ∧ (truncateForLog value).1 = value)
    ∨ ((truncateForLog value).2 = true ∧ (truncateForLog value).1 <+: value
      ∧ (truncateForLog value).1 ≠ value)
  := by
  rw [truncateForLog]
  split
  · exact .inl ⟨rfl, rfl⟩
  next hlength =>
    refine .inr ⟨rfl, List.take_prefix _ _, fun heq => hlength ?_⟩
    have hcut := congrArg List.length heq
    rw [List.length_take] at hcut
    omega

/-- The line of a payload is in UTF-8 exactly when the cut does not fall within a character. -/
theorem isText_line_iff {interceptor : ServerLoggingInterceptor} (hcall : interceptor.IsText)
    {formatUtcTimestamp event payloadFieldName : List UInt8}
    (htimestamp : Utf8.IsText formatUtcTimestamp) (hevent : Utf8.IsText event)
    (hname : Utf8.IsText payloadFieldName) {payloadJson : List UInt8}
    (hpayload : Utf8.IsText payloadJson) {line : List UInt8}
    (h : interceptor.logPayloadEvent formatUtcTimestamp event payloadFieldName (.ok payloadJson)
      = some line) :
  Utf8.IsText line ↔ ∀ b ∈ payloadJson[kMaxPayloadJsonLength]?, ¬ Utf8.IsContinuation b
  := by
  have hkey : Utf8.IsText (ascii "payload_truncated") := Utf8.isText_ascii (by decide +kernel)
  have htruncated : Member.IsText
      (ascii "payload_truncated", .bool (truncateForLog payloadJson).2) :=
    ⟨hkey, fun _ heq => by cases heq⟩
  have hmember : Member.IsText (payloadFieldName, .string (truncateForLog payloadJson).1)
      ↔ Utf8.IsText (payloadJson.take kMaxPayloadJsonLength) := by
    rw [Member.IsText, truncateForLog_fst]
    simp [hname]
  rw [logPayloadEvent_eq_some h, isText_writeObject_iff keepsText_escapeByte, List.forall_mem_append,
    payloadFields, List.forall_mem_cons, List.forall_mem_singleton, and_iff_left htruncated, hmember,
    Utf8.isText_take_iff hpayload]
  exact and_iff_right fun member => hcall.commonFields htimestamp hevent

/-- The line of a payload is in UTF-8, and the payload that is read from it is the rendering or a proper
prefix of it that is flagged, exactly when the cut does not fall within a character. -/
theorem isText_logPayloadEvent_iff {interceptor : ServerLoggingInterceptor} (hcall : interceptor.IsText)
    {formatUtcTimestamp event payloadFieldName : List UInt8}
    (htimestamp : Utf8.IsText formatUtcTimestamp) (hevent : Utf8.IsText event)
    (hname : Utf8.IsText payloadFieldName) {payloadJson : List UInt8}
    (hpayload : Utf8.IsText payloadJson) {line : List UInt8}
    (h : interceptor.logPayloadEvent formatUtcTimestamp event payloadFieldName (.ok payloadJson)
      = some line) :
  (Utf8.IsText line ∧ ∃ members payloadForLog payloadTruncated,
      readObject line = some (members ++ [(payloadFieldName, .string payloadForLog),
        (ascii "payload_truncated", .bool payloadTruncated)])
      ∧ ((payloadTruncated = false ∧ payloadForLog = payloadJson)
        ∨ (payloadTruncated = true ∧ payloadForLog <+: payloadJson ∧ payloadForLog ≠ payloadJson)))
    ↔ ∀ b ∈ payloadJson[kMaxPayloadJsonLength]?, ¬ Utf8.IsContinuation b
  := by
  rw [isText_line_iff hcall htimestamp hevent hname hpayload h, logPayloadEvent_eq_some h]
  refine and_iff_left ⟨_, _, _, readObject_writeObject escapes_escapeByte _, ?_⟩
  exact truncateForLog_snd payloadJson

/-- A call of which nothing is known. -/
def bareCall : ServerLoggingInterceptor :=
  ⟨[], .debug, none, [], .unary, [], [], false, false, false, false⟩

theorem isText_bareCall :
  bareCall.IsText
  := by
  have hnil : Utf8.IsText [] := ⟨[], rfl⟩
  exact ⟨hnil, hnil, hnil, hnil, hnil⟩

/-- A rendering up to the end of a name of `n` letters. -/
def longName (n : ℕ) : List UInt8 :=
  ascii "\x7b\"name\":\"" ++ List.replicate n 'a'.toUInt8

theorem length_longName (n : ℕ) :
  (longName n).length = 9 + n
  := by
  have hkey : (ascii "\x7b\"name\":\"").length = 9 := rfl
  rw [longName, List.length_append, List.length_replicate, hkey]

theorem isText_longName (n : ℕ) :
  Utf8.IsText (longName n)
  := by
  have hkey : ∀ b ∈ ascii "\x7b\"name\":\"", b.toNat < 0x80 := by decide +kernel
  apply Utf8.isText_ascii
  intro b hb
  rcases List.mem_append.mp hb with hb | hb
  · exact hkey b hb
  · rw [List.eq_of_mem_replicate hb]
    decide

/-- A name that ends with a character of two bytes. -/
theorem isText_longName_append (n : ℕ) :
  Utf8.IsText (longName n ++ ([0xc3, 0xa9] ++ ascii "\"\x7d"))
  := (Utf8.isText_append_iff (isText_longName n) _).mpr ⟨['é', '"', '\x7d'], rfl⟩

/-- A rendering that is cut behind a character of two bytes is logged as a line in UTF-8. -/
theorem isText_logPayloadEvent_behind :
  kMaxPayloadJsonLength < (longName 4085 ++ ([0xc3, 0xa9] ++ ascii "\"\x7d")).length
    ∧ ∃ line, bareCall.logPayloadEvent [] (ascii "response_sent") (ascii "response_json")
        (.ok (longName 4085 ++ ([0xc3, 0xa9] ++ ascii "\"\x7d"))) = some line
      ∧ Utf8.IsText line
  := by
  have hlength := length_longName 4085
  obtain ⟨line, hline⟩ := @exists_logPayloadEvent bareCall rfl []
    (ascii "response_sent") (ascii "response_json")
    (.ok (longName 4085 ++ ([0xc3, 0xa9] ++ ascii "\"\x7d")))
  have hiff := isText_logPayloadEvent_iff isText_bareCall ⟨[], rfl⟩
    (Utf8.isText_ascii (by decide +kernel)) (Utf8.isText_ascii (by decide +kernel))
    (isText_longName_append 4085) hline
  have hrest : ([0xc3, 0xa9] ++ ascii "\"\x7d").length = 4 := rfl
  constructor
  · rw [List.length_append, hlength, hrest, kMaxPayloadJsonLength]
    omega
  · refine ⟨line, hline, (hiff.mpr ?_).1⟩
    rw [kMaxPayloadJsonLength, List.getElem?_append_right (by omega), hlength]
    intro b hb
    obtain rfl : '"'.toUInt8 = b := Option.some.inj hb
    decide

/-- A rendering with a character of two bytes across the cut is logged as a line that is not in
UTF-8. -/
theorem isText_logPayloadEvent_cut :
  ¬ (∀ (interceptor : ServerLoggingInterceptor) (payloadJson line : List UInt8), interceptor.IsText →
    Utf8.IsText payloadJson →
    interceptor.logPayloadEvent [] (ascii "response_sent") (ascii "response_json") (.ok payloadJson)
      = some line →
    Utf8.IsText line)
  := by
  intro hall
  have hlength := length_longName 4086
  have hpayload := isText_longName_append 4086
  obtain ⟨line, hline⟩ := @exists_logPayloadEvent bareCall rfl []
    (ascii "response_sent") (ascii "response_json")
    (.ok (longName 4086 ++ ([0xc3, 0xa9] ++ ascii "\"\x7d")))
  have hcut := (isText_line_iff isText_bareCall ⟨[], rfl⟩ (Utf8.isText_ascii (by decide +kernel))
    (Utf8.isText_ascii (by decide +kernel)) hpayload hline).mp
      (hall _ _ _ isText_bareCall hpayload hline)
  refine hcut 0xa9 ?_ (by decide)
  rw [kMaxPayloadJsonLength, List.getElem?_append_right (by omega), hlength]
  rfl

end ServerLoggingInterceptor

end Logger
