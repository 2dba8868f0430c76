import ShootingStar.Lib.Batch
import ShootingStar.Lib.Retry
import ShootingStar.Utilities.RedisClient

/-!
# Retries of the Redis client

A request to the server is tried a bounded number of times.  An attempt whose exception is a
timeout, a closed connection or another error of the connection is followed by the next one; every
other attempt is the last (`attempt_spec`).  A request reports the number of its attempts, and the
entries that it returns are those of the replies to its last attempt
(`retries_bounded`), although the attempts before it write to the same result.

The exceptions of the Redis library and the texts that are read as numbers are parameters.
-/

namespace RedisClient

/-! ### Configuration -/

/-- How often a request is tried, and the milliseconds between two attempts. -/
structure RetryConfig where
  maxAttempts : ℤ := 2
  delay : ℤ := 10
  deriving DecidableEq, Repr

/-- The options of a client. -/
structure Config where
  host : String := "localhost"
  port : ℤ := 6379
  db : ℤ := 0
  connectTimeout : ℤ := 100
  socketTimeout : ℤ := 100
  poolSize : ℕ := 4
  poolWaitTimeout : ℤ := 50
  poolConnectionLifetime : ℤ := 0
  poolConnectionIdleTime : ℤ := 0
  retry : RetryConfig := {}
  deriving DecidableEq, Repr

/-- A timeout must not be negative. -/
def validateNonNegativeTimeout (name : String) (value : ℤ) : Except String Unit :=
  if value < 0 then .error (name ++ " must not be negative") else .ok ()

/-- The check of the constructor, with the message of the exception it throws. -/
def validateRedisConfig (config : Config) : Except String Unit :=
  if config.host = "" then .error "RedisClient host must not be empty"
  else if config.port ≤ 0 ∨ 65535 < config.port then
    .error "RedisClient port must be between 1 and 65535"
  else if config.db < 0 then .error "RedisClient db must not be negative"
  else if config.poolSize = 0 then .error "RedisClient pool_size must be greater than zero"
  else if config.retry.maxAttempts ≤ 0 then
    .error "RedisClient retry.max_attempts must be greater than zero"
  else do
    validateNonNegativeTimeout "RedisClient connect_timeout" config.connectTimeout
    validateNonNegativeTimeout "RedisClient socket_timeout" config.socketTimeout
    validateNonNegativeTimeout "RedisClient pool_wait_timeout" config.poolWaitTimeout
    validateNonNegativeTimeout "RedisClient pool_connection_lifetime"
      config.poolConnectionLifetime
    validateNonNegativeTimeout "RedisClient pool_connection_idle_time"
      config.poolConnectionIdleTime
    validateNonNegativeTimeout "RedisClient retry.delay" config.retry.delay

/-- A valid configuration makes an attempt. -/
theorem maxAttempts_pos_of_validateRedisConfig {config : Config}
    (h : validateRedisConfig config = .ok ()) :
  0 < config.retry.maxAttempts
  := by
  by_contra hle
  rw [not_lt] at hle
  simp only [validateRedisConfig, hle, if_true] at h
  split_ifs at h

/-! ### Exceptions -/

/-- The exceptions of the library that the client names. -/
inductive ErrorClass where
  | error
  | ioError
  | timeoutError
  | closedError
  | replyError
  | protoError
  deriving DecidableEq, Repr

/-- Whether an exception of a class is caught as one of another: every one is an error, and a
timeout is an error of the connection. -/
def ErrorClass.isA (c base : ErrorClass) : Bool :=
  c = base || base = .error || (c = .timeoutError && base = .ioError)

/-- An exception with its text. -/
structure Exception where
  errorClass : ErrorClass
  what : String
  deriving DecidableEq, Repr

/-- The status of a request that has failed after some attempts. -/
def errorStatus (code : RedisErrorCode) (message : String) (attempts : ℕ) : RedisStatus where
  errorCode := code
  errorMessage := message
  attempts := attempts

/-- Another attempt may succeed. -/
def isRetryable (code : RedisErrorCode) : Bool :=
  code = .ioError || code = .timeout || code = .closed

/-- The clauses that catch an exception, in their order: the status, and whether the request returns
with it. -/
def catchException (e : Exception) (attempts : ℕ) : RedisStatus × Bool :=
  if e.errorClass.isA .timeoutError then (errorStatus .timeout e.what attempts, false)
  else if e.errorClass.isA .closedError then (errorStatus .closed e.what attempts, false)
  else if e.errorClass.isA .ioError then (errorStatus .ioError e.what attempts, false)
  else if e.errorClass.isA .replyError then (errorStatus .replyError e.what attempts, true)
  else if e.errorClass.isA .protoError then (errorStatus .protocolError e.what attempts, true)
  else (errorStatus .unknown e.what attempts, true)

/-- An exception after which the request is tried again. -/
def Exception.retried (e : Exception) : Bool :=
  e.errorClass.isA .ioError || e.errorClass.isA .closedError

theorem catchException_spec (e : Exception) (attempts : ℕ) :
  (catchException e attempts).1.ok = false
    ∧ (catchException e attempts).1.attempts = attempts
    ∧ (catchException e attempts).2 = !e.retried
    ∧ isRetryable (catchException e attempts).1.errorCode = e.retried
  := by
  obtain ⟨c, what⟩ := e
  cases c <;> exact ⟨rfl, rfl, rfl, rfl⟩

/-! ### The loop of attempts -/

/-- What a request does. -/
inductive RetryEvent where
  | attempt (number : ℕ)
  | sleep (milliseconds : ℤ)
  deriving DecidableEq, Repr

/-- The attempts of a request. -/
def attemptsOf (trace : List RetryEvent) : List ℕ :=
  trace.filterMap fun
    | .attempt number => some number
    | .sleep _ => none

/-- A request: its result so far and what it did. -/
structure Request (α : Type) where
  status : RedisStatus := {}
  values : List α := []
  trace : List RetryEvent := []

variable {α : Type}

/-- The `try` block of an attempt: what it leaves of the values, and the status with which it
returns or the exception that leaves it. -/
abbrev TryBlock (α : Type) : Type :=
  ℕ → List α → List α × Except Exception RedisStatus

/-- The pause after an attempt. -/
def sleepBeforeRetry (retry : RetryConfig) (attempt : ℕ) (status : RedisStatus) :
    List RetryEvent :=
  if attempt < retry.maxAttempts ∧ isRetryable status.errorCode = true ∧ 0 < retry.delay then
    [.sleep retry.delay]
  else []

/-- An attempt, and whether the request returns after it. -/
def attempt (retry : RetryConfig) (tryBlock : TryBlock α) (number : ℕ) (request : Request α) :
    Request α × Bool :=
  let (values, outcome) := tryBlock number request.values
  let trace := request.trace ++ [.attempt number]
  match outcome with
  | .ok status => ({ status := status, values := values, trace := trace }, true)
  | .error e =>
    let (status, returns) := catchException e number
    if returns then ({ status := status, values := values, trace := trace }, true)
    else
      ({ status := status, values := values,
         trace := trace ++ sleepBeforeRetry retry number status }, false)

/-- The loop of a request, whose attempts are numbered from 1. -/
def attempts (retry : RetryConfig) (tryBlock : TryBlock α) : Request α :=
  Retry.loop (attempt retry tryBlock) retry.maxAttempts.toNat 1 {}

/-! ### Requests -/

/-- The outcomes of the attempts: a direct request is answered with the texts of a range, and a
pipeline with a reply to each of its requests, unless an exception is thrown, also while a reply is
read. -/
structure Server where
  zrevrange : ℕ → String → ℤ → ℤ → Except Exception (List String)
  pipeline : ℕ → List String → ℤ → ℤ → Except Exception (List (Except Exception (List String)))

/-- The members read from a reply, up to the first score that is no number. -/
def readScoredMembers (parseDouble : String → Option ℚ) :
    List String → List RedisScoredMember → List RedisScoredMember × Bool
  | member :: text :: rawValues, values =>
    match parseDouble text with
    | none => (values, false)
    | some score => readScoredMembers parseDouble rawValues (values ++ [⟨member, score⟩])
  | _, values => (values, true)

/-- The `try` block of a direct request. -/
def tryZRevRange (parseDouble : String → Option ℚ) (server : Server) (key : String)
    (start stop : ℤ) : TryBlock RedisScoredMember := fun number values =>
  match server.zrevrange number key start stop with
  | .error e => (values, .error e)
  | .ok rawValues =>
    if rawValues.length % 2 ≠ 0 then
      (values, .ok (errorStatus .protocolError
        "Redis ZREVRANGE WITHSCORES returned an odd number of values" number))
    else
      match readScoredMembers parseDouble rawValues [] with
      | (values, false) =>
        (values, .ok (errorStatus .protocolError
          "Redis ZREVRANGE WITHSCORES returned an invalid score" number))
      | (values, true) => (values, .ok (okStatus number))

/-- The replies of a pipeline, read in turn. -/
def readReplies (parseDouble : String → Option ℚ) (number : ℕ) :
    List (Except Exception (List String)) → List (List RedisScoredMember) →
      List (List RedisScoredMember) × Except Exception RedisStatus
  | [], values => (values, .ok (okStatus number))
  | .error e :: _, values => (values, .error e)
  | .ok rawValues :: replies, values =>
    if rawValues.length % 2 ≠ 0 then
      (values, .ok (errorStatus .protocolError
        "Redis ZREVRANGE WITHSCORES returned an odd number of values" number))
    else
      match readScoredMembers parseDouble rawValues [] with
      | (_, false) =>
        (values, .ok (errorStatus .protocolError
          "Redis ZREVRANGE WITHSCORES returned an invalid score" number))
      | (scoredMembers, true) => readReplies parseDouble number replies (values ++ [scoredMembers])

/-- The `try` block of a pipeline. -/
def tryBatchZRevRange (parseDouble : String → Option ℚ) (server : Server) (keys : List String)
    (start stop : ℤ) : TryBlock (List RedisScoredMember) := fun number values =>
  match server.pipeline number keys start stop with
  | .error e => (values, .error e)
  | .ok replies =>
    if replies.length ≠ keys.length then
      (values, .ok (errorStatus .protocolError
        "Redis pipeline returned unexpected number of replies" number))
    else readReplies parseDouble number replies []

/-- The entries of a range, and what was done for them. -/
def requestZRevRangeWithScores (retry : RetryConfig) (parseDouble : String → Option ℚ)
    (server : Server) (key : String) (start stop : ℤ) :
    RedisScoredMemberListResult × List RetryEvent :=
  let request := attempts retry (tryZRevRange parseDouble server key start stop)
  ({ status := request.status, values := request.values }, request.trace)

/-- The entries of the same range of several keys, and what was done for them. -/
def requestBatchZRevRangeWithScores (retry : RetryConfig) (parseDouble : String → Option ℚ)
    (server : Server) (keys : List String) (start stop : ℤ) :
    RedisScoredMemberListsResult × List RetryEvent :=
  if keys = [] then ({ status := okStatus 0 }, [])
  else
    let request := attempts retry (tryBatchZRevRange parseDouble server keys start stop)
    ({ status := request.status, values := request.values }, request.trace)

/-- The client of a server. -/
def create (config : Config) (parseDouble : String → Option ℚ) (server : Server) :
    Except String RedisClient := do
  validateRedisConfig config
  .ok {
    zRevRangeWithScores := fun key start stop =>
      (requestZRevRangeWithScores config.retry parseDouble server key start stop).1
    batchZRevRangeWithScores := fun keys start stop =>
      (requestBatchZRevRangeWithScores config.retry parseDouble server keys start stop).1 }

/-! ### How attempts end -/

/-- Why an attempt has no result. -/
inductive Failure where
  | raised (e : Exception)
  | malformed
  deriving DecidableEq, Repr

/-- The members that a reply lists: texts in pairs, of a member and of its score. -/
def decode (parseDouble : String → Option ℚ) : List String → Option (List RedisScoredMember)
  | [] => some []
  | [_] => none
  | member :: text :: rawValues => do
    let score ← parseDouble text
    let values ← decode parseDouble rawValues
    some (⟨member, score⟩ :: values)

/-- How the reading of a reply ends. -/
def readReply (parseDouble : String → Option ℚ) (reply : Except Exception (List String)) :
    Except Failure (List RedisScoredMember) :=
  match reply with
  | .error e => .error (.raised e)
  | .ok rawValues =>
    match decode parseDouble rawValues with
    | none => .error .malformed
    | some values => .ok values

/-- How an attempt of a pipeline for `n` keys ends. -/
def readPipeline (parseDouble : String → Option ℚ) (n : ℕ)
    (replies : Except Exception (List (Except Exception (List String)))) :
    Except Failure (List (List RedisScoredMember)) :=
  match replies with
  | .error e => .error (.raised e)
  | .ok replies =>
    if replies.length = n then replies.mapM (readReply parseDouble) else .error .malformed

variable (parseDouble : String → Option ℚ)

theorem readScoredMembers_eq (rawValues : List String) (values : List RedisScoredMember)
    (h : rawValues.length % 2 = 0) :
  (∃ decoded, decode parseDouble rawValues = some decoded
      ∧ readScoredMembers parseDouble rawValues values = (values ++ decoded, true))
    ∨ (decode parseDouble rawValues = none
      ∧ (readScoredMembers parseDouble rawValues values).2 = false)
  := by
  induction rawValues using decode.induct generalizing values with
  | case1 => exact Or.inl ⟨[], rfl, by rw [readScoredMembers, List.append_nil]; simp⟩
  | case2 => simp at h
  | case3 member text rawValues ih =>
      rw [readScoredMembers, decode]
      cases hscore : parseDouble text with
      | none => exact Or.inr ⟨rfl, rfl⟩
      | some score =>
          have heven : rawValues.length % 2 = 0 := by
            simp only [List.length_cons] at h
            omega
          rcases ih (values ++ [⟨member, score⟩]) heven with
            ⟨decoded, hdecode, hread⟩ | ⟨hdecode, hread⟩
          · left
            use ⟨member, score⟩ :: decoded
            constructor
            · simp [hdecode]
            · simpa using hread
          · right
            constructor
            · simp [hdecode]
            · exact hread

/-- A reply that is decoded has an even number of texts. -/
theorem even_of_decode {parseDouble : String → Option ℚ} {rawValues : List String} {values : List RedisScoredMember}
    (h : decode parseDouble rawValues = some values) :
  rawValues.length % 2 = 0
  := by
  induction rawValues using decode.induct generalizing values with
  | case1 => rfl
  | case2 => cases h
  | case3 member text rawValues ih =>
      simp only [decode, Option.bind_eq_bind, Option.bind_eq_some_iff] at h
      obtain ⟨_, -, decoded, hdecode, -⟩ := h
      have heven := ih hdecode
      rw [List.length_cons, List.length_cons]
      omega

/-- A `try` block leaves the values, the exception or the status of an end. -/
def Leaves (number : ℕ) (ending : Except Failure (List α))
    (left : List α × Except Exception RedisStatus) : Prop :=
  match ending with
  | .ok values => left = (values, .ok (okStatus number))
  | .error (.raised e) => left.2 = .error e
  | .error .malformed => ∃ message, left.2 = .ok (errorStatus .protocolError message number)

theorem leaves_tryZRevRange (server : Server) (key : String) (start stop : ℤ) (number : ℕ)
    (values : List RedisScoredMember) :
  Leaves number (readReply parseDouble (server.zrevrange number key start stop))
    (tryZRevRange parseDouble server key start stop number values)
  := by
  rw [tryZRevRange]
  cases server.zrevrange number key start stop with
  | error e => rfl
  | ok rawValues =>
      by_cases heven : rawValues.length % 2 = 0
      · simp only [heven, ne_eq, not_true_eq_false, if_false]
        rcases readScoredMembers_eq parseDouble rawValues [] heven with
          ⟨decoded, hdecode, hread⟩ | ⟨hdecode, hread⟩
        · simp only [readReply, hdecode, hread]
          rfl
        · rcases hsplit : readScoredMembers parseDouble rawValues [] with ⟨left, ok⟩
          obtain rfl : ok = false := by simpa [hsplit] using hread
          simp only [readReply, hdecode]
          exact ⟨_, rfl⟩
      · have hdecode : decode parseDouble rawValues = none := by
          rw [Option.eq_none_iff_forall_ne_some]
          intro decoded h
          exact heven (even_of_decode h)
        simp only [heven, ne_eq, not_false_eq_true, if_true, readReply, hdecode]
        exact ⟨_, rfl⟩

theorem leaves_readReplies (number : ℕ) (replies : List (Except Exception (List String)))
    (values : List (List RedisScoredMember)) :
  Leaves number ((values ++ ·) <$> replies.mapM (readReply parseDouble))
    (readReplies parseDouble number replies values)
  := by
  induction replies generalizing values with
  | nil =>
      change readReplies parseDouble number [] values = (values ++ [], .ok (okStatus number))
      rw [List.append_nil, readReplies]
  | cons reply replies ih =>
      rw [List.mapM_cons]
      cases reply with
      | error e => rfl
      | ok rawValues =>
          rw [readReplies]
          by_cases heven : rawValues.length % 2 = 0
          · simp only [heven, ne_eq, not_true_eq_false, if_false]
            rcases readScoredMembers_eq parseDouble rawValues [] heven with
              ⟨decoded, hdecode, hread⟩ | ⟨hdecode, hread⟩
            · simp only [readReply, hdecode, hread, List.nil_append]
              have h := ih (values ++ [decoded])
              cases hrest : replies.mapM (readReply parseDouble) with
              | error f =>
                  rw [hrest] at h
                  exact h
              | ok rest =>
                  rw [hrest] at h
                  change Leaves number (.ok (values ++ decoded :: rest)) _
                  rw [List.append_cons]
                  exact h
            · rcases hsplit : readScoredMembers parseDouble rawValues [] with ⟨left, ok⟩
              obtain rfl : ok = false := by simpa [hsplit] using hread
              simp only [readReply, hdecode]
              exact ⟨_, rfl⟩
          · have hdecode : decode parseDouble rawValues = none := by
              rw [Option.eq_none_iff_forall_ne_some]
              intro decoded h
              exact heven (even_of_decode h)
            simp only [heven, ne_eq, not_false_eq_true, if_true, readReply, hdecode]
            exact ⟨_, rfl⟩

theorem leaves_tryBatchZRevRange (server : Server) (keys : List String) (start stop : ℤ)
    (number : ℕ) (values : List (List RedisScoredMember)) :
  Leaves number (readPipeline parseDouble keys.length (server.pipeline number keys start stop))
    (tryBatchZRevRange parseDouble server keys start stop number values)
  := by
  rw [tryBatchZRevRange]
  cases server.pipeline number keys start stop with
  | error e => rfl
  | ok replies =>
      by_cases hlength : replies.length = keys.length
      · have h := leaves_readReplies parseDouble number replies []
        simp only [readPipeline, hlength, if_true, ne_eq, not_true_eq_false, if_false]
        cases hreplies : replies.mapM (readReply parseDouble) with
        | error f =>
            rw [hreplies] at h
            exact h
        | ok rest =>
            rw [hreplies] at h
            exact h
      · simp only [readPipeline, hlength, if_false, ne_eq, not_false_eq_true, if_true]
        exact ⟨_, rfl⟩

/-! ### Runs -/

/-- The next attempt follows the attempt `number`. -/
def Retried (ending : ℕ → Except Failure (List α)) (number : ℕ) : Prop :=
  ∃ e, ending number = .error (.raised e) ∧ e.retried = true

/-- A request whose attempts end with `ending`: the attempts `1, …, status.attempts` are performed,
at most `maxAttempts`; every attempt before the last is one to be retried, and so is the last only
when no attempt is left.  The status tells whether the last attempt has a result, which is then the
result of the request. -/
structure Bounded (retry : RetryConfig) (ending : ℕ → Except Failure (List α))
    (status : RedisStatus) (values : List α) (trace : List RetryEvent) : Prop where
  one_le : 1 ≤ status.attempts
  le_maxAttempts : status.attempts ≤ retry.maxAttempts
  performed : attemptsOf trace = List.range' 1 status.attempts
  retried : ∀ number, 1 ≤ number → number < status.attempts → Retried ending number
  stopped : status.attempts < retry.maxAttempts → ¬ Retried ending status.attempts
  ok_iff : status.ok = true ↔ ∃ result, ending status.attempts = .ok result
  values_of_ok : status.ok = true → ending status.attempts = .ok values

/-- The result of a request whose last attempt either has the result or would be retried. -/
theorem Bounded.result {retry : RetryConfig} {ending : ℕ → Except Failure (List α)}
    {status : RedisStatus} {values : List α} {trace : List RetryEvent}
    (h : Bounded retry ending status values trace) {result : List α}
    (hresult : ending status.attempts = .ok result
      ∨ (status.attempts < retry.maxAttempts ∧ Retried ending status.attempts)) :
  status.ok = true ∧ values = result
  := by
  rcases hresult with hresult | ⟨hlt, hretried⟩
  · have hok := h.ok_iff.mpr ⟨result, hresult⟩
    refine ⟨hok, ?_⟩
    have hvalues := h.values_of_ok hok
    rw [hresult] at hvalues
    exact (Except.ok.inj hvalues).symm
  · exact absurd hretried (h.stopped hlt)

/-- A request before the attempt `number`. -/
structure BeforeAttempt (ending : ℕ → Except Failure (List α)) (number : ℕ)
    (request : Request α) : Prop where
  one_le : 1 ≤ number
  performed : attemptsOf request.trace = List.range' 1 (number - 1)
  retried : ∀ k, 1 ≤ k → k < number → Retried ending k
  attempts_eq : 1 < number → request.status.attempts = number - 1 ∧ request.status.ok = false

/-- A request that returns after the attempt `number`. -/
structure ReturnedAfter (ending : ℕ → Except Failure (List α)) (number : ℕ)
    (request : Request α) : Prop where
  attempts_eq : request.status.attempts = number
  performed : attemptsOf request.trace = List.range' 1 number
  retried : ∀ k, 1 ≤ k → k < number → Retried ending k
  stopped : ¬ Retried ending number
  ok_iff : request.status.ok = true ↔ ∃ result, ending number = .ok result
  values_of_ok : request.status.ok = true → ending number = .ok request.values

theorem attemptsOf_attempt (trace : List RetryEvent) (number : ℕ) :
  attemptsOf (trace ++ [.attempt number]) = attemptsOf trace ++ [number]
  := by
  simp [attemptsOf]

theorem attemptsOf_sleepBeforeRetry (trace : List RetryEvent) (retry : RetryConfig) (number : ℕ)
    (status : RedisStatus) :
  attemptsOf (trace ++ sleepBeforeRetry retry number status) = attemptsOf trace
  := by
  rw [sleepBeforeRetry]
  split <;> simp [attemptsOf]

theorem range'_concat_sub {number : ℕ} (h : 1 ≤ number) :
  List.range' 1 (number - 1) ++ [number] = List.range' 1 number
  := by
  obtain ⟨n, rfl⟩ := Nat.exists_eq_add_of_le h
  rw [Nat.add_sub_cancel_left, Nat.add_comm 1 n, List.range'_concat, Nat.one_mul, Nat.add_comm 1 n]

variable {retry : RetryConfig} {ending : ℕ → Except Failure (List α)} {tryBlock : TryBlock α}
  {number : ℕ} {request : Request α}

/-- The cases of an attempt: it has a result, it is retried, or it ends the request. -/
theorem attempt_spec (hleaves : ∀ number values, Leaves number (ending number) (tryBlock number values))
    (h : BeforeAttempt ending number request) :
  ((attempt retry tryBlock number request).2 = false →
      BeforeAttempt ending (number + 1) (attempt retry tryBlock number request).1)
    ∧ ((attempt retry tryBlock number request).2 = true →
      ReturnedAfter ending number (attempt retry tryBlock number request).1)
  := by
  have hperformed : attemptsOf (request.trace ++ [.attempt number]) = List.range' 1 number := by
    rw [attemptsOf_attempt, h.performed, range'_concat_sub h.one_le]
  have hleft := hleaves number request.values
  rw [attempt]
  rcases htry : tryBlock number request.values with ⟨values, outcome⟩
  rw [htry] at hleft
  rcases hending : ending number with (e | _) | result
  · rw [hending] at hleft
    obtain rfl : outcome = .error e := hleft
    obtain ⟨hok, hattempts, hreturns, -⟩ := catchException_spec e number
    rcases hcatch : catchException e number with ⟨status, returns⟩
    rw [hcatch] at hok hattempts hreturns
    simp only at hok hattempts hreturns
    cases hretried : e.retried with
    | true =>
        rw [hretried] at hreturns
        simp only [hcatch, hreturns]
        refine ⟨fun _ => ⟨by omega, ?_, ?_, fun _ => ⟨hattempts, hok⟩⟩, by simp⟩
        · exact (attemptsOf_sleepBeforeRetry _ _ _ _).trans hperformed
        · intro k hk hlt
          rcases Nat.lt_succ_iff_lt_or_eq.mp hlt with hlt | rfl
          · exact h.retried k hk hlt
          · exact ⟨e, hending, hretried⟩
    | false =>
        rw [hretried] at hreturns
        simp only [hcatch, hreturns]
        refine ⟨by simp, fun _ => ⟨hattempts, hperformed, h.retried, ?_, ?_, ?_⟩⟩
        · rintro ⟨e', he', hretried'⟩
          rw [hending] at he'
          obtain rfl := Failure.raised.inj (Except.error.inj he')
          rw [hretried] at hretried'
          cases hretried'
        · simp [hok, hending]
        · simp [hok]
  · rw [hending] at hleft
    obtain ⟨message, hleft⟩ := hleft
    obtain rfl : outcome = _ := hleft
    refine ⟨by simp, fun _ => ⟨rfl, hperformed, h.retried, ?_, ?_, ?_⟩⟩
    · rintro ⟨e', he', -⟩
      rw [hending] at he'
      cases he'
    · simp [errorStatus, hending]
    · simp [errorStatus]
  · rw [hending] at hleft
    obtain ⟨rfl, rfl⟩ := Prod.mk.inj hleft
    refine ⟨by simp, fun _ => ⟨rfl, hperformed, h.retried, ?_, ?_, fun _ => hending⟩⟩
    · rintro ⟨e', he', -⟩
      rw [hending] at he'
      cases he'
    · simp [okStatus, hending]

/-- A request that returns after one of its attempts. -/
theorem ReturnedAfter.bounded {number : ℕ} {request : Request α}
    (h : ReturnedAfter ending number request) (hone : 1 ≤ number)
    (hmax : (number : ℤ) ≤ retry.maxAttempts) :
  Bounded retry ending request.status request.values request.trace
  := by
  have hattempts := h.attempts_eq
  constructor
  · omega
  · omega
  · rw [hattempts]
    exact h.performed
  · rw [hattempts]
    exact h.retried
  · intro _
    rw [hattempts]
    exact h.stopped
  · rw [hattempts]
    exact h.ok_iff
  · rw [hattempts]
    exact h.values_of_ok

/-- A request whose attempts are used up. -/
theorem BeforeAttempt.bounded {number : ℕ} {request : Request α}
    (h : BeforeAttempt ending number request) (hone : 1 < number)
    (hmax : (number : ℤ) = retry.maxAttempts + 1) :
  Bounded retry ending request.status request.values request.trace
  := by
  obtain ⟨hattempts, hok⟩ := h.attempts_eq hone
  obtain ⟨e, hlast, -⟩ := h.retried (number - 1) (by omega) (by omega)
  constructor
  · omega
  · omega
  · rw [hattempts]
    exact h.performed
  · intro k hk hlt
    exact h.retried k hk (by omega)
  · omega
  · rw [hattempts, hok, hlast]
    simp
  · simp [hok]

/-- A request with at least one attempt. -/
theorem bounded_attempts
    (hleaves : ∀ number values, Leaves number (ending number) (tryBlock number values))
    (hmax : 0 < retry.maxAttempts) :
  Bounded retry ending (attempts retry tryBlock).status (attempts retry tryBlock).values
    (attempts retry tryBlock).trace
  := by
  have hstart : BeforeAttempt ending 1 ({} : Request α) := by
    constructor
    · exact Nat.le_refl 1
    · rfl
    · intro k hk hlt
      omega
    · intro h
      omega
  have hloop := @Retry.loop_induction _ (attempt retry tryBlock) (BeforeAttempt ending)
    (ReturnedAfter ending) (fun _ _ h => (attempt_spec hleaves h).1)
    (fun _ _ h => (attempt_spec hleaves h).2) retry.maxAttempts.toNat 1 {} hstart
  rcases hloop with h | ⟨m, hm, hlt, h⟩
  · exact h.bounded (by omega) (by omega)
  · exact h.bounded hm (by omega)

/-- A reply is read, and lists the members. -/
def Decoded (parseDouble : String → Option ℚ) (reply : Except Exception (List String))
    (members : List RedisScoredMember) : Prop :=
  ∃ rawValues, reply = .ok rawValues ∧ decode parseDouble rawValues = some members

theorem readReply_eq_ok {parseDouble : String → Option ℚ} {reply : Except Exception (List String)}
    {members : List RedisScoredMember} :
  readReply parseDouble reply = .ok members ↔ Decoded parseDouble reply members
  := by
  cases reply with
  | error e => simp [readReply, Decoded]
  | ok rawValues =>
      cases hdecode : decode parseDouble rawValues <;> simp [readReply, Decoded, hdecode]

/-- The replies of a pipeline with a result are read one by one. -/
theorem readPipeline_eq_ok {parseDouble : String → Option ℚ} {n : ℕ}
    {replies : Except Exception (List (Except Exception (List String)))}
    {result : List (List RedisScoredMember)} (h : readPipeline parseDouble n replies = .ok result) :
  ∃ read, replies = .ok read ∧ result.length = n ∧ List.Forall₂ (Decoded parseDouble) read result
  := by
  cases replies with
  | error e => cases h
  | ok read =>
      by_cases hlength : read.length = n
      · rw [readPipeline, if_pos hlength] at h
        have hall := Batch.forall₂_of_mapM_eq_ok h
        refine ⟨read, rfl, hall.length_eq.symm.trans hlength, hall.imp ?_⟩
        intro reply members hread
        exact readReply_eq_ok.mp hread
      · rw [readPipeline, if_neg hlength] at h
        cases h

/-- A server whose first attempt times out while the second reply is read, and whose later attempts
reply. -/
def flakyServer : Server where
  zrevrange _ _ _ _ := .ok ["7", "1"]
  pipeline number _ _ _ :=
    if number = 1 then .ok [.ok ["7", "1"], .error ⟨.timeoutError, "timed out"⟩]
    else .ok [.ok ["7", "1"], .ok []]

/-- Digits are read as a number. -/
def readDigits (text : String) : Option ℚ :=
  (Text.readDecimal 9 text).map Nat.cast

/-- When every request succeeds before its attempts are used up, with what the server holds, the
client answers a pipeline as its requests alone. -/
theorem answersAlike_of_create {config : Config} {parseDouble : String → Option ℚ}
    {server : Server} {client : RedisClient}
    (hcreate : create config parseDouble server = .ok client)
    {members : String → ℤ → ℤ → List RedisScoredMember}
    (hsingle : ∀ key start stop number,
      readReply parseDouble (server.zrevrange number key start stop) = .ok (members key start stop)
        ∨ (number < config.retry.maxAttempts
          ∧ Retried (fun number => readReply parseDouble (server.zrevrange number key start stop))
            number))
    (hbatch : ∀ keys start stop number,
      readPipeline parseDouble keys.length (server.pipeline number keys start stop)
          = .ok (keys.map fun key => members key start stop)
        ∨ (number < config.retry.maxAttempts
          ∧ Retried (fun number =>
              readPipeline parseDouble keys.length (server.pipeline number keys start stop))
            number)) :
  client.AnswersAlike
  := by
  obtain ⟨_, hvalid, hclient⟩ := Batch.of_bind_eq_ok hcreate
  obtain rfl := Except.ok.inj hclient
  have hmax := maxAttempts_pos_of_validateRedisConfig hvalid
  have hone : ∀ key start stop,
      (attempts config.retry (tryZRevRange parseDouble server key start stop)).status.ok = true
        ∧ (attempts config.retry (tryZRevRange parseDouble server key start stop)).values
          = members key start stop := by
    intro key start stop
    have hbounded := bounded_attempts (leaves_tryZRevRange parseDouble server key start stop) hmax
    exact hbounded.result (hsingle key start stop _)
  have hmany : ∀ keys start stop,
      (requestBatchZRevRangeWithScores config.retry parseDouble server keys start
            stop).1.status.ok = true
        ∧ (requestBatchZRevRangeWithScores config.retry parseDouble server keys start
            stop).1.values = keys.map fun key => members key start stop := by
    intro keys start stop
    rw [requestBatchZRevRangeWithScores]
    split
    · rename_i hkeys
      rw [hkeys]
      exact ⟨rfl, rfl⟩
    · have hbounded :=
        bounded_attempts (leaves_tryBatchZRevRange parseDouble server keys start stop) hmax
      exact hbounded.result (hbatch keys start stop _)
  constructor
  · intro key start stop
    exact (hone key start stop).1
  · intro keys start stop
    exact (hmany keys start stop).1
  · intro keys start stop
    refine (hmany keys start stop).2.trans ?_
    apply List.map_congr_left
    intro key _
    exact (hone key start stop).2.symm

end RedisClient
