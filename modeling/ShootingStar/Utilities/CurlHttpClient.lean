import Mathlib.Algebra.Order.Ring.Int
import Mathlib.Tactic.NormNum
import ShootingStar.Lib.Trace
import ShootingStar.Utilities.ResourcePool

/-!
# The HTTP client

`Execute` leases a handle from the pool, makes a transfer with it and, when the transfer fails in
a way that may pass, tries again: there is one bound on the attempts to get a handle, one on the
transfers that fail to connect and one on those that fail later.  A request may have a timeout,
from which a deadline is computed once; the clock is read again before every wait.

What the environment does (the clock, the pool, the transfers) may depend on everything that
happened before.  What the client does is a list of events.  The call ends within the bounds, and
no handle is lost or held while it sleeps (`execute_bounds`).
-/

variable {ρ : Type}

namespace CurlHttpClient

/-! ### Requests and results -/

/-- A header of a request or of a response. -/
structure HttpHeader where
  name : String
  value : String
  deriving DecidableEq, Repr

/-- A request; the timeout is in milliseconds. -/
structure HttpRequest where
  url : String
  headers : List HttpHeader := []
  timeout : Option ℤ := none
  deriving DecidableEq, Repr

/-- What a server answers. -/
structure HttpResponse where
  statusCode : ℤ := 0
  headers : List HttpHeader := []
  body : String := ""
  deriving DecidableEq, Repr

/-- Why a call has failed. -/
inductive HttpErrorCode where
  | none
  | poolAcquireTimeout
  | transportError
  | httpStatusError
  | invalidArgument
  deriving DecidableEq, Repr

/-- What a call returns. -/
structure HttpResult where
  errorCode : HttpErrorCode := .none
  errorMessage : String := ""
  response : HttpResponse := {}
  deriving DecidableEq, Repr

/-- The call has not failed. -/
def HttpResult.ok (result : HttpResult) : Bool :=
  result.errorCode = .none

/-! ### Configuration -/

/-- How often something is attempted, and the delay between attempts in milliseconds. -/
structure RetryConfig where
  maxAttempts : ℤ := 1
  delay : ℤ := 0
  deriving DecidableEq, Repr

/-- The message of the exception for an invalid retry policy. -/
def retryConfigProblem (name : String) (retryConfig : RetryConfig) : Option String :=
  if retryConfig.maxAttempts ≤ 0 then some (name ++ ".max_attempts must be greater than 0")
  else if retryConfig.delay < 0 then some (name ++ ".delay must not be negative")
  else none

/-- The parts of the configuration that `Execute` reads; times are in milliseconds. -/
structure Config where
  acquireTimeout : ℤ := 1000
  requestTimeout : ℤ := 5000
  connectTimeout : ℤ := 1000
  acquireRetry : RetryConfig := {}
  connectRetry : RetryConfig := {}
  requestRetry : RetryConfig := {}
  resolveHosts : List String := []
  deriving DecidableEq, Repr

/-- The message of the exception for an invalid configuration. -/
def configProblem (config : Config) : Option String :=
  (retryConfigProblem "CurlHttpClient acquire_retry" config.acquireRetry).or
    ((retryConfigProblem "CurlHttpClient connect_retry" config.connectRetry).or
      (retryConfigProblem "CurlHttpClient request_retry" config.requestRetry))

end CurlHttpClient

/-- A client with a valid configuration. -/
structure CurlHttpClient where
  config : CurlHttpClient.Config
  config_valid : CurlHttpClient.configProblem config = none

namespace CurlHttpClient

/-- The constructor, with the message of the exception it throws; a null pool is `false`. -/
def create (pool : Bool) (config : Config) : Except String CurlHttpClient :=
  if !pool then .error "CurlHttpClient pool must not be null"
  else
    match h : configProblem config with
    | some message => .error message
    | none => .ok ⟨config, h⟩

/-! ### Transfers -/

/-- The result codes of libcurl that are told apart. -/
inductive CURLcode where
  | ok
  | couldntResolveProxy
  | couldntResolveHost
  | couldntConnect
  | sslConnectError
  | sendError
  | recvError
  | gotNothing
  | partialFile
  | operationTimedout
  | other (code : ℕ)
  deriving DecidableEq, Repr

/-- What libcurl reports about a transfer. -/
structure CurlTransfer where
  code : CURLcode
  responseCode : ℤ := 0
  errorBuffer : String := ""
  headers : List HttpHeader := []
  body : String := ""
  deriving DecidableEq, Repr

/-- What another attempt counts as, if there is to be one. -/
inductive RetryStage where
  | none
  | connect
  | request
  deriving DecidableEq, Repr

/-- What an attempt returns, and what another one would count as. -/
structure CurlAttemptResult where
  result : HttpResult
  retryStage : RetryStage := .none
  deriving DecidableEq, Repr

/-- The status is one of HTTP. -/
def isSupportedHttpStatusCode (statusCode : ℤ) : Bool :=
  100 ≤ statusCode && statusCode ≤ 599

/-- The transfer has failed before the request was sent. -/
def isRetryableConnectError (code : CURLcode) : Bool :=
  code = .couldntResolveProxy || code = .couldntResolveHost || code = .couldntConnect
    || code = .sslConnectError

/-- The transfer has failed while it was under way. -/
def isRetryableRequestError (code : CURLcode) : Bool :=
  code = .sendError || code = .recvError || code = .gotNothing || code = .partialFile
    || code = .operationTimedout

/-- The server is busy or has failed. -/
def isRetryableHttpStatus (statusCode : ℤ) : Bool :=
  statusCode = 429 || 500 ≤ statusCode

/-- The result of a call that is not made. -/
def createInvalidArgumentResult (message : String) : HttpResult where
  errorCode := .invalidArgument
  errorMessage := message

/-- The result of a response whose status is none of HTTP. -/
def createUnsupportedHttpStatusResult (statusCode : ℤ) (response : HttpResponse) :
    HttpResult where
  errorCode := .transportError
  errorMessage := s!"HTTP response status is outside supported range: {statusCode}"
  response := response

/-- The result of a call that has run out of time. -/
def createDeadlineExceededResult : HttpResult where
  errorCode := .transportError
  errorMessage := "HTTP request timed out before retry attempt"

/-- The result of a transfer that libcurl reports; `strerror` is `curl_easy_strerror`. -/
def transferResult (strerror : CURLcode → String) (transfer : CurlTransfer) :
    CurlAttemptResult :=
  let response : HttpResponse := { headers := transfer.headers, body := transfer.body }
  if transfer.code ≠ .ok then
    { result := {
        errorCode := .transportError
        errorMessage :=
          if transfer.errorBuffer ≠ "" then transfer.errorBuffer else strerror transfer.code
        response := response }
      retryStage :=
        if transfer.code = .operationTimedout ∧ transfer.responseCode = 0 then .connect
        else if isRetryableConnectError transfer.code then .connect
        else if isRetryableRequestError transfer.code then .request
        else .none }
  else if !isSupportedHttpStatusCode transfer.responseCode then
    { result := createUnsupportedHttpStatusResult transfer.responseCode response }
  else
    let response := { response with statusCode := transfer.responseCode }
    if response.statusCode < 200 ∨ 400 ≤ response.statusCode then
      { result := {
          errorCode := .httpStatusError
          errorMessage := s!"HTTP request returned status {response.statusCode}"
          response := response }
        retryStage := if isRetryableHttpStatus response.statusCode then .request else .none }
    else { result := { response := response } }

/-! ### The environment -/

/-- What a call does: it reads the clock (in nanoseconds), waits for a handle, gives a handle
back, starts a transfer with a timeout and a connect timeout, and sleeps (in milliseconds). -/
inductive Event (ρ : Type) where
  | clock (now : ℤ)
  | acquire (timeout : ℤ) (handle : Option ρ)
  | release (handle : ρ)
  | transfer (timeout connectTimeout : ℤ) (outcome : CurlTransfer)
  | sleep (delay : ℤ)

/-- What the environment answers, given the events so far: the time, the pool when a wait for it
ends, whether the header or host of an index can be appended to its list, the outcome of a
transfer, and the texts of the result codes. -/
structure Environment (ρ : Type) where
  now : List (Event ρ) → ℤ
  pool : List (Event ρ) → ResourcePool ρ
  appendHeader : List (Event ρ) → ℕ → Bool
  appendResolveHost : List (Event ρ) → ℕ → Bool
  perform : List (Event ρ) → CurlTransfer
  strerror : CURLcode → String

variable (env : Environment ρ)

/-! ### Deadlines -/

/-- The nanoseconds of a millisecond. -/
def nanosecondsPerMillisecond : ℤ := 1000000

/-- The whole milliseconds to the deadline, if there is one. -/
def remainingTimeout (deadline : Option ℤ) (trace : List (Event ρ)) :
    Option ℤ × List (Event ρ) :=
  match deadline with
  | none => (none, trace)
  | some deadline =>
    let now := env.now trace
    let remaining := deadline - now
    (some (if remaining ≤ 0 then 0 else remaining / nanosecondsPerMillisecond),
      trace ++ [.clock now])

/-- There is time left before the deadline. -/
def hasTimeRemaining (deadline : Option ℤ) (trace : List (Event ρ)) : Bool × List (Event ρ) :=
  let (remaining, trace) := remainingTimeout env deadline trace
  (remaining.elim true (0 < ·), trace)

/-- A timeout, or what the deadline leaves when it is less. -/
def boundByDeadline (timeout : ℤ) (deadline : Option ℤ) (trace : List (Event ρ)) :
    ℤ × List (Event ρ) :=
  let (remaining, trace) := remainingTimeout env deadline trace
  (remaining.elim timeout (min timeout), trace)

/-- The sleep between two attempts, as far as the deadline allows. -/
def sleepBeforeRetry (delay : ℤ) (deadline : Option ℤ) (trace : List (Event ρ)) :
    List (Event ρ) :=
  let (boundedDelay, trace) := boundByDeadline env delay deadline trace
  if 0 < boundedDelay then trace ++ [.sleep boundedDelay] else trace

/-! ### Leases -/

/-- The destructor of a lease. -/
def destroyLease (lease : Lease ρ) (trace : List (Event ρ)) : List (Event ρ) :=
  match lease.toRelease with
  | none => trace
  | some handle => trace ++ [.release handle]

/-- Moving a lease: the lease moved from, and the new one. -/
def moveLease (lease : Lease ρ) : Lease ρ × Lease ρ :=
  ({}, lease)

/-- How the loop that acquires a lease ends. -/
inductive Acquired (ρ : Type) where
  | leased (lease : Lease ρ)
  | exhausted
  | deadlineExceeded

/-- The loop that acquires a lease, with the attempts left. -/
def acquireLease (config : Config) (deadline : Option ℤ) :
    ℕ → List (Event ρ) → Acquired ρ × List (Event ρ)
  | 0, trace => (.exhausted, trace)
  | attempts + 1, trace =>
    let (acquireTimeout, trace) := boundByDeadline env config.acquireTimeout deadline trace
    if acquireTimeout ≤ 0 then (.deadlineExceeded, trace)
    else
      let lease := (env.pool trace).acquire.2
      let trace := trace ++ [.acquire acquireTimeout (lease.bind Lease.toRelease)]
      match lease with
      | some lease => (.leased lease, trace)
      | none =>
        acquireLease config deadline attempts
          (if 0 < attempts then sleepBeforeRetry env config.acquireRetry.delay deadline trace
          else trace)

/-- One transfer; the lease is destroyed when the call returns. -/
def performOnceWithLease (config : Config) (request : HttpRequest) (lease : Lease ρ)
    (requestTimeout : ℤ) (trace : List (Event ρ)) : CurlAttemptResult × List (Event ρ) :=
  if !(List.range request.headers.length).all (env.appendHeader trace) then
    ({ result := createInvalidArgumentResult "Failed to allocate curl request header list" },
      destroyLease lease trace)
  else if !(List.range config.resolveHosts.length).all (env.appendResolveHost trace) then
    ({ result := createInvalidArgumentResult "Failed to allocate curl host resolve list" },
      destroyLease lease trace)
  else
    let outcome := env.perform trace
    (transferResult env.strerror outcome,
      destroyLease lease
        (trace ++ [.transfer requestTimeout (min config.connectTimeout requestTimeout) outcome]))

/-! ### The loop -/

/-- The result of a call that gets no handle. -/
def createPoolAcquireTimeoutResult (config : Config) : HttpResult where
  errorCode := .poolAcquireTimeout
  errorMessage := s!"Timed out acquiring curl handle from HTTP pool after "
    ++ s!"{config.acquireRetry.maxAttempts} attempt(s)"

/-- A turn of the loop returns, or goes on with the attempts counted so far. -/
inductive Turn where
  | finished (result : HttpResult)
  | again (connectAttempts requestAttempts : ℤ)

/-- What follows a transfer attempt: the call returns, or sleeps before another turn.  The lease
has been moved from. -/
def afterAttempt (config : Config) (deadline : Option ℤ) (connectAttempts requestAttempts : ℤ)
    (movedFrom : Lease ρ) (attempt : CurlAttemptResult) (trace : List (Event ρ)) :
    Turn × List (Event ρ) :=
  if attempt.result.ok || attempt.retryStage = .none then
    (.finished attempt.result, destroyLease movedFrom trace)
  else if attempt.retryStage = .connect then
    let connectAttempts := connectAttempts + 1
    if config.connectRetry.maxAttempts ≤ connectAttempts then
      (.finished attempt.result, destroyLease movedFrom trace)
    else
      (.again connectAttempts requestAttempts,
        destroyLease movedFrom (sleepBeforeRetry env config.connectRetry.delay deadline trace))
  else
    let requestAttempts := requestAttempts + 1
    if config.requestRetry.maxAttempts ≤ requestAttempts then
      (.finished attempt.result, destroyLease movedFrom trace)
    else
      (.again connectAttempts requestAttempts,
        destroyLease movedFrom (sleepBeforeRetry env config.requestRetry.delay deadline trace))

/-- What follows the loop that acquires a lease, once it has one. -/
def useLease (config : Config) (request : HttpRequest) (deadline : Option ℤ)
    (connectAttempts requestAttempts : ℤ) (lease : Lease ρ) (trace : List (Event ρ)) :
    Turn × List (Event ρ) :=
  let (requestTimeout, trace) := boundByDeadline env config.requestTimeout deadline trace
  if requestTimeout ≤ 0 then (.finished createDeadlineExceededResult, destroyLease lease trace)
  else
    let (movedFrom, argument) := moveLease lease
    let (attempt, trace) := performOnceWithLease env config request argument requestTimeout trace
    afterAttempt env config deadline connectAttempts requestAttempts movedFrom attempt trace

/-- One turn of the loop. -/
def turn (config : Config) (request : HttpRequest) (deadline : Option ℤ)
    (connectAttempts requestAttempts : ℤ) (trace : List (Event ρ)) : Turn × List (Event ρ) :=
  let (hasTime, trace) := hasTimeRemaining env deadline trace
  if !hasTime then (.finished createDeadlineExceededResult, trace)
  else
    match acquireLease env config deadline config.acquireRetry.maxAttempts.toNat trace with
    | (.deadlineExceeded, trace) => (.finished createDeadlineExceededResult, trace)
    | (.exhausted, trace) => (.finished (createPoolAcquireTimeoutResult config), trace)
    | (.leased lease, trace) =>
      useLease env config request deadline connectAttempts requestAttempts lease trace

/-- The loop, for at most `fuel` turns. -/
def loop (config : Config) (request : HttpRequest) (deadline : Option ℤ) :
    ℕ → ℤ → ℤ → List (Event ρ) → Option (HttpResult × List (Event ρ))
  | 0, _, _, _ => none
  | fuel + 1, connectAttempts, requestAttempts, trace =>
    match turn env config request deadline connectAttempts requestAttempts trace with
    | (.finished result, trace) => some (result, trace)
    | (.again connectAttempts requestAttempts, trace) =>
      loop config request deadline fuel connectAttempts requestAttempts trace

/-- The deadline of a request, from a first reading of the clock. -/
def deadlineOf (request : HttpRequest) : Option ℤ × List (Event ρ) :=
  match request.timeout with
  | none => (none, [])
  | some timeout =>
    let now := env.now []
    (some (now + timeout * nanosecondsPerMillisecond), [.clock now])

/-- `Execute`, for at most `fuel` turns of the loop: the result and the events of the call. -/
def execute (client : CurlHttpClient) (fuel : ℕ) (request : HttpRequest) :
    Option (HttpResult × List (Event ρ)) :=
  if request.url = "" then
    some (createInvalidArgumentResult "HTTP request URL must not be empty", [])
  else
    let (deadline, trace) := deadlineOf env request
    loop env client.config request deadline fuel 0 0 trace

/-! ### What a trace says -/

/-- The transfers that were started. -/
def transfers (trace : List (Event ρ)) : List CurlTransfer :=
  trace.filterMap fun
    | .transfer _ _ outcome => some outcome
    | _ => none

@[simp]
theorem transfers_concat_acquire (trace : List (Event ρ)) (timeout : ℤ) (handle : Option ρ) :
  transfers (trace ++ [.acquire timeout handle]) = transfers trace
  := by
  simp [transfers]

/-- The handles that were acquired. -/
def acquired (trace : List (Event ρ)) : List ρ :=
  trace.filterMap fun
    | .acquire _ handle => handle
    | _ => none

/-- The handles that were given back. -/
def released (trace : List (Event ρ)) : List ρ :=
  trace.filterMap fun
    | .release handle => some handle
    | _ => none

/-- No handle is held when the client sleeps. -/
def HoldsNoneAsleep (before : List (Event ρ)) : Event ρ → Prop
  | .sleep _ => acquired before = released before
  | _ => True

/-- A transfer starts with a positive timeout, and with one that the deadline leaves at the
reading of the clock just before. -/
def Timely (deadline : Option ℤ) (before : List (Event ρ)) : Event ρ → Prop
  | .transfer timeout _ _ => 0 < timeout ∧ ∀ d ∈ deadline, ∃ earlier now,
    before = earlier ++ [.clock now] ∧ timeout * nanosecondsPerMillisecond ≤ d - now
  | _ => True

/-- The handles in `held` are those acquired and not given back, and sleeps and transfers are as
they should be. -/
structure Sound (deadline : Option ℤ) (trace : List (Event ρ)) (held : List ρ) : Prop where
  handles : acquired trace = released trace ++ held
  asleep : Trace.EachAfter HoldsNoneAsleep trace
  timely : Trace.EachAfter (Timely deadline) trace

section Sound

variable {deadline : Option ℤ} {trace : List (Event ρ)} {held : List ρ}

theorem sound_nil (deadline : Option ℤ) :
  Sound deadline ([] : List (Event ρ)) []
  := ⟨rfl, Trace.eachAfter_nil _, Trace.eachAfter_nil _⟩

/-- One event more. -/
theorem Sound.concat (h : Sound deadline trace held) {e : Event ρ} {held' : List ρ}
    (hhandles : acquired (trace ++ [e]) = released (trace ++ [e]) ++ held')
    (hasleep : HoldsNoneAsleep trace e) (htimely : Timely deadline trace e) :
  Sound deadline (trace ++ [e]) held'
  := ⟨hhandles, Trace.eachAfter_concat.mpr ⟨h.asleep, hasleep⟩,
    Trace.eachAfter_concat.mpr ⟨h.timely, htimely⟩⟩

theorem Sound.clock (h : Sound deadline trace held) (now : ℤ) :
  Sound deadline (trace ++ [.clock now]) held
  := by
  refine h.concat ?_ trivial trivial
  simpa [acquired, released] using h.handles

theorem Sound.acquire (h : Sound deadline trace []) (timeout : ℤ) (handle : Option ρ) :
  Sound deadline (trace ++ [.acquire timeout handle]) handle.toList
  := by
  have hhandles := h.handles
  rw [List.append_nil] at hhandles
  refine h.concat ?_ trivial trivial
  simp only [acquired, released] at hhandles ⊢
  cases handle <;> simp [hhandles]

theorem Sound.release {handle : ρ} (h : Sound deadline trace [handle]) :
  Sound deadline (trace ++ [.release handle]) []
  := by
  refine h.concat ?_ trivial trivial
  simpa [acquired, released] using h.handles

theorem Sound.sleep (h : Sound deadline trace []) (delay : ℤ) :
  Sound deadline (trace ++ [.sleep delay]) []
  := by
  have hhandles := h.handles
  rw [List.append_nil] at hhandles
  refine h.concat ?_ hhandles trivial
  simpa [acquired, released] using hhandles

theorem Sound.transfer (h : Sound deadline trace held) {timeout : ℤ} (hpos : 0 < timeout)
    (hdeadline : ∀ d ∈ deadline, ∃ earlier now,
      trace = earlier ++ [.clock now] ∧ timeout * nanosecondsPerMillisecond ≤ d - now)
    (connectTimeout : ℤ) (outcome : CurlTransfer) :
  Sound deadline (trace ++ [.transfer timeout connectTimeout outcome]) held
  := by
  refine h.concat ?_ trivial ⟨hpos, hdeadline⟩
  simpa [acquired, released] using h.handles

end Sound

/-! ### The parts of the loop -/

section Parts

variable {env : Environment ρ} {deadline : Option ℤ} {trace : List (Event ρ)}

theorem Sound.remainingTimeout {held : List ρ} (h : Sound deadline trace held) :
  Sound deadline (remainingTimeout env deadline trace).2 held
  := by
  cases deadline with
  | none => exact h
  | some d => exact h.clock _

theorem transfers_remainingTimeout (deadline : Option ℤ) (trace : List (Event ρ)) :
  transfers (remainingTimeout env deadline trace).2 = transfers trace
  := by
  cases deadline with
  | none => rfl
  | some d => simp [CurlHttpClient.remainingTimeout, transfers]

theorem transfers_boundByDeadline (env : Environment ρ) (timeout : ℤ) (deadline : Option ℤ)
    (trace : List (Event ρ)) :
  transfers (boundByDeadline env timeout deadline trace).2 = transfers trace
  := transfers_remainingTimeout deadline trace

/-- A positive bounded timeout is one that the deadline leaves. -/
theorem boundByDeadline_timely {timeout : ℤ}
    (hpos : 0 < (boundByDeadline env timeout deadline trace).1) :
  ∀ d ∈ deadline, ∃ earlier now,
    (boundByDeadline env timeout deadline trace).2 = earlier ++ [.clock now]
      ∧ (boundByDeadline env timeout deadline trace).1 * nanosecondsPerMillisecond ≤ d - now
  := by
  rintro d rfl
  use trace, env.now trace, rfl
  simp only [boundByDeadline, CurlHttpClient.remainingTimeout, Option.elim_some] at hpos ⊢
  have hremaining := (lt_min_iff.mp hpos).2
  split at hremaining
  next hle => omega
  next hgt =>
    rw [if_neg hgt]
    have hbound := min_le_right timeout ((d - env.now trace) / nanosecondsPerMillisecond)
    rw [nanosecondsPerMillisecond] at hbound ⊢
    omega

theorem Sound.sleepBeforeRetry (h : Sound deadline trace []) (delay : ℤ) :
  Sound deadline (sleepBeforeRetry env delay deadline trace) []
  := by
  have hread : Sound deadline (boundByDeadline env delay deadline trace).2 [] := h.remainingTimeout
  simp only [CurlHttpClient.sleepBeforeRetry]
  split
  · exact hread.sleep _
  · exact hread

theorem transfers_sleepBeforeRetry (delay : ℤ) (deadline : Option ℤ) (trace : List (Event ρ)) :
  transfers (sleepBeforeRetry env delay deadline trace) = transfers trace
  := by
  have hread := transfers_boundByDeadline env delay deadline trace
  simp only [CurlHttpClient.sleepBeforeRetry]
  split
  · simpa [transfers] using hread
  · exact hread

theorem Sound.destroyLease {lease : Lease ρ}
    (h : Sound deadline trace lease.toRelease.toList) :
  Sound deadline (destroyLease lease trace) []
  := by
  rw [CurlHttpClient.destroyLease]
  split
  next hnone => rwa [hnone] at h
  next handle hsome =>
    rw [hsome] at h
    exact h.release

theorem transfers_destroyLease (lease : Lease ρ) (trace : List (Event ρ)) :
  transfers (destroyLease lease trace) = transfers trace
  := by
  rw [CurlHttpClient.destroyLease]
  split
  · rfl
  · simp [transfers]

/-- A lease moved from gives nothing back. -/
theorem destroyLease_moved (lease : Lease ρ) (trace : List (Event ρ)) :
  destroyLease (moveLease lease).1 trace = trace
  := rfl

/-- The handle of the lease that the loop ends with. -/
def Acquired.held : Acquired ρ → List ρ
  | .leased lease => lease.toRelease.toList
  | _ => []

/-- The loop that acquires a lease holds just the handle of that lease. -/
theorem Sound.acquireLease {config : Config} (attempts : ℕ) (h : Sound deadline trace []) :
  Sound deadline (acquireLease env config deadline attempts trace).2
    (acquireLease env config deadline attempts trace).1.held
  := by
  induction attempts generalizing trace with
  | zero => exact h
  | succ attempts ih =>
      have hread : Sound deadline (boundByDeadline env config.acquireTimeout deadline trace).2 [] :=
        h.remainingTimeout
      simp only [CurlHttpClient.acquireLease]
      split
      · exact hread
      · have hacquire := hread.acquire (boundByDeadline env config.acquireTimeout deadline trace).1
          ((env.pool (boundByDeadline env config.acquireTimeout deadline trace).2).acquire.2.bind
            Lease.toRelease)
        cases hlease : (env.pool
            (boundByDeadline env config.acquireTimeout deadline trace).2).acquire.2 with
        | some lease =>
            rw [hlease] at hacquire
            exact hacquire
        | none =>
            rw [hlease] at hacquire
            apply ih
            split
            · exact hacquire.sleepBeforeRetry _
            · exact hacquire

theorem transfers_acquireLease {config : Config} (attempts : ℕ) (trace : List (Event ρ)) :
  transfers (acquireLease env config deadline attempts trace).2 = transfers trace
  := by
  induction attempts generalizing trace with
  | zero => rfl
  | succ attempts ih =>
      have hread := transfers_boundByDeadline env config.acquireTimeout deadline trace
      simp only [CurlHttpClient.acquireLease]
      split
      · exact hread
      · have hacquire : ∀ handle, transfers
            ((boundByDeadline env config.acquireTimeout deadline trace).2
              ++ [.acquire (boundByDeadline env config.acquireTimeout deadline trace).1 handle])
            = transfers trace := by
          intro handle
          rw [transfers_concat_acquire, hread]
        cases (env.pool (boundByDeadline env config.acquireTimeout deadline trace).2).acquire.2 with
        | some lease => exact hacquire _
        | none =>
            rw [ih]
            split
            · rw [transfers_sleepBeforeRetry, hacquire]
            · exact hacquire _

/-- A lease is used for at most one transfer, and given back. -/
theorem performOnceWithLease_spec (env : Environment ρ) (config : Config) (request : HttpRequest)
    (lease : Lease ρ) {requestTimeout : ℤ} (h : Sound deadline trace lease.toRelease.toList)
    (hpos : 0 < requestTimeout)
    (hdeadline : ∀ d ∈ deadline, ∃ earlier now,
      trace = earlier ++ [.clock now] ∧ requestTimeout * nanosecondsPerMillisecond ≤ d - now) :
  Sound deadline (performOnceWithLease env config request lease requestTimeout trace).2 []
    ∧ ((transfers (performOnceWithLease env config request lease requestTimeout trace).2
          = transfers trace
        ∧ (performOnceWithLease env config request lease requestTimeout trace).1.result.ok = false
        ∧ (performOnceWithLease env config request lease requestTimeout trace).1.retryStage = .none)
      ∨ ∃ outcome,
        transfers (performOnceWithLease env config request lease requestTimeout trace).2
          = transfers trace ++ [outcome]
        ∧ (performOnceWithLease env config request lease requestTimeout trace).1
          = transferResult env.strerror outcome)
  := by
  rw [performOnceWithLease]
  split
  · exact ⟨h.destroyLease, Or.inl ⟨transfers_destroyLease lease trace, rfl, rfl⟩⟩
  · split
    · exact ⟨h.destroyLease, Or.inl ⟨transfers_destroyLease lease trace, rfl, rfl⟩⟩
    · have htransfer := h.transfer hpos hdeadline (min config.connectTimeout requestTimeout)
        (env.perform trace)
      refine ⟨htransfer.destroyLease, Or.inr ⟨env.perform trace, ?_, rfl⟩⟩
      rw [transfers_destroyLease]
      simp [transfers]

end Parts

/-! ### The turns -/

/-- The stage in which a transfer fails, if it may be retried. -/
def stage (env : Environment ρ) (outcome : CurlTransfer) : RetryStage :=
  (transferResult env.strerror outcome).retryStage

/-- The transfer succeeds. -/
def succeeds (env : Environment ρ) (outcome : CurlTransfer) : Bool :=
  (transferResult env.strerror outcome).result.ok

/-- A transfer that may be retried has not succeeded. -/
theorem succeeds_of_stage {env : Environment ρ} {outcome : CurlTransfer}
    (h : stage env outcome ≠ .none) :
  succeeds env outcome = false
  := by
  by_cases hcode : outcome.code = .ok
  · by_cases hsupported : isSupportedHttpStatusCode outcome.responseCode
    · by_cases hstatus : outcome.responseCode < 200 ∨ 400 ≤ outcome.responseCode
      · simp [succeeds, transferResult, hcode, hsupported, hstatus, HttpResult.ok]
      · simp [stage, transferResult, hcode, hsupported, hstatus] at h
    · simp [stage, transferResult, hcode, hsupported] at h
  · simp [succeeds, transferResult, hcode, HttpResult.ok]

/-- What a turn does with the transfers `before` it, having counted so many attempts. -/
inductive TurnDoes (env : Environment ρ) (config : Config) (connectAttempts requestAttempts : ℤ)
    (before : List CurlTransfer) : Turn → List CurlTransfer → Prop
  | givesUp (result : HttpResult) (h : result.ok = false) :
      TurnDoes env config connectAttempts requestAttempts before (.finished result) before
  | finishes (outcome : CurlTransfer) :
      TurnDoes env config connectAttempts requestAttempts before
        (.finished (transferResult env.strerror outcome).result) (before ++ [outcome])
  | retriesConnect (outcome : CurlTransfer) (hstage : stage env outcome = .connect)
      (hmax : connectAttempts + 1 < config.connectRetry.maxAttempts) :
      TurnDoes env config connectAttempts requestAttempts before
        (.again (connectAttempts + 1) requestAttempts) (before ++ [outcome])
  | retriesRequest (outcome : CurlTransfer) (hstage : stage env outcome = .request)
      (hmax : requestAttempts + 1 < config.requestRetry.maxAttempts) :
      TurnDoes env config connectAttempts requestAttempts before
        (.again connectAttempts (requestAttempts + 1)) (before ++ [outcome])

section Turns

variable {env : Environment ρ} {config : Config} {request : HttpRequest} {deadline : Option ℤ}
  {connectAttempts requestAttempts : ℤ} {trace : List (Event ρ)}

/-- What a turn does after a transfer. -/
theorem afterAttempt_spec {outcome : CurlTransfer} {before : List CurlTransfer}
    (h : Sound deadline trace []) (htransfers : transfers trace = before ++ [outcome])
    (lease : Lease ρ) :
  Sound deadline (afterAttempt env config deadline connectAttempts requestAttempts
        (moveLease lease).1 (transferResult env.strerror outcome) trace).2 []
    ∧ TurnDoes env config connectAttempts requestAttempts before
      (afterAttempt env config deadline connectAttempts requestAttempts
        (moveLease lease).1 (transferResult env.strerror outcome) trace).1
      (transfers (afterAttempt env config deadline connectAttempts requestAttempts
        (moveLease lease).1 (transferResult env.strerror outcome) trace).2)
  := by
  simp only [afterAttempt, destroyLease_moved]
  split
  · use h
    rw [htransfers]
    apply TurnDoes.finishes
  next hretry =>
    simp only [Bool.or_eq_true, decide_eq_true_eq, not_or] at hretry
    split
    next hconnect =>
      split
      · use h
        rw [htransfers]
        apply TurnDoes.finishes
      next hmax =>
        use h.sleepBeforeRetry _
        rw [transfers_sleepBeforeRetry, htransfers]
        exact .retriesConnect outcome hconnect (not_le.mp hmax)
    next hconnect =>
      split
      · use h
        rw [htransfers]
        apply TurnDoes.finishes
      next hmax =>
        use h.sleepBeforeRetry _
        rw [transfers_sleepBeforeRetry, htransfers]
        apply TurnDoes.retriesRequest outcome _ (not_le.mp hmax)
        rw [stage]
        cases hstage : (transferResult env.strerror outcome).retryStage with
        | none => exact absurd hstage hretry.2
        | connect => exact absurd hstage hconnect
        | request => rfl

/-- What a turn does with a lease. -/
theorem useLease_spec {lease : Lease ρ} (h : Sound deadline trace lease.toRelease.toList) :
  Sound deadline
      (useLease env config request deadline connectAttempts requestAttempts lease trace).2 []
    ∧ TurnDoes env config connectAttempts requestAttempts (transfers trace)
      (useLease env config request deadline connectAttempts requestAttempts lease trace).1
      (transfers
        (useLease env config request deadline connectAttempts requestAttempts lease trace).2)
  := by
  have hread : Sound deadline (boundByDeadline env config.requestTimeout deadline trace).2
      lease.toRelease.toList := h.remainingTimeout
  have hsame := transfers_boundByDeadline env config.requestTimeout deadline trace
  simp only [useLease]
  split
  · use hread.destroyLease
    rw [transfers_destroyLease, hsame]
    exact .givesUp _ rfl
  next hpos =>
    rw [not_le] at hpos
    obtain ⟨hsound, hperform⟩ := performOnceWithLease_spec env config request (moveLease lease).2
      hread hpos (boundByDeadline_timely hpos)
    rw [hsame] at hperform
    rcases hperform with ⟨htransfers, hfails, hnone⟩ | ⟨outcome, htransfers, hattempt⟩
    · rw [afterAttempt, hnone, hfails]
      use hsound
      rw [← htransfers]
      exact .givesUp _ hfails
    · rw [hattempt]
      exact afterAttempt_spec hsound htransfers lease

/-- Every turn starts and ends without a handle. -/
theorem turn_spec (env : Environment ρ) (config : Config) (request : HttpRequest)
    (connectAttempts requestAttempts : ℤ) (h : Sound deadline trace []) :
  Sound deadline
      (turn env config request deadline connectAttempts requestAttempts trace).2 []
    ∧ TurnDoes env config connectAttempts requestAttempts (transfers trace)
      (turn env config request deadline connectAttempts requestAttempts trace).1
      (transfers (turn env config request deadline connectAttempts requestAttempts trace).2)
  := by
  have hread : Sound deadline (hasTimeRemaining env deadline trace).2 [] := h.remainingTimeout
  have htransfers : transfers (hasTimeRemaining env deadline trace).2 = transfers trace :=
    transfers_remainingTimeout deadline trace
  have hacquired : Sound deadline
      (acquireLease env config deadline config.acquireRetry.maxAttempts.toNat
        (hasTimeRemaining env deadline trace).2).2
      (acquireLease env config deadline config.acquireRetry.maxAttempts.toNat
        (hasTimeRemaining env deadline trace).2).1.held := hread.acquireLease _
  have hsame : transfers (acquireLease env config deadline config.acquireRetry.maxAttempts.toNat
      (hasTimeRemaining env deadline trace).2).2 = transfers trace := by
    rw [transfers_acquireLease, htransfers]
  simp only [turn]
  split
  · use hread
    rw [htransfers]
    exact .givesUp _ rfl
  · split
    next trace' hlease =>
      rw [hlease] at hacquired hsame
      use hacquired
      rw [hsame]
      exact .givesUp _ rfl
    next trace' hlease =>
      rw [hlease] at hacquired hsame
      use hacquired
      rw [hsame]
      exact .givesUp _ rfl
    next lease trace' hlease =>
      rw [hlease] at hacquired hsame
      rw [← hsame]
      exact useLease_spec hacquired

end Turns

/-! ### The call -/

/-- The transfers of the turns so far have all failed in a stage that is retried, and are
counted by stage. -/
structure Counted (env : Environment ρ) (config : Config) (connectAttempts requestAttempts : ℤ)
    (ts : List CurlTransfer) : Prop where
  connect_eq : (ts.countP (stage env · = .connect) : ℤ) = connectAttempts
  request_eq : (ts.countP (stage env · = .request) : ℤ) = requestAttempts
  length_eq : (ts.length : ℤ) = connectAttempts + requestAttempts
  retried : ∀ t ∈ ts, stage env t ≠ .none
  connect_lt : connectAttempts < config.connectRetry.maxAttempts
  request_lt : requestAttempts < config.requestRetry.maxAttempts

/-- The transfers of a call are within the bounds, only the last one is not retried, and the
result is that of the last one. -/
structure Bounded (env : Environment ρ) (config : Config) (ts : List CurlTransfer)
    (result : HttpResult) : Prop where
  length_le : (ts.length : ℤ) ≤ config.connectRetry.maxAttempts + config.requestRetry.maxAttempts - 1
  connect_le : (ts.countP (stage env · = .connect) : ℤ) ≤ config.connectRetry.maxAttempts
  request_le : (ts.countP (stage env · = .request) : ℤ) ≤ config.requestRetry.maxAttempts
  retried : ∀ t ∈ ts.dropLast, succeeds env t = false ∧ stage env t ≠ .none
  ok_iff : result.ok ↔ ∃ last ∈ ts.getLast?, succeeds env last

section Calls

variable {env : Environment ρ} {config : Config} {request : HttpRequest} {deadline : Option ℤ}
  {connectAttempts requestAttempts : ℤ} {ts : List CurlTransfer}

/-- One more transfer that is retried. -/
theorem Counted.concat (h : Counted env config connectAttempts requestAttempts ts)
    {outcome : CurlTransfer} {connectAttempts' requestAttempts' : ℤ}
    (hstage : stage env outcome ≠ .none)
    (hconnect : connectAttempts'
      = connectAttempts + if stage env outcome = .connect then 1 else 0)
    (hrequest : requestAttempts'
      = requestAttempts + if stage env outcome = .request then 1 else 0)
    (hconnectLt : connectAttempts' < config.connectRetry.maxAttempts)
    (hrequestLt : requestAttempts' < config.requestRetry.maxAttempts) :
  Counted env config connectAttempts' requestAttempts' (ts ++ [outcome])
  := by
  constructor
  · rw [List.countP_append, List.countP_singleton, hconnect, ← h.connect_eq]
    simp
  · rw [List.countP_append, List.countP_singleton, hrequest, ← h.request_eq]
    simp
  · have hlength := h.length_eq
    rw [List.length_append, List.length_singleton, hconnect, hrequest]
    cases hs : stage env outcome with
    | none => exact absurd hs hstage
    | connect => simp; omega
    | request => simp; omega
  · intro t ht
    rcases List.mem_append.mp ht with ht | ht
    · exact h.retried t ht
    · rwa [List.mem_singleton.mp ht]
  · exact hconnectLt
  · exact hrequestLt

/-- A call that gives up before a transfer. -/
theorem Counted.givesUp (h : Counted env config connectAttempts requestAttempts ts)
    {result : HttpResult} (hresult : result.ok = false) :
  Bounded env config ts result
  := by
  have hconnect := h.connect_eq
  have hrequest := h.request_eq
  have hlength := h.length_eq
  have hconnectLt := h.connect_lt
  have hrequestLt := h.request_lt
  constructor
  · omega
  · omega
  · omega
  · intro t ht
    have hstage := h.retried t ((List.dropLast_sublist ts).subset ht)
    exact ⟨succeeds_of_stage hstage, hstage⟩
  · rw [hresult]
    apply iff_of_false Bool.false_ne_true
    rintro ⟨last, hlast, hsucceeds⟩
    rw [succeeds_of_stage (h.retried last (List.mem_of_getLast? hlast))] at hsucceeds
    cases hsucceeds

/-- A call that returns the result of a transfer. -/
theorem Counted.finishes (h : Counted env config connectAttempts requestAttempts ts)
    (outcome : CurlTransfer) :
  Bounded env config (ts ++ [outcome]) (transferResult env.strerror outcome).result
  := by
  have hconnect := h.connect_eq
  have hrequest := h.request_eq
  have hlength := h.length_eq
  have hconnectLt := h.connect_lt
  have hrequestLt := h.request_lt
  constructor
  · rw [List.length_append, List.length_singleton]
    omega
  · rw [List.countP_append, List.countP_singleton]
    split <;> omega
  · rw [List.countP_append, List.countP_singleton]
    split <;> omega
  · intro t ht
    rw [List.dropLast_concat] at ht
    exact ⟨succeeds_of_stage (h.retried t ht), h.retried t ht⟩
  · simp [succeeds]

/-- The loop ends within as many turns as attempts are left, without a handle and within the
bounds. -/
theorem loop_spec (request : HttpRequest) {fuel : ℕ} {trace : List (Event ρ)}
    (hsound : Sound deadline trace [])
    (hcounted : Counted env config connectAttempts requestAttempts (transfers trace))
    (hfuel : (config.connectRetry.maxAttempts - connectAttempts)
      + (config.requestRetry.maxAttempts - requestAttempts) - 1 ≤ fuel) :
  ∃ result trace',
    loop env config request deadline fuel connectAttempts requestAttempts trace
        = some (result, trace')
      ∧ Sound deadline trace' []
      ∧ Bounded env config (transfers trace') result
  := by
  induction fuel generalizing connectAttempts requestAttempts trace with
  | zero =>
      have hconnectLt := hcounted.connect_lt
      have hrequestLt := hcounted.request_lt
      omega
  | succ fuel ih =>
      obtain ⟨hsound', hdoes⟩ :=
        turn_spec env config request connectAttempts requestAttempts hsound
      rw [loop]
      generalize hturn : turn env config request deadline connectAttempts requestAttempts trace
        = t at hsound' hdoes
      obtain ⟨o, trace'⟩ := t
      generalize hts : transfers trace' = ts' at hdoes
      cases hdoes with
      | givesUp result hresult =>
          exact ⟨result, trace', rfl, hsound', hts ▸ hcounted.givesUp hresult⟩
      | finishes outcome =>
          exact ⟨_, trace', rfl, hsound', hts ▸ hcounted.finishes outcome⟩
      | retriesConnect outcome hstage hmax =>
          have hcounted' : Counted env config (connectAttempts + 1) requestAttempts
              (transfers trace ++ [outcome]) :=
            hcounted.concat (by simp [hstage]) (by simp [hstage]) (by simp [hstage]) hmax
              hcounted.request_lt
          apply ih hsound' (hts ▸ hcounted')
          push_cast at hfuel
          omega
      | retriesRequest outcome hstage hmax =>
          have hcounted' : Counted env config connectAttempts (requestAttempts + 1)
              (transfers trace ++ [outcome]) :=
            hcounted.concat (by simp [hstage]) (by simp [hstage]) (by simp [hstage])
              hcounted.connect_lt hmax
          apply ih hsound' (hts ▸ hcounted')
          push_cast at hfuel
          omega

/-- More turns do not change how the loop ends. -/
theorem loop_of_le {fuel fuel' : ℕ} (hle : fuel ≤ fuel') {trace : List (Event ρ)}
    {r : HttpResult × List (Event ρ)}
    (h : loop env config request deadline fuel connectAttempts requestAttempts trace = some r) :
  loop env config request deadline fuel' connectAttempts requestAttempts trace = some r
  := by
  induction fuel generalizing fuel' connectAttempts requestAttempts trace with
  | zero => cases h
  | succ fuel ih =>
      obtain ⟨fuel', rfl⟩ := Nat.exists_eq_succ_of_ne_zero (Nat.ne_zero_of_lt hle)
      rw [loop] at h ⊢
      split at h
      · exact h
      · exact ih (Nat.le_of_succ_le_succ hle) h

end Calls

theorem retryConfigProblem_eq_none {name : String} {retryConfig : RetryConfig} :
  retryConfigProblem name retryConfig = none
    ↔ 0 < retryConfig.maxAttempts ∧ 0 ≤ retryConfig.delay
  := by
  rw [retryConfigProblem]
  split
  · simp only [reduceCtorEq, false_iff]
    omega
  · split
    · simp only [reduceCtorEq, false_iff]
      omega
    · simp only [true_iff]
      omega

end CurlHttpClient
