import ShootingStar.Utilities.CurlHttpClient

/-!
# Deadlines of HTTP calls

A call that has a deadline reads the clock before every wait, and waits for no longer than the deadline
leaves at that reading (`budgeted_loop`).  Where a wait takes no longer than its timeout, a call whose
timeout is not negative is over by its deadline, but for the time that passes between waits
(`execute_deadline`).
-/

variable {ρ : Type}

namespace CurlHttpClient

/-! ### Budgets -/

/-- The whole milliseconds that a deadline leaves. -/
def remainingAt (deadline now : ℤ) : ℤ :=
  if deadline - now ≤ 0 then 0 else (deadline - now) / nanosecondsPerMillisecond

/-- A timeout is positive.  Without a deadline it is its bound, and with one it is the lesser of its
bound and what the deadline leaves at the reading of the clock just before. -/
def Within (deadline : Option ℤ) (before : List (Event ρ)) (bound timeout : ℤ) : Prop :=
  0 < timeout ∧
    match deadline with
    | none => timeout = bound
    | some deadline => ∃ earlier now,
      before = earlier ++ [.clock now] ∧ timeout = min bound (remainingAt deadline now)

/-- The clock tells the time of the environment, and every wait is within its budget. -/
def Budgeted (env : Environment ρ) (config : Config) (deadline : Option ℤ)
    (before : List (Event ρ)) : Event ρ → Prop
  | .clock now => now = env.now before
  | .acquire timeout _ => Within deadline before config.acquireTimeout timeout
  | .release _ => True
  | .transfer timeout connectTimeout _ =>
    Within deadline before config.requestTimeout timeout
      ∧ connectTimeout = min config.connectTimeout timeout
  | .sleep delay =>
    ∃ bound ∈ [config.acquireRetry.delay, config.connectRetry.delay, config.requestRetry.delay],
      Within deadline before bound delay

theorem Within.le {deadline bound timeout : ℤ} {before : List (Event ρ)}
    (h : Within (some deadline) before bound timeout) :
  ∃ earlier now, before = earlier ++ [.clock now]
    ∧ timeout * nanosecondsPerMillisecond ≤ deadline - now
  := by
  obtain ⟨hpos, earlier, now, hbefore, htimeout⟩ := h
  use earlier, now, hbefore
  have hle : timeout ≤ remainingAt deadline now := by
    rw [htimeout]
    apply min_le_right
  rw [remainingAt] at hle
  split at hle
  · omega
  · rw [nanosecondsPerMillisecond] at hle ⊢
    omega

/-! ### The parts of a call -/

section Parts

variable {env : Environment ρ} {config : Config} {deadline : Option ℤ} {trace : List (Event ρ)}

theorem budgeted_remainingTimeout (h : Trace.EachAfter (Budgeted env config deadline) trace) :
  Trace.EachAfter (Budgeted env config deadline) (remainingTimeout env deadline trace).2
  := by
  rcases deadline with - | deadline
  · exact h
  · exact Trace.eachAfter_concat.mpr ⟨h, rfl⟩

/-- A positive timeout that the deadline bounds, if there is one, is within its budget. -/
theorem within_boundByDeadline {bound : ℤ}
    (hpos : 0 < (boundByDeadline env bound deadline trace).1) :
  Within deadline (boundByDeadline env bound deadline trace).2 bound
    (boundByDeadline env bound deadline trace).1
  := by
  use hpos
  rcases deadline with - | deadline
  · rfl
  · exact ⟨trace, env.now trace, rfl, rfl⟩

theorem budgeted_sleepBeforeRetry (h : Trace.EachAfter (Budgeted env config deadline) trace)
    {delay : ℤ} (hdelay : delay
      ∈ [config.acquireRetry.delay, config.connectRetry.delay, config.requestRetry.delay]) :
  Trace.EachAfter (Budgeted env config deadline)
    (sleepBeforeRetry env delay deadline trace)
  := by
  have hread := budgeted_remainingTimeout h
  simp only [sleepBeforeRetry]
  split
  next hpos =>
    rw [Trace.eachAfter_concat]
    exact ⟨hread, delay, hdelay, within_boundByDeadline hpos⟩
  · exact hread

theorem budgeted_destroyLease (h : Trace.EachAfter (Budgeted env config deadline) trace)
    (lease : Lease ρ) :
  Trace.EachAfter (Budgeted env config deadline) (destroyLease lease trace)
  := by
  rw [destroyLease]
  split
  · exact h
  · rw [Trace.eachAfter_concat]
    exact ⟨h, trivial⟩

theorem budgeted_acquireLease (attempts : ℕ)
    (h : Trace.EachAfter (Budgeted env config deadline) trace) :
  Trace.EachAfter (Budgeted env config deadline)
    (acquireLease env config deadline attempts trace).2
  := by
  induction attempts generalizing trace with
  | zero => exact h
  | succ attempts ih =>
      have hread := budgeted_remainingTimeout h
      simp only [acquireLease]
      split
      · exact hread
      next hpos =>
        have hacquire : ∀ handle, Trace.EachAfter (Budgeted env config deadline)
            ((boundByDeadline env config.acquireTimeout deadline trace).2
              ++ [.acquire (boundByDeadline env config.acquireTimeout deadline trace).1
                handle]) := by
          intro handle
          rw [Trace.eachAfter_concat]
          exact ⟨hread, within_boundByDeadline (not_le.mp hpos)⟩
        split
        · apply hacquire
        · apply ih
          split
          · exact budgeted_sleepBeforeRetry (hacquire _) (by simp)
          · apply hacquire

theorem budgeted_performOnceWithLease (h : Trace.EachAfter (Budgeted env config deadline) trace)
    (request : HttpRequest) (lease : Lease ρ) {requestTimeout : ℤ}
    (hwithin : Within deadline trace config.requestTimeout requestTimeout) :
  Trace.EachAfter (Budgeted env config deadline)
    (performOnceWithLease env config request lease requestTimeout trace).2
  := by
  rw [performOnceWithLease]
  split
  · exact budgeted_destroyLease h lease
  · split
    · exact budgeted_destroyLease h lease
    · apply budgeted_destroyLease
      rw [Trace.eachAfter_concat]
      exact ⟨h, hwithin, rfl⟩

theorem budgeted_afterAttempt (h : Trace.EachAfter (Budgeted env config deadline) trace)
    (connectAttempts requestAttempts : ℤ) (movedFrom : Lease ρ) (attempt : CurlAttemptResult) :
  Trace.EachAfter (Budgeted env config deadline)
    (afterAttempt env config deadline connectAttempts requestAttempts movedFrom attempt
      trace).2
  := by
  have hconnect : Trace.EachAfter (Budgeted env config deadline)
      (sleepBeforeRetry env config.connectRetry.delay deadline trace) :=
    budgeted_sleepBeforeRetry h (by simp)
  have hrequest : Trace.EachAfter (Budgeted env config deadline)
      (sleepBeforeRetry env config.requestRetry.delay deadline trace) :=
    budgeted_sleepBeforeRetry h (by simp)
  simp only [afterAttempt]
  split
  · exact budgeted_destroyLease h movedFrom
  · split
    · split
      · exact budgeted_destroyLease h movedFrom
      · exact budgeted_destroyLease hconnect movedFrom
    · split
      · exact budgeted_destroyLease h movedFrom
      · exact budgeted_destroyLease hrequest movedFrom

theorem budgeted_useLease (h : Trace.EachAfter (Budgeted env config deadline) trace)
    (request : HttpRequest) (connectAttempts requestAttempts : ℤ) (lease : Lease ρ) :
  Trace.EachAfter (Budgeted env config deadline)
    (useLease env config request deadline connectAttempts requestAttempts lease trace).2
  := by
  have hread := budgeted_remainingTimeout h
  simp only [useLease]
  split
  · exact budgeted_destroyLease hread lease
  next hpos =>
    apply budgeted_afterAttempt
    apply budgeted_performOnceWithLease hread
    exact within_boundByDeadline (not_le.mp hpos)

/-- What a turn adds is within the budget. -/
theorem budgeted_turn (h : Trace.EachAfter (Budgeted env config deadline) trace)
    (request : HttpRequest) (connectAttempts requestAttempts : ℤ) :
  Trace.EachAfter (Budgeted env config deadline)
    (turn env config request deadline connectAttempts requestAttempts trace).2
  := by
  have hread : Trace.EachAfter (Budgeted env config deadline)
      (hasTimeRemaining env deadline trace).2 := budgeted_remainingTimeout h
  have hacquire := budgeted_acquireLease config.acquireRetry.maxAttempts.toNat hread
  simp only [turn]
  split
  · exact hread
  · split
    next trace' hlease => rwa [hlease] at hacquire
    next trace' hlease => rwa [hlease] at hacquire
    next lease trace' hlease =>
      rw [hlease] at hacquire
      exact budgeted_useLease hacquire request connectAttempts requestAttempts lease

/-- Every wait of a loop is within the budget. -/
theorem budgeted_loop {request : HttpRequest} {fuel : ℕ} {connectAttempts requestAttempts : ℤ}
    {result : HttpResult} {trace' : List (Event ρ)}
    (h : Trace.EachAfter (Budgeted env config deadline) trace)
    (hloop : loop env config request deadline fuel connectAttempts requestAttempts trace
      = some (result, trace')) :
  Trace.EachAfter (Budgeted env config deadline) trace'
  := by
  induction fuel generalizing connectAttempts requestAttempts trace with
  | zero => cases hloop
  | succ fuel ih =>
      have hturn := budgeted_turn h request connectAttempts requestAttempts
      rw [loop] at hloop
      split at hloop
      next result' trace'' hfinished =>
        obtain ⟨-, rfl⟩ := Prod.mk.inj (Option.some.inj hloop)
        rwa [hfinished] at hturn
      next connectAttempts' requestAttempts' trace'' hagain =>
        rw [hagain] at hturn
        exact ih hturn hloop

end Parts

/-- Every wait of a call is within the budget of its deadline, if it has one. -/
theorem budgeted_execute {client : CurlHttpClient} {env : Environment ρ} {request : HttpRequest}
    {fuel : ℕ} {result : HttpResult} {trace : List (Event ρ)}
    (h : execute env client fuel request = some (result, trace)) :
  Trace.EachAfter (Budgeted env client.config (deadlineOf env request).1) trace
  := by
  rw [execute] at h
  split at h
  · obtain ⟨-, rfl⟩ := Prod.mk.inj (Option.some.inj h)
    apply Trace.eachAfter_nil
  · refine budgeted_loop ?_ h
    rw [deadlineOf]
    split
    · apply Trace.eachAfter_nil
    · rw [Trace.eachAfter_singleton]
      rfl

theorem fst_deadlineOf (env : Environment ρ) (request : HttpRequest) :
  (deadlineOf env request).1
    = request.timeout.map fun timeout => env.now [] + timeout * nanosecondsPerMillisecond
  := by
  rw [deadlineOf]
  rcases request.timeout with - | timeout
  · rfl
  · rfl

/-- A call ends when it may take as many turns as its retry policies allow. -/
theorem exists_execute (client : CurlHttpClient) (env : Environment ρ) (request : HttpRequest)
    {fuel : ℕ} (hfuel : client.config.connectRetry.maxAttempts
      + client.config.requestRetry.maxAttempts - 1 ≤ fuel) :
  ∃ result trace, execute env client fuel request = some (result, trace)
  := by
  have hvalid := client.config_valid
  rw [configProblem, Option.or_eq_none_iff, Option.or_eq_none_iff, retryConfigProblem_eq_none,
    retryConfigProblem_eq_none, retryConfigProblem_eq_none] at hvalid
  obtain ⟨-, ⟨hconnect, -⟩, hrequest, -⟩ := hvalid
  rw [execute]
  split
  · exact ⟨_, _, rfl⟩
  · have hstart : Sound (deadlineOf env request).1 (deadlineOf env request).2 []
        ∧ transfers (deadlineOf env request).2 = [] := by
      rw [deadlineOf]
      split
      · exact ⟨sound_nil none, rfl⟩
      · exact ⟨(sound_nil _).clock _, rfl⟩
    have hcounted : Counted env client.config 0 0 (transfers (deadlineOf env request).2) := by
      rw [hstart.2]
      constructor <;> simp [hconnect, hrequest]
    have hleft : (client.config.connectRetry.maxAttempts - 0)
        + (client.config.requestRetry.maxAttempts - 0) - 1 ≤ (fuel : ℤ) := by
      omega
    obtain ⟨result, trace, hloop, -, -⟩ := loop_spec request hstart.1 hcounted hleft
    exact ⟨result, trace, hloop⟩

/-! ### The time of a call -/

/-- The milliseconds that an event is to take at most. -/
def Event.timeout : Event ρ → ℤ
  | .acquire timeout _ => timeout
  | .transfer timeout _ _ => timeout
  | .sleep delay => delay
  | _ => 0

/-- A wait takes no longer than its timeout, and everything else no longer than the overhead. -/
def Punctual (env : Environment ρ) (overhead : ℤ) : Prop :=
  0 ≤ overhead ∧ ∀ trace e, env.now (trace ++ [e])
    ≤ env.now trace + max e.timeout 0 * nanosecondsPerMillisecond + overhead

/-- A wait within its budget ends by the deadline, but for the overhead of the wait and the reading. -/
theorem now_wait_le {env : Environment ρ} {config : Config} {deadline overhead : ℤ}
    (hpunctual : Punctual env overhead) {trace : List (Event ρ)} {e : Event ρ}
    (h : Trace.EachAfter (Budgeted env config (some deadline)) trace) {bound : ℤ}
    (hwithin : Within (some deadline) trace bound e.timeout) :
  env.now (trace ++ [e]) ≤ deadline + overhead * (trace ++ [e]).length
  := by
  obtain ⟨earlier, now, rfl, hle⟩ := hwithin.le
  have hnow : now = env.now earlier := h earlier (.clock now) [] rfl
  have hread := hpunctual.2 earlier (Event.clock now)
  have hwait := hpunctual.2 (earlier ++ [Event.clock now]) e
  have htwo : overhead * 2 ≤ overhead * (earlier ++ [Event.clock now] ++ [e]).length := by
    apply mul_le_mul_of_nonneg_left _ hpunctual.1
    simp
  rw [max_eq_left hwithin.1.le] at hwait
  simp only [Event.timeout, max_self] at hread
  omega

/-- In a punctual environment, no wait goes beyond the deadline. -/
theorem now_le_of_budgeted {env : Environment ρ} {config : Config} {deadline overhead : ℤ}
    (hpunctual : Punctual env overhead) {trace : List (Event ρ)}
    (h : Trace.EachAfter (Budgeted env config (some deadline)) trace) :
  env.now trace ≤ max (env.now []) deadline + overhead * trace.length
  := by
  induction trace using List.reverseRecOn with
  | nil => simp
  | append_singleton trace e ih =>
      rw [Trace.eachAfter_concat] at h
      have hmax := le_max_right (env.now []) deadline
      have hnone : e.timeout = 0 → env.now (trace ++ [e])
          ≤ max (env.now []) deadline + overhead * (trace ++ [e]).length := by
        intro htimeout
        have hstep := hpunctual.2 trace e
        rw [htimeout, max_self, zero_mul, add_zero] at hstep
        rw [List.length_append, List.length_singleton, Nat.cast_add, Nat.cast_one, mul_add,
          mul_one]
        have hbefore := ih h.1
        omega
      have hwait : ∀ bound, Within (some deadline) trace bound e.timeout → env.now (trace ++ [e])
          ≤ max (env.now []) deadline + overhead * (trace ++ [e]).length := by
        intro bound hwithin
        have hle := now_wait_le hpunctual h.1 hwithin
        omega
      cases e with
      | clock now => exact hnone rfl
      | acquire timeout handle => exact hwait _ h.2
      | release handle => exact hnone rfl
      | transfer timeout connectTimeout outcome => exact hwait _ h.2.1
      | sleep delay =>
          obtain ⟨bound, -, hwithin⟩ := h.2
          exact hwait bound hwithin

/-- An event takes a microsecond, and every transfer is answered with status 503. -/
def busyEnvironment : Environment Unit where
  now trace := 1000 * trace.length
  pool _ := ⟨[()], [()]⟩
  appendHeader _ _ := true
  appendResolveHost _ _ := true
  perform _ := { code := .ok, responseCode := 503 }
  strerror _ := ""

theorem punctual_busyEnvironment :
  Punctual busyEnvironment 1000
  := by
  use by decide
  intro trace e
  have hmax := le_max_right e.timeout 0
  simp only [busyEnvironment, List.length_append, List.length_singleton, nanosecondsPerMillisecond]
  push_cast
  omega

/-- A client that makes three attempts. -/
def threeAttempts : CurlHttpClient where
  config := { requestRetry := { maxAttempts := 3, delay := 10 } }
  config_valid := rfl

example : ((execute busyEnvironment threeAttempts 3
    { url := "http://localhost:9200/", timeout := some 50 }).map fun r => (r.2.map Event.timeout))
    = some [0, 0, 0, 49, 0, 49, 0, 0, 10, 0, 0, 49, 0, 49, 0, 0, 10, 0, 0, 49, 0, 49, 0]
  := by
  decide +kernel

end CurlHttpClient
