import AgentDesktop.Error

/-!
# Deadlines

An operation is given a point in time after which it stops waiting. Instants
and durations are counted in nanoseconds; the clock is read by the caller, so
every function here takes the time it is called at. A deadline made inside a
scope is cut to the deadline of the scope.
-/

namespace AgentDesktop

/-- `DEFAULT_OPERATION_TIMEOUT_MS`. -/
def defaultOperationTimeoutMs : ℕ := 5000

/-- `MAX_WAIT_TIMEOUT_MS`. -/
def maxWaitTimeoutMs : ℕ := 24 * 60 * 60 * 1000

/-- Nanoseconds in a millisecond. -/
def nanosPerMs : ℕ := 1000000

/-- `wait_timeout_duration`. -/
def waitTimeoutDuration (timeoutMs : ℕ) : Except AdapterError ℕ :=
  if maxWaitTimeoutMs < timeoutMs then
    .error (((AdapterError.new .invalidArgs
      ("Timeout exceeds the " ++ toString maxWaitTimeoutMs ++ "ms maximum")).withSuggestion
        ("Choose a timeout between 0 and " ++ toString maxWaitTimeoutMs
          ++ " milliseconds")).withDetails
      (.obj [("timeout_ms", .num timeoutMs), ("max_timeout_ms", .num maxWaitTimeoutMs)]))
  else .ok (timeoutMs * nanosPerMs)

/-- `Deadline`. -/
structure Deadline where
  /-- When the operation began. -/
  startedAt : ℕ
  expiresAt : ℕ
  /-- The time it was given, in milliseconds. -/
  timeoutMs : ℕ
  /-- Whether another deadline ended it sooner. -/
  capped : Bool
  deriving DecidableEq

namespace Deadline

/-- `min_expiry`. -/
def minExpiry (deadline other : Deadline) : Deadline :=
  { deadline with
    capped := deadline.capped || decide (other.expiresAt < deadline.expiresAt)
    expiresAt := min deadline.expiresAt other.expiresAt }

/-- `Deadline::detached_after`, and `Deadline::at` outside a scope. Instants do
not run out here. -/
def detachedAfter (now timeoutMs : ℕ) : Except AdapterError Deadline := do
  let duration ← waitTimeoutDuration timeoutMs
  return { startedAt := now, expiresAt := now + duration, timeoutMs, capped := false }

/-- `Deadline::after`, in a scope with the inherited deadline. -/
def after (inherited : Option Deadline) (now timeoutMs : ℕ) : Except AdapterError Deadline := do
  let deadline ← detachedAfter now timeoutMs
  return inherited.elim deadline deadline.minExpiry

/-- `Deadline::standard`. -/
def standard (inherited : Option Deadline) (now : ℕ) : Except AdapterError Deadline :=
  after inherited now defaultOperationTimeoutMs

/-- `remaining`. -/
def remaining (deadline : Deadline) (now : ℕ) : ℕ := deadline.expiresAt - now

/-- `is_expired`. -/
def isExpired (deadline : Deadline) (now : ℕ) : Bool := deadline.remaining now == 0

/-- `elapsed`. -/
def elapsed (deadline : Deadline) (now : ℕ) : ℕ := now - deadline.startedAt

/-- `capped`: at most this much longer. -/
def cappedBy (deadline : Deadline) (now maximum : ℕ) : Deadline :=
  let expiresAt := min deadline.expiresAt (now + maximum)
  { deadline with
    capped := deadline.capped || decide (expiresAt < deadline.expiresAt)
    expiresAt }

/-- `remaining_ms`, rounded up. -/
def remainingMs (deadline : Deadline) (now : ℕ) : ℕ :=
  (deadline.remaining now + (nanosPerMs - 1)) / nanosPerMs

/-- `timeout_error`. -/
def timeoutError (deadline : Deadline) (now : ℕ) : AdapterError :=
  (AdapterError.timeout "Operation exceeded its deadline").withDetails
    (.obj [("kind", .str "deadline"), ("timeout_ms", .num deadline.timeoutMs),
      ("elapsed_ms", .num (deadline.elapsed now / nanosPerMs))])

/-- `remaining_slice`. -/
def remainingSlice (deadline : Deadline) (now maximum : ℕ) : Except AdapterError ℕ :=
  if deadline.remaining now = 0 then .error (deadline.timeoutError now)
  else .ok (min (deadline.remaining now) maximum)

end Deadline

end AgentDesktop
