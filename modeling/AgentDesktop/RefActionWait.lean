import AgentDesktop.RefAction

/-!
# Waiting for the target of a ref action

A caller may give a ref action time. Then the target is polled, without the
interaction lease, until it looks actionable, the time is over, or an error says
that waiting is of no use. What the poll resolved is not used: the lease is
taken, and the action is dispatched under it from the beginning. The error of a
run is enriched with the state of the target's process.
-/

namespace AgentDesktop

variable {σ H : Type} [BoundsHasher] (desktop : Desktop σ H)

/-! ## What the poll remembers -/

/-- `RefActionPollState`. -/
structure RefActionPollState where
  lastReport : Option Json
  /-- Whether the ref was ambiguous at some time. -/
  sawAmbiguity : Bool
  /-- The hash of the bounds last seen. -/
  expectedBoundsHash : Option UInt64
  /-- The resolutions tried. -/
  resolveAttempts : ℕ
  preflightAttempts : ℕ
  /-- Whether every failure so far was an incomplete read. -/
  liveReadIncompleteOnly : Option Bool

namespace RefActionPollState

/-- `RefActionPollState::default`. -/
def default : RefActionPollState := ⟨none, false, none, 0, 0, none⟩

/-- `stability`. -/
def stability (state : RefActionPollState) : StabilityExpectation :=
  .strictHash state.expectedBoundsHash

/-- `is_live_read_incomplete`. -/
def isLiveReadIncomplete (error : AdapterError) : Bool :=
  error.details.any (fun details =>
    (details.get "kind").any (Json.isStr · "live_element_evidence")
      && (details.get "complete").bind Json.asBool == some false)

/-- `record_preflight_error`. -/
def recordPreflightError (state : RefActionPollState) (error : AdapterError) :
    RefActionPollState :=
  { state with
    liveReadIncompleteOnly :=
      some (state.liveReadIncompleteOnly.getD true && isLiveReadIncomplete error)
    expectedBoundsHash := (observedBoundsHash error).or state.expectedBoundsHash
    lastReport := match error.details with
      | some report => some (.obj [("phase", .str "preflight"), ("report", report)])
      | none => state.lastReport }

/-- `record_resolve_error`. -/
def recordResolveError (state : RefActionPollState) (error : AdapterError) :
    RefActionPollState :=
  { state with
    liveReadIncompleteOnly := some false
    lastReport := some (.obj [("phase", .str "resolve"), ("code", .str error.code.asStr),
      ("message", .str error.message), ("details", error.details.getD .null)]) }

/-- Adding a field to some details, which are kept beside it where they are no
object. -/
def attach (details : Option Json) (otherwise key : String) (item : Json) : Json :=
  let details := details.getD (.obj [])
  if details.isObject then details.insert key item else .obj [(otherwise, details), (key, item)]

/-- The counts of the poll. -/
def metrics (state : RefActionPollState) : List (String × Json) :=
  [("read_only_resolve_attempts", .num state.resolveAttempts),
    ("read_only_preflight_attempts", .num state.preflightAttempts)]

/-- `attach_transient_ambiguity`. -/
def attachTransientAmbiguity (state : RefActionPollState) (result : ActionResult) :
    ActionResult :=
  if !state.sawAmbiguity then result
  else
    { result with
      details :=
        some (attach result.details "action_details" "transient_ambiguity" (.bool true)) }

/-- `attach_wait_metrics`. -/
def attachWaitMetrics (state : RefActionPollState) (result : ActionResult)
    (lease : InteractionLease) (leaseHoldMs : ℕ) : ActionResult :=
  { result with
    details := some (attach result.details "action_details" "auto_wait"
      (.obj (state.metrics ++ [("lease_contention_count", .num lease.contentionCount),
        ("lease_hold_ms", .num leaseHoldMs)]))) }

/-- `attach_error_metrics`. -/
def attachErrorMetrics (state : RefActionPollState) (error : AdapterError) : AdapterError :=
  { error with
    details := some (attach error.details "error_details" "auto_wait" (.obj state.metrics)) }

end RefActionPollState

/-! ## The errors of the poll -/

/-- `live_read_incomplete`. -/
def liveReadIncompleteError (state : RefActionPollState) (deadline : Deadline) (now : ℕ) :
    AdapterError :=
  let stats := (state.lastReport.bind (fun last => last.get "report")).bind
    (fun report => report.get "query_stats")
  let count (group key : String) : Json :=
    .num ((((stats.bind (fun stats => stats.get group)).bind
      (fun group => group.get key)).bind Json.asU64).getD 0).toNat
  (((AdapterError.new .actionFailed
    "Live reads were incomplete before actionability could be determined").withSuggestion
      "Re-snapshot the window and act on a fresh ref, or fall back to --headed coordinate input from the ref bounds.").withDetails
    (.obj [("kind", .str "live_read_incomplete"), ("retryable", .bool false),
      ("timeout_ms", .num deadline.timeoutMs),
      ("elapsed_ms", .num (deadline.elapsed now / nanosPerMs)),
      ("native_read_failures", count "reads" "native_read_failures"),
      ("nodes_visited", count "traversal" "nodes_visited"),
      ("last_report", state.lastReport.getD .null)])).withDisposition .notDelivered

/-- `timeout`. -/
def pollTimeout (state : RefActionPollState) (deadline : Deadline) (now : ℕ) : AdapterError :=
  if state.liveReadIncompleteOnly = some true then liveReadIncompleteError state deadline now
  else
    ((AdapterError.timeout "Target did not become actionable within the wait budget").withDetails
      (.object [("kind", some (.str "actionability_timeout")),
        ("timeout_ms", some (.num deadline.timeoutMs)),
        ("elapsed_ms", some (.num (deadline.elapsed now / nanosPerMs))),
        ("last_report", state.lastReport),
        ("transient_ambiguity", if state.sawAmbiguity then some (.bool true) else none)])).withDisposition
      .notDelivered

/-- `is_permanent_actionability_error`. -/
def isPermanentActionabilityError : ErrorCode → Bool
  | .permDenied | .appNotFound | .actionNotSupported | .invalidArgs | .policyDenied | .internal
  | .staleRef | .ambiguousTarget => true
  | _ => false

/-! ## Resolving within the deadline -/

/-- `ResolveAttemptOutcome`. -/
inductive ResolveAttemptOutcome (H : Type)
  | resolved (handle : H)
  | failed (error : AdapterError)
  | deadlinePassed

/-- `POLL_INTERVAL`, in nanoseconds. -/
def pollInterval : ℕ := 100 * nanosPerMs

/-- `STABILITY_POLL_INTERVAL`, in nanoseconds. -/
def stabilityPollInterval : ℕ := 16 * nanosPerMs

/-- `RESOLVE_ATTEMPT`, in nanoseconds. -/
def resolveAttempt : ℕ := 750 * nanosPerMs

/-- `mark_retryable`. -/
def markRetryable (error : AdapterError) : AdapterError :=
  error.withDetails (RefActionPollState.attach error.details "error_details" "retryable"
    (.bool true))

/-- `classify_error`. -/
def classifyError {ε : Type} (error : AdapterError) (deadline : Deadline) :
    RefProg σ H ε (ResolveAttemptOutcome H) := do
  if error.code ≠ .timeout then return .failed error
  else if !error.permitsRetryByDefault || error.disposition.retry = .unsafeRetry then
    return .failed error
  else if ← desktop.isExpired deadline then return .deadlinePassed
  else return .failed (markRetryable error)

/-- `resolve_within_deadline`. -/
def resolveWithinDeadline {ε : Type} (entry : RefEntry) (deadline : Deadline) :
    RefProg σ H ε (ResolveAttemptOutcome H) := do
  if (← desktop.isExpired deadline) then return .deadlinePassed
  else
    let slice := deadline.cappedBy (← desktop.clock) resolveAttempt
    match ← (Prog.attempt (resolveTarget desktop entry slice) : RefProg σ H ε _) with
    | .ok handle =>
      if ← desktop.isExpired deadline then return .deadlinePassed else return .resolved handle
    | .error error => classifyError desktop error deadline

/-! ## The poll -/

/-- `ensure_before_deadline`. -/
def ensureBeforeDeadline (deadline : Deadline) (state : RefActionPollState) :
    RefProg σ H AdapterError Unit := do
  if ← desktop.isExpired deadline then
    Prog.fail (pollTimeout state deadline (← desktop.clock))
  else return ()

/-- `sleep_until_next_poll`. -/
def sleepUntilNextPoll {ε : Type} (deadline : Deadline) (interval : ℕ) : RefProg σ H ε Unit := do
  let remaining := deadline.remaining (← desktop.clock)
  if remaining = 0 then return () else Prog.ask (desktop.sleep (min interval remaining))

/-- `handle_actionability_failure`. -/
def handleActionabilityFailure (state : RefActionPollState) (error : AdapterError)
    (deadline : Deadline) : RefProg σ H AdapterError RefActionPollState := do
  if isPermanentActionabilityError error.code || !error.permitsRetryByDefault then
    Prog.fail error
  else
    let state := state.recordPreflightError error
    ensureBeforeDeadline desktop deadline state
    sleepUntilNextPoll desktop deadline
      (if failedCheck error "stable" then stabilityPollInterval else pollInterval)
    return state

/-- `handle_resolve_failure`. -/
def handleResolveFailure (context : RefActionContext) (state : RefActionPollState)
    (error : AdapterError) : RefProg σ H AdapterError RefActionPollState := do
  if !error.isRetryableResolutionFailure then
    traceResolveError desktop context error
    Prog.fail error
  else
    let state :=
      { state with sawAmbiguity := state.sawAmbiguity || decide (error.code = ErrorCode.ambiguousTarget) }
    sleepUntilNextPoll desktop context.deadline pollInterval
    return state.recordResolveError error

/-- Whether a failed preflight is left to the dispatch, which can focus or scroll. -/
def isLeftToDispatch (request : ActionRequest) (error : AdapterError) : Bool :=
  (request.headedRequirement.requiresFocus && failedCheck error "receives_events")
    || shouldScrollAfterPreflight request error

/-- One round of `execute_poll_loop`: the state, and whether the poll is over. -/
def pollOnce (context : RefActionContext) (request : ActionRequest)
    (state : RefActionPollState) : RefProg σ H AdapterError (RefActionPollState × Bool) := do
  let state := { state with resolveAttempts := state.resolveAttempts + 1 }
  match ← resolveWithinDeadline desktop context.entry context.deadline with
  | .deadlinePassed => Prog.fail (pollTimeout state context.deadline (← desktop.clock))
  | .failed error =>
    return (← handleResolveFailure desktop context state
      (markPreDispatchResolutionFailure error), false)
  | .resolved handle =>
    traceResolveOk desktop context
    ensureBeforeDeadline desktop context.deadline state
    let state := { state with preflightAttempts := state.preflightAttempts + 1 }
    match ← (Prog.attempt (checkActionabilityWithTrace desktop context handle request
        state.stability) : RefProg σ H AdapterError _) with
    | .ok _ =>
      ensureBeforeDeadline desktop context.deadline state
      return (state, true)
    | .error error =>
      let error := error.intoAdapterError
      if isLeftToDispatch request error then
        ensureBeforeDeadline desktop context.deadline state
        return (state, true)
      else return (← handleActionabilityFailure desktop state error context.deadline, false)

/-- `execute_poll_loop`. -/
def executePollLoop (context : RefActionContext) (request : ActionRequest) :
    ℕ → RefActionPollState → RefProg σ H AdapterError RefActionPollState
  | 0, _ => Prog.cutOff
  | fuel + 1, state => do
    let (state, ended) ← pollOnce desktop context request state
    if ended then return state else executePollLoop context request fuel state

/-! ## Focusing the window -/

/-- `required_text`. -/
def requiredText (value : Option String) (message : String) : Except AppError String :=
  match value.filter (fun value => !value.isEmpty) with
  | some value => .ok value
  | none =>
    .error (.adapter ((AdapterError.new .actionNotSupported message).withDetails
      (.obj [("physical_delivery_started", .bool false)])))

/-- `focus_exact_window`. -/
def focusExactWindow (expected : WindowInfo) (lease : InteractionLease) :
    RefProg σ H AppError WindowInfo := do
  let live ← Prog.mapError AppError.adapter
    (Prog.call (desktop.resolveWindowStrict expected lease.deadline))
  if live.id ≠ expected.id ∨ live.pid ≠ expected.pid
      ∨ live.processInstance ≠ expected.processInstance then
    Prog.fail (.adapter
      (.staleRef "Headed target window belongs to a different process instance"))
  else
    Prog.mapError AppError.adapter (Prog.call (desktop.focusWindow live lease))
    desktop.trace "input.focus_window" (.obj [("pid", .num live.pid.toNat),
      ("window_id", .str live.id), ("ok", .bool true)])
    return live

/-- `focus_entry_window`. -/
def focusEntryWindow (entry : RefEntry) (lease : InteractionLease) :
    RefProg σ H AppError WindowInfo := do
  let processInstance ← Prog.ofExcept (requiredText entry.process.processInstance
    "Headed input requires target process-instance identity")
  let windowId ← Prog.ofExcept (requiredText entry.source.sourceWindowId
    "Headed input requires an exact source window id")
  focusExactWindow desktop
    { id := windowId
      title := entry.source.sourceWindowTitle.getD ""
      app := entry.source.sourceApp.getD ""
      pid := entry.process.pid
      processInstance := some processInstance
      bounds := none
      state := ⟨false, true, none, none⟩ } lease

/-! ## The run -/

/-- Focusing the window of the entry, where the request needs it. -/
def focusWhenRequired (context : RefActionContext) (request : ActionRequest)
    (lease : InteractionLease) : RefProg σ H AppError Unit :=
  if request.headedRequirement.requiresFocus then do
    let _ ← focusEntryWindow desktop context.entry lease
  else return ()

/-- `execute_single_shot`, with the dispatch of a ref action. -/
def executeSingleShot (fuel : ℕ) (context : RefActionContext) (request : ActionRequest)
    (lease : InteractionLease) : RefProg σ H AdapterError ActionResult :=
  Prog.mapError AppError.intoAdapterError (do
    focusWhenRequired desktop context request lease
    dispatchResolved desktop fuel context request lease)

/-- Taking the lease, recorded when it succeeds. -/
def acquireLease (deadline : Deadline) : RefProg σ H AdapterError InteractionLease := do
  let lease ← Prog.call (desktop.acquireInteractionLease deadline)
  Prog.emit .leaseAcquired
  return lease

/-- Giving the lease back, recorded. -/
def releaseLease {ε : Type} (lease : InteractionLease) : RefProg σ H ε Unit := do
  Prog.ask (desktop.releaseInteractionLease lease)
  Prog.emit .leaseReleased

/-- The request as it is dispatched under the lease: the time left for it. -/
def leasedRequest (request : ActionRequest) (deadline : Deadline) (now : ℕ) : ActionRequest :=
  if request.waits then { request with timeoutMs := some (deadline.remainingMs now) }
  else request

/-- The part of `execute_with_deadline` under the lease, which is given back at its
end. -/
def executeUnderLease (fuel : ℕ) (context : RefActionContext) (request : ActionRequest)
    (state : RefActionPollState) (lease : InteractionLease) :
    RefProg σ H AdapterError ActionResult := do
  if ← desktop.isExpired context.deadline then
    let error ← desktop.timeoutError context.deadline
    releaseLease desktop lease
    Prog.fail (state.attachErrorMetrics error)
  else
    let request := leasedRequest request context.deadline (← desktop.clock)
    let started ← desktop.clock
    match ← (Prog.attempt (executeSingleShot desktop fuel context request lease) :
        RefProg σ H AdapterError _) with
    | .ok result =>
      let held := ((← desktop.clock) - started) / nanosPerMs
      releaseLease desktop lease
      Prog.ask desktop.present
      return state.attachWaitMetrics (state.attachTransientAmbiguity result) lease held
    | .error error =>
      releaseLease desktop lease
      Prog.ask desktop.present
      Prog.fail error

/-- The poll, where the request waits. -/
def pollUntilActionable (fuel : ℕ) (context : RefActionContext) (request : ActionRequest) :
    RefProg σ H AdapterError RefActionPollState :=
  if request.waits then executePollLoop desktop context request fuel .default
  else pure .default

/-- `execute_with_deadline`. -/
def executeWithDeadline (fuel : ℕ) (context : RefActionContext) (request : ActionRequest) :
    RefProg σ H AdapterError ActionResult := do
  let state ← pollUntilActionable desktop fuel context request
  Prog.ask desktop.present
  let lease ← Prog.mapError state.attachErrorMetrics (acquireLease desktop context.deadline)
  executeUnderLease desktop fuel context request state lease

/-! ## Enriching the error -/

/-- `process_identity_matches`. -/
def processIdentityMatches {ε : Type} (entry : RefEntry) (deadline : Deadline) :
    RefProg σ H ε Bool := do
  match entry.source.sourceApp.filter (fun name => !name.isEmpty),
      entry.process.processInstance.filter (fun processInstance => !processInstance.isEmpty) with
  | some name, some processInstance =>
    match ← Prog.ask (desktop.listApps deadline) with
    | .error _ => return false
    | .ok apps =>
      match apps.filter (fun app => app.pid == entry.process.pid) with
      | [app] => return app.name == name && app.processInstance == some processInstance
      | _ => return false
  | _, _ => return false

/-- The error of an application that does not respond, with the disposition of the error
it replaces. -/
def unresponsiveError (entry : RefEntry) (error : AdapterError) : AdapterError :=
  let details := match error.details with
    | none => Json.obj []
    | some details => if details.isObject then details else .obj [("cause", details)]
  ((AdapterError.appUnresponsive (entry.source.sourceApp.getD "target application")).withDetails
    ((details.insert "kind" (.str "app_unresponsive")).insert "retryable"
      (.bool false))).withDisposition error.disposition

/-- `attach_process_state_detail`. -/
def attachProcessStateDetail (error : AdapterError) (state : ProcessState) : AdapterError :=
  let details := error.details.getD (.obj [])
  error.withDetails
    (if details.isObject then details.insert "process_state" (.str state.label)
    else .obj [("process_state", .str state.label)])

/-- `enrich_with_process_state`. -/
def enrichWithProcessState {ε : Type} (entry : RefEntry) (error : AdapterError)
    (deadline : Deadline) : RefProg σ H ε AdapterError := do
  if error.code ≠ .staleRef ∧ error.code ≠ .appNotFound then return error
  else
    match entry.process.processInstance.filter
        (fun processInstance => !processInstance.isEmpty) with
    | none => return error
    | some processInstance =>
      match ← Prog.ask (desktop.processState ⟨entry.process.pid, processInstance⟩ deadline) with
      | .error _ => return error
      | .ok state =>
        if state = .unresponsive then
          if ← processIdentityMatches desktop entry deadline then
            return unresponsiveError entry error
          else return error
        else return attachProcessStateDetail error state

/-- `operation_deadline`. -/
def operationDeadline (request : ActionRequest) : RefProg σ H AdapterError Deadline := do
  let now ← desktop.clock
  Prog.ofExcept (match request.timeoutMs.filter (fun timeoutMs => 0 < timeoutMs) with
    | some timeoutMs => Deadline.after desktop.inheritedDeadline now timeoutMs
    | none => Deadline.standard desktop.inheritedDeadline now)

/-- **`execute_with_auto_wait`** with the dispatch of a ref action. -/
def executeWithAutoWait (fuel : ℕ) (entry : RefEntry) (refId : String)
    (request : ActionRequest) : RefProg σ H AdapterError ActionResult := do
  let deadline ← operationDeadline desktop request
  let context : RefActionContext := ⟨entry, refId, deadline⟩
  match ← (Prog.attempt (executeWithDeadline desktop fuel context request) :
      RefProg σ H AdapterError _) with
  | .ok result => return result
  | .error error =>
    if ← desktop.isExpired deadline then Prog.fail error
    else
      let enriched ← enrichWithProcessState desktop entry error deadline
      Prog.fail enriched

end AgentDesktop
