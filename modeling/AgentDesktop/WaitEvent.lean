import AgentDesktop.Signals
import AgentDesktop.Text

/-!
# Waiting for an event

`wait --event` takes one observation as its baseline, a seeded one or the first
that is answered, and compares every later one with it, until an event of the
requested kind shows or the deadline passes. An observation that fails in a
retryable way is passed over; one that shows another process than the one the
wait is about ends it.

What is recorded are the observations the adapter was asked for: the filter it
was given, its answer, and whether the deadline had passed when the answer came.
-/

namespace AgentDesktop

/-- `app_name_matches`: the controls that steer the direction of a text do not
count, nor does the case of an ASCII letter. -/
def appNameMatches (actual expected : String) : Bool :=
  (actual.toList.filter (fun character => !isBidirectionalControl character)).map
      toAsciiLowercase
    == (expected.toList.filter (fun character => !isBidirectionalControl character)).map
      toAsciiLowercase

/-- `AppInfo::matches_identifier`. -/
def SignalApp.matchesIdentifier (app : SignalApp) (id : String) : Bool :=
  appNameMatches app.name id
    || app.bundleId.any (fun bundleId =>
      bundleId.toList.map toAsciiLowercase == id.toList.map toAsciiLowercase)

/-- `EventWaitInput`. -/
structure EventWaitInput where
  /-- The token of the event. -/
  event : String
  /-- The application to watch. -/
  app : Option String
  /-- The window the event is about. -/
  windowId : Option String
  windowTitle : Option String
  /-- How long to wait, in milliseconds. -/
  timeoutMs : ℕ

/-- **What is recorded of an observation.** -/
structure SignalCapture where
  /-- What it was taken of. -/
  filter : SignalFilter
  /-- What the adapter answered. -/
  answer : Except AdapterError SignalBaseline
  /-- Whether the answer came after the deadline. -/
  late : Bool

/-- **The environment of an event wait.** -/
structure SignalWorld (σ : Type) where
  /-- The clock. -/
  now : σ → ℕ × σ
  /-- The deadline of the scope the command runs in. -/
  inheritedDeadline : Option Deadline
  sleep : ℕ → σ → Unit × σ
  listAppsScoped : String → Option String → Deadline → σ →
    Except AdapterError (List SignalApp) × σ
  captureSignalBaseline : SignalFilter → Deadline → σ → Except AdapterError SignalBaseline × σ

/-- A program that waits for an event. -/
abbrev WaitProg (σ ε α : Type) : Type := Prog σ SignalCapture ε α

/-! ## The process a wait is about -/

/-- `process_identity`. -/
def processIdentity (app : SignalApp) : Except AppError ProcessIdentity :=
  match app.processInstance.filter (fun processInstance => processInstance != "") with
  | some processInstance => .ok ⟨app.pid, processInstance⟩
  | none => .error (.adapter (.new .actionNotSupported
      "Application has no process-instance identity"))

/-- `reject_incomplete_app_identity`. -/
def rejectIncompleteAppIdentity (candidates : List SignalApp) (label : String) :
    Except AppError Unit :=
  let incompleteCount :=
    (candidates.filter (fun candidate => candidate.processInstance.all (· == ""))).length
  if incompleteCount = 0 then .ok ()
  else .error (.adapter ((AdapterError.new .actionNotSupported
    ("Application inventory for '" ++ label ++ "' has incomplete process identity")).withDetails
      (.obj [("candidate_count", .num candidates.length),
        ("incomplete_identity_count", .num incompleteCount)])))

/-- `select_unique_app`. -/
def selectUniqueApp (candidates : List SignalApp) (label : String) :
    Except AppError SignalApp := do
  rejectIncompleteAppIdentity candidates label
  match candidates with
  | [] => .error (.adapter (.new .appNotFound
      ("Application '" ++ label ++ "' was not found with exact process identity")))
  | [candidate] => .ok candidate
  | _ =>
    let summaries := (candidates.take 10).map (fun candidate => Json.obj
      [("name", .str candidate.name), ("pid", .num candidate.pid.toNat),
        ("process_instance", .ofOption candidate.processInstance)])
    .error (.adapter ((AdapterError.ambiguousTarget
      ("Multiple application instances matched '" ++ label ++ "'")).withDetails
        (.obj [("candidate_count", .num candidates.length),
          ("candidate_summaries_truncated",
            .bool (decide (summaries.length < candidates.length))),
          ("candidates", .arr summaries)])))

/-- `process_from_baseline`. -/
def processFromBaseline (baseline : SignalBaseline) (app : String) :
    Except AppError (Option ProcessIdentity) :=
  match baseline.apps.filter (fun candidate => candidate.matchesIdentifier app) with
  | [] => .ok none
  | [first] => (processIdentity first).map some
  | _ => .error (.adapter (.ambiguousTarget
      ("Multiple application instances matched '" ++ app ++ "' in the event baseline")))

/-- The processes an observation shows. -/
def SignalBaseline.observed (baseline : SignalBaseline) : List (ProcessId × Option String) :=
  baseline.apps.map (fun app => (app.pid, app.processInstance))
    ++ baseline.windows.map (fun window => (window.pid, window.processInstance))
    ++ baseline.surfaces.map (fun surface => (surface.pid, some surface.processInstance))

/-- `validate_signal_scope`: an observation shows the process it was taken of and
no other. -/
def validateSignalScope (filter : SignalFilter) (baseline : SignalBaseline) :
    Except AppError Unit :=
  match filter.process with
  | none => .ok ()
  | some expected =>
    match baseline.observed.find? (fun shown =>
      shown.1 != expected.pid || shown.2 != some expected.processInstance) with
    | none => .ok ()
    | some shown =>
      .error (.adapter (((AdapterError.new .staleRef
        "Target process identity changed during event observation").withDetails
          (.obj [("kind", .str "process_changed"),
            ("expected_pid", .num expected.pid.toNat),
            ("observed_pid", .num shown.1.toNat),
            ("observed_instance_matches",
              .bool (shown.2 == some expected.processInstance)),
            ("retryable", .bool false)])).withDisposition .notDelivered))

/-! ## Events -/

/-- `parse_event_kind`. -/
def parseEventKind (event : String) : Except AppError EventKind :=
  match EventKind.parse event with
  | some kind => .ok kind
  | none => .error (.invalidInputWithSuggestion ("Unknown --event value: " ++ event)
      ("Use one of: " ++ ", ".intercalate EventKind.allTokens))

/-- Whether an event is the one a wait asks for. -/
def isRequestedEvent (requested : EventKind) (windowId windowTitle : Option String)
    (event : UiEvent) : Bool :=
  requested.sameVariant event.kind
    && windowId.all (fun id => event.windowId == some id)
    && windowTitle.all (fun title => title == "" || event.title == some title)

/-- `find_match`. -/
def findMatch (events : List UiEvent) (requested : EventKind)
    (windowId windowTitle : Option String) : Option UiEvent :=
  events.find? (isRequestedEvent requested windowId windowTitle)

/-- `is_retryable`. -/
def isRetryableObservation : ErrorCode → Bool
  | .timeout | .elementNotFound | .appUnresponsive => true
  | _ => false

/-- `error_evidence`. -/
def errorEvidence (error : AdapterError) : Json :=
  .obj [("code", .str error.code.asStr), ("message", .str error.message),
    ("details", error.details.getD .null)]

/-- The name a kind is written with in the answer. -/
def EventKind.tag : EventKind → String
  | windowOpened => "window_opened"
  | windowClosed => "window_closed"
  | appLaunched => "app_launched"
  | appTerminated => "app_terminated"
  | focusChangedWindow => "focus_changed_window"
  | surfaceAppeared _ => "surface_appeared"
  | surfaceDismissed _ => "surface_dismissed"

/-- The surface a kind is about. -/
def EventKind.surface : EventKind → Option SnapshotSurface
  | surfaceAppeared surface | surfaceDismissed surface => some surface
  | _ => none

/-- An event as it is answered. -/
def UiEvent.toJson (event : UiEvent) : Json :=
  Json.object [("kind", some (.str event.kind.tag)),
    ("surface", event.kind.surface.map (fun surface => .str surface.asStr)),
    ("window_id", event.windowId.map .str), ("title", event.title.map .str),
    ("app", event.app.map .str), ("pid", event.pid.map (fun pid => .num pid.toNat))]

/-- The answer of a wait that found an event. -/
def eventFound (event : UiEvent) (elapsedMs : ℕ) : Json :=
  .obj [("found", .bool true), ("event", event.toJson), ("elapsed_ms", .num elapsedMs)]

/-- `timeout_err`. -/
def eventTimeoutError (input : EventWaitInput) (baseline : Option SignalBaseline)
    (lastError : Option Json) : AppError :=
  .adapter ((AdapterError.timeout ("Event '" ++ input.event ++ "' did not occur within "
    ++ toString input.timeoutMs ++ "ms")).withDetails (Json.object
      [("kind", some (.str "wait_timeout")), ("predicate", some (.str "event")),
        ("event", some (.str input.event)), ("app", some (.ofOption input.app)),
        ("timeout_ms", some (.num input.timeoutMs)),
        ("baseline_counts", some ((baseline.map (fun base => Json.obj
          [("windows", .num base.windows.length), ("apps", .num base.apps.length),
            ("surfaces", .num base.surfaces.length)])).getD .null)),
        ("last_error", lastError)]))

/-! ## The wait -/

/-- **What a wait has settled on** before it looks at the desktop. -/
structure EventWait where
  input : EventWaitInput
  requested : EventKind
  /-- What observations are taken of. -/
  filter : SignalFilter
  start : ℕ
  deadline : Deadline

namespace EventWait

/-- The event of a wait between two observations. -/
def matchedEvent (wait : EventWait) (baseline current : SignalBaseline) : Option UiEvent :=
  findMatch (diffSignals baseline current) wait.requested wait.input.windowId
    wait.input.windowTitle

/-- What an observation does to a wait. -/
inductive Received
  /-- The event has shown. -/
  | found (event : UiEvent)
  /-- The wait goes on, with this baseline and the failure last met. -/
  | waiting (baseline : Option SignalBaseline) (lastError : Option Json)

/-- **An observation is received**: the first that succeeds is the baseline, the
others are compared with it. -/
def receive (wait : EventWait) (baseline : Option SignalBaseline) (lastError : Option Json) :
    Except AdapterError SignalBaseline → Except AppError Received
  | .ok current => do
    validateSignalScope wait.filter current
    match baseline with
    | none => return .waiting (some current) lastError
    | some base =>
      match wait.matchedEvent base current with
      | some event => return .found event
      | none => return .waiting (some base) lastError
  | .error error =>
    if isRetryableObservation error.code then
      .ok (.waiting baseline (some (errorEvidence error)))
    else .error (.adapter error)

end EventWait

namespace SignalWorld

variable {σ : Type} (world : SignalWorld σ)

/-- `is_expired`, now. -/
def isExpired (deadline : Deadline) : WaitProg σ AppError Bool := do
  return deadline.isExpired (← Prog.ask world.now)

/-- `resolve_app`, for a named application. -/
def resolveApp (app : String) (deadline : Deadline) : WaitProg σ AppError SignalApp := do
  let candidates ← (Prog.call (world.listAppsScoped app none deadline)).mapError AppError.adapter
  Prog.ofExcept (selectUniqueApp candidates app)

/-- `signal_filter`. -/
def signalFilter (input : EventWaitInput) (requested : EventKind)
    (seed : Option SignalBaseline) (deadline : Deadline) : WaitProg σ AppError SignalFilter :=
  match input.app with
  | none => return ⟨none, none⟩
  | some app =>
    if requested = .appLaunched then return ⟨input.app, none⟩
    else do
      let seededProcess ← Prog.ofExcept
        (seed.elim (.ok none) (fun baseline => processFromBaseline baseline app))
      match seededProcess with
      | some process => return ⟨input.app, some process⟩
      | none =>
        -- an application the seed does not show may have gone before the wait began
        if seed.isSome ∧ requested = .appTerminated then return ⟨input.app, none⟩
        else do
          let resolved ← world.resolveApp app deadline
          return ⟨input.app, some (← Prog.ofExcept (processIdentity resolved))⟩

/-- The loop of `wait_for_event`. -/
def observeEvents (wait : EventWait) :
    ℕ → Option SignalBaseline → Option Json → WaitProg σ AppError Json
  | 0, _, _ => Prog.cutOff
  | fuel + 1, baseline, lastError => do
    if ← world.isExpired wait.deadline then
      Prog.fail (eventTimeoutError wait.input baseline lastError)
    else
      let observation ← Prog.ask (world.captureSignalBaseline wait.filter wait.deadline)
      let late ← world.isExpired wait.deadline
      Prog.emit ⟨wait.filter, observation, late⟩
      if late then Prog.fail (eventTimeoutError wait.input baseline lastError)
      else
        match ← Prog.ofExcept (wait.receive baseline lastError observation) with
        | .found event =>
          let now ← Prog.ask world.now
          return eventFound event ((now - wait.start) / nanosPerMs)
        | .waiting baseline lastError =>
          let remaining := wait.deadline.remaining (← Prog.ask world.now)
          if remaining = 0 then Prog.fail (eventTimeoutError wait.input baseline lastError)
          else
            Prog.ask (world.sleep (min remaining (200 * nanosPerMs)))
            observeEvents wait fuel baseline lastError

/-- What a seeded observation gives a wait. -/
def seedBaseline (filter : SignalFilter) :
    Option (Except AdapterError SignalBaseline) →
      Except AppError (Option SignalBaseline × Option Json)
  | some (.ok baseline) => do
    validateSignalScope filter baseline
    return (some baseline, none)
  | some (.error error) =>
    if isRetryableObservation error.code then .ok (none, some (errorEvidence error))
    else .error (.adapter error)
  | none => .ok (none, none)

/-- **`wait_for_event`.** -/
def waitForEvent (input : EventWaitInput)
    (seeded : Option (Except AdapterError SignalBaseline)) (fuel : ℕ) :
    WaitProg σ AppError Json := do
  let requested ← Prog.ofExcept (parseEventKind input.event)
  let start ← Prog.ask world.now
  let deadline ← Prog.ofExcept
    ((Deadline.after world.inheritedDeadline start input.timeoutMs).mapError .adapter)
  let filter ← world.signalFilter input requested (seeded.bind Except.toOption) deadline
  let (baseline, lastError) ← Prog.ofExcept (seedBaseline filter seeded)
  world.observeEvents ⟨input, requested, filter, start, deadline⟩ fuel baseline lastError

end SignalWorld

end AgentDesktop
