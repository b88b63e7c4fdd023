import AgentDesktop.Action
import AgentDesktop.Deadline
import AgentDesktop.JsonSize
import AgentDesktop.Session
import AgentDesktop.Signals
import AgentDesktop.Util.Effect

/-!
# Batches

A batch is a list of commands, run one after the other under one deadline. All of
them are checked before the first is run. Then each is dispatched in its turn,
unless its session has ended; the run stops at the deadline, at a failure when it
is asked to, when a result does not fit in the response, and when what a waiting
command compares with cannot be captured before the command it waits for.

What the commands do is up to the host the batch runs in, and so is what they
decode to. Each entry that was reached has a record in the response, and the run
records what happened to it.
-/

namespace AgentDesktop

/-! ## The payload of an error -/

/-- `RecoveryHint`. -/
structure RecoveryHint where
  strategy : String
  /-- Whether the command can be retried then. -/
  retryable : Bool
  /-- Whether a fresh snapshot is needed. -/
  requiresFreshSnapshot : Bool
  /-- How long to wait, in milliseconds. -/
  retryAfterMs : Option ℕ

/-- `RecoveryHint` as JSON. -/
def RecoveryHint.toJson (hint : RecoveryHint) : Json :=
  .object [("strategy", some (.str hint.strategy)), ("retryable", some (.bool hint.retryable)),
    ("requires_fresh_snapshot", some (.bool hint.requiresFreshSnapshot)),
    ("retry_after_ms", hint.retryAfterMs.map (fun retryAfterMs => .num retryAfterMs))]

/-- `recovery_for_code`. -/
def recoveryForCode (code : ErrorCode) (disposition : DeliverySemantics) : Option RecoveryHint :=
  if disposition.retry ≠ .safe then none
  else
    match code with
    | .staleRef | .snapshotNotFound => some ⟨"refresh_snapshot_then_retry_original", true, true, none⟩
    | .policyDenied => some ⟨"request_explicit_policy_then_retry_original", true, false, none⟩
    | .appUnresponsive => some ⟨"inspect_state_then_retry_original", true, true, some 250⟩
    | _ => none

/-- `ErrorPayload`. -/
structure ErrorPayload where
  code : String
  message : String
  /-- What the caller may do about it. -/
  suggestion : Option String
  recovery : Option RecoveryHint
  /-- What the platform said. -/
  platformDetail : Option String
  details : Option Json
  /-- What is known about the delivery. -/
  disposition : DeliverySemantics

namespace ErrorPayload

/-- `ErrorPayload::from_app_error`. -/
def fromAppError : AppError → ErrorPayload
  | .adapter error =>
    ⟨error.code.asStr, error.message, error.suggestion,
      recoveryForCode error.code error.disposition, error.platformDetail, error.details,
      error.disposition⟩
  | other => ⟨other.code, other.toText, none, none, none, none, .unknown⟩

/-- `ErrorPayload` as JSON. -/
def toJson (payload : ErrorPayload) : Json :=
  .object [("code", some (.str payload.code)), ("message", some (.str payload.message)),
    ("suggestion", payload.suggestion.map .str), ("recovery", payload.recovery.map RecoveryHint.toJson),
    ("platform_detail", payload.platformDetail.map .str), ("details", payload.details),
    ("disposition", some payload.disposition.toJson)]

end ErrorPayload

/-- The disposition a JSON value stands for: both advices, and they agree. -/
def DeliverySemantics.ofJson (value : Json) : Option DeliverySemantics :=
  [unknown, notDelivered, deliveryUncertain, deliveredUnverified, deliveredVerified].find?
    (fun disposition =>
      (value.get "delivery").any (fun delivery => (disposition.toJson.get "delivery").any
        (fun expected => expected.asStr == delivery.asStr))
      && (value.get "retry").any (fun retry => (disposition.toJson.get "retry").any
        (fun expected => expected.asStr == retry.asStr)))

/-! ## Records -/

/-- What became of an entry. -/
inductive Execution
  /-- It was dispatched, with this result. -/
  | completed (result : Except ErrorPayload Json)
  | notStarted (reason : String) (error : ErrorPayload)

/-- The record of an entry. -/
structure BatchEntry where
  /-- Its place in the batch. -/
  index : ℕ
  command : String
  execution : Execution

/-- `ENVELOPE_VERSION`. -/
def envelopeVersion : String := "2.4"

namespace BatchEntry

/-- The record says that the entry was dispatched. -/
def isCompleted (entry : BatchEntry) : Bool :=
  match entry.execution with
  | .completed _ => true
  | .notStarted _ _ => false

/-- The record as JSON. -/
def toJson (entry : BatchEntry) : Json :=
  match entry.execution with
  | .completed (.ok data) =>
    .obj [("version", .str envelopeVersion), ("ok", .bool true), ("command", .str entry.command),
      ("index", .num entry.index), ("execution", .str "completed"), ("data", data)]
  | .completed (.error error) =>
    .obj [("version", .str envelopeVersion), ("ok", .bool false), ("command", .str entry.command),
      ("index", .num entry.index), ("execution", .str "completed"), ("error", error.toJson)]
  | .notStarted reason error =>
    .obj [("version", .str envelopeVersion), ("ok", .bool false), ("command", .str entry.command),
      ("index", .num entry.index), ("execution", .str "not_started"),
      ("not_started_reason", .str reason), ("error", error.toJson)]

end BatchEntry

/-- `completed_entry`. -/
def completedEntry (index : ℕ) (command : String) (result : Except AppError Json) : BatchEntry :=
  ⟨index, command, .completed (result.mapError ErrorPayload.fromAppError)⟩

/-- `not_started_entry`. -/
def notStartedEntry (index : ℕ) (command reason : String) (error : AppError) : BatchEntry :=
  ⟨index, command, .notStarted reason (.fromAppError error)⟩

/-- `MAX_BATCH_OUTPUT_BYTES`. -/
def maxBatchOutputBytes : ℕ := 4 * 1024 * 1024

/-- `OUTPUT_METADATA_RESERVE`. -/
def outputMetadataReserve : ℕ := 8 * 1024

/-- `MAX_BATCH_JSON_BYTES`. -/
def maxBatchJsonBytes : ℕ := 1024 * 1024

/-- `MAX_BATCH_ENTRIES`. -/
def maxBatchEntries : ℕ := 64

/-- `entry_disposition`. -/
def entryDisposition (entry : Json) : DeliverySemantics :=
  let disposition := ((entry.get "data").bind (fun data => data.get "disposition")).or
    ((entry.get "error").bind (fun error => error.get "disposition"))
  (disposition.bind DeliverySemantics.ofJson).getD .deliveryUncertain

/-- The error that stands for a result that was left out. -/
def resultOmitted (index : ℕ) (disposition : DeliverySemantics) : AppError :=
  .adapter ((((AdapterError.new .invalidArgs
    "Batch entry completed but its result exceeded the response limit").withSuggestion
      "Split the batch or narrow commands that return large payloads").withDetails
      (.obj [("batch_index", .num index), ("max_output_bytes", .num maxBatchOutputBytes),
        ("result_omitted", .bool true)])).withDisposition disposition)

/-- `bounded_entry`: the record, and whether its result was left out. -/
def boundedEntry [FloatText] (index : ℕ) (command : String) (result : Except AppError Json)
    (used : ℕ) : BatchEntry × Bool :=
  let entry := completedEntry index command result
  if entry.toJson.fits (maxBatchOutputBytes - outputMetadataReserve - used) then (entry, false)
  else
    (completedEntry index command (.error (resultOmitted index (entryDisposition entry.toJson))),
      true)

/-! ## Commands and the host they run in -/

/-- `BatchCommand`. -/
structure BatchCommand where
  command : String
  session : Option String
  args : Json

/-- `Commands`, as far as a batch looks at them. -/
inductive Commands (C : Type)
  /-- `wait`, with the application and the event it is given. -/
  | wait (app event : Option String) (args : C)
  /-- Any other command. -/
  | other (command : C)
  deriving DecidableEq

/-- `CommandContext`, as far as a batch looks at it. -/
structure CommandContext (X B : Type) where
  sessionId : Option String
  /-- The deadline the command inherits. -/
  inheritedDeadline : Option Deadline
  /-- What a wait for an event compares with. -/
  eventBaseline : Option (Except AdapterError B)
  rest : X

/-- `PreparedCommand`. -/
structure PreparedCommand (C X B : Type) where
  name : String
  command : Commands C
  context : CommandContext X B

/-- **The host of a batch**: what the texts decode to, what the checks say, the sessions, the
adapter, and what the commands do. -/
structure BatchHost (σ C X B : Type) where
  /-- The clock. -/
  now : σ → ℕ × σ
  /-- The deadline of the scope the batch runs in. -/
  inheritedDeadline : Option Deadline
  /-- `serde_json::from_str`, of the text of a batch. -/
  parseJson : String → Except String (List BatchCommand)
  /-- `serde_json::from_value`, of the arguments of a command. -/
  decode : String → Json → Except AppError (Commands C)
  preflight : Commands C → Except AppError Unit
  /-- `CommandContext::for_batch_item`, which may take a lease on the session. -/
  forBatchItem : CommandContext X B → Option String → σ → Except AppError (CommandContext X B) × σ
  preflightContext : Commands C → CommandContext X B → Except AppError Unit
  readManifest : String → σ → Except AppError (Option SessionManifest) × σ
  captureSignalBaseline : SignalFilter → Deadline → σ → Except AdapterError B × σ
  dispatch : Commands C → CommandContext X B → σ → Except AppError Json × σ

namespace Commands

/-- `event_filter`: what a wait for an event compares with. -/
def eventFilter {C : Type} : Commands C → Option SignalFilter
  | wait app (some _) _ => some ⟨app, none⟩
  | wait _ none _ | other _ => none

end Commands

/-! ## Preparing -/

/-- The commands a batch can hold. -/
def batchCommandNames : List String :=
  ["snapshot", "find", "screenshot", "get", "is", "click", "double-click", "triple-click",
    "right-click", "type", "set-value", "clear", "focus", "select", "toggle", "check", "uncheck",
    "expand", "collapse", "scroll", "scroll-to", "press", "key-down", "key-up", "hover", "drag",
    "mouse-move", "mouse-click", "mouse-down", "mouse-up", "mouse-wheel", "launch", "close-app",
    "list-windows", "list-displays", "list-apps", "focus-window", "resize-window", "move-window",
    "minimize", "maximize", "restore", "list-surfaces", "list-notifications",
    "dismiss-notification", "dismiss-all-notifications", "notification-action", "clipboard-get",
    "clipboard-set", "clipboard-clear", "wait", "status", "permissions", "version", "skills",
    "session", "trace"]

/-- `token_label`. -/
def tokenLabel (token : String) : String :=
  if token.utf8ByteSize ≤ 64 && token.toList.all (fun c => c.isAlphanum || c == '-' || c == '_') then
    "'" ++ token ++ "'"
  else "token of " ++ toString token.utf8ByteSize ++ " bytes"

/-- `limit_error`. -/
def limitError (message : String) (details : Json) : AppError :=
  .adapter ((((AdapterError.new .invalidArgs message).withSuggestion
    "Split the batch or narrow commands that return large payloads").withDetails
      details).withDisposition .notDelivered)

/-- The details of an error under those of the entry it is about. -/
def withCause (details : List (String × Json)) (cause : Option Json) : Json :=
  .object (details.map (fun field => (field.1, some field.2)) ++ [("cause_details", cause)])

/-- `located_error`. -/
def locatedError (index : ℕ) (command : String) : AppError → AppError
  | .adapter source =>
    .adapter { source with
      message := "Batch entry " ++ toString index ++ " ('" ++ command ++ "') failed validation: "
        ++ source.message
      details := some (withCause [("batch_index", .num index), ("batch_command", .str command)]
        source.details)
      disposition := .notDelivered }
  | other =>
    .adapter (((AdapterError.new .internal other.toText).withDetails
      (.obj [("batch_index", .num index), ("batch_command", .str command)])).withDisposition
        .notDelivered)

namespace BatchHost

variable {σ C X B : Type} (host : BatchHost σ C X B)

/-- `parse_command`. -/
def parseCommand (item : BatchCommand) : Except AppError (Commands C) :=
  if item.command ∈ batchCommandNames then host.decode item.command item.args
  else if item.command = "cursor-overlay" then
    .error (.invalidInputWithSuggestion "Cursor overlay configuration cannot run inside a batch"
      "Enable or disable it once for the selected session before running the batch.")
  else if item.command = "batch" then
    .error (.invalidInputWithSuggestion "Batch commands cannot be nested"
      "Flatten nested batches into one top-level batch array")
  else .error (.invalidInput ("Unknown batch command " ++ tokenLabel item.command))

/-- The check of one entry, before any session is touched. -/
def checkItem (item : BatchCommand) : Except AppError (Commands C) := do
  if let some session := item.session then validateSessionId session
  let command ← host.parseCommand item
  host.preflight command
  return command

/-- `parse_one`. -/
def parseOne (index : ℕ) (item : BatchCommand) : Except AppError (Commands C) :=
  (host.checkItem item).mapError (locatedError index item.command)

/-- The checks of all entries, from the first one on. -/
def parseFrom : ℕ → List BatchCommand → Except AppError (List (BatchCommand × Commands C))
  | _, [] => .ok []
  | index, item :: rest => do
    let command ← host.parseOne index item
    let parsed ← parseFrom (index + 1) rest
    return (item, command) :: parsed

/-- What a batch does, as it is seen from outside. -/
inductive Event (C : Type)
  /-- The deadline had expired before this entry. -/
  | expired (index : ℕ)
  /-- The session of this entry had ended. -/
  | sessionEnded (index : ℕ)
  /-- What the entry after this one compares with could not be captured. -/
  | baselineFailed (index : ℕ)
  /-- This entry was dispatched; whether it failed, and whether its result was left out. -/
  | dispatched (index : ℕ) (command : Commands C) (failed oversized : Bool)
  /-- The deadline had expired after this entry. -/
  | expiredAfter (index : ℕ)

/-- The entry that was dispatched, where one was. -/
def Event.dispatch? {C : Type} : Event C → Option (ℕ × Commands C)
  | .dispatched index command _ _ => some (index, command)
  | _ => none

/-- The batch stops at the event. -/
def Event.stops {C : Type} (stopOnError : Bool) : Event C → Bool
  | .expired _ | .baselineFailed _ | .expiredAfter _ => true
  | .sessionEnded _ => stopOnError
  | .dispatched _ _ failed oversized => oversized || (failed && stopOnError)

/-- The entries that were dispatched, in order. -/
def dispatches {C : Type} (events : List (Event C)) : List (ℕ × Commands C) :=
  events.filterMap Event.dispatch?

/-- The contexts of the entries, from the first one on. -/
def prepareFrom (context : CommandContext X B) : ℕ → List (BatchCommand × Commands C) →
    Prog σ (Event C) AppError (List (PreparedCommand C X B))
  | _, [] => pure []
  | index, (item, command) :: rest => do
    let located := locatedError index item.command
    let itemContext ← Prog.mapError located (Prog.call (host.forBatchItem context item.session))
    Prog.ofExcept ((host.preflightContext command itemContext).mapError located)
    let prepared ← prepareFrom context (index + 1) rest
    return ⟨item.command, command, itemContext⟩ :: prepared

/-- `prepare`. -/
def prepare (input : String) (context : CommandContext X B) :
    Prog σ (Event C) AppError (List (PreparedCommand C X B)) := do
  if maxBatchJsonBytes < input.utf8ByteSize then
    Prog.fail (limitError "Batch JSON exceeds the input limit"
      (.obj [("actual_bytes", .num input.utf8ByteSize), ("max_bytes", .num maxBatchJsonBytes)]))
  let items ← Prog.ofExcept ((host.parseJson input).mapError (fun error =>
    AppError.invalidInput ("Invalid batch JSON: " ++ error)))
  if maxBatchEntries < items.length then
    Prog.fail (limitError "Batch contains too many entries"
      (.obj [("actual_entries", .num items.length), ("max_entries", .num maxBatchEntries)]))
  let parsed ← Prog.ofExcept (host.parseFrom 0 items)
  host.prepareFrom context 0 parsed

/-! ## Running -/

/-- `BatchArgs`. -/
structure Args where
  /-- The text of the batch. -/
  commandsJson : String
  /-- Whether a failure stops the batch. -/
  stopOnError : Bool
  /-- The time for all of it, in milliseconds. -/
  timeoutMs : ℕ

/-- `batch_timeout`. -/
def batchTimeout (index : ℕ) (command : String) (timeoutMs : ℕ) : AppError :=
  .adapter (((AdapterError.timeout "Batch deadline elapsed before the entry started").withDetails
    (.obj [("kind", .str "batch_deadline"), ("batch_index", .num index),
      ("batch_command", .str command), ("timeout_ms", .num timeoutMs)])).withDisposition
        .notDelivered)

/-- `batch_session_ended`. -/
def batchSessionEnded (index : ℕ) (command sessionId : String) : AppError :=
  .adapter ((((AdapterError.new .invalidArgs ("Batch entry " ++ toString index ++ " ('" ++ command
    ++ "') was not started because session '" ++ sessionId ++ "' has ended")).withSuggestion
      "Re-run the entry outside the ended session or start a new session").withDetails
      (.obj [("kind", .str "batch_session_ended"), ("batch_index", .num index),
        ("batch_command", .str command), ("session_id", .str sessionId)])).withDisposition
        .notDelivered)

/-- `baseline_error`. -/
def baselineError (blockedIndex : ℕ) (blockedCommand : String) (waitIndex : ℕ)
    (waitCommand : String) (source : AdapterError) : AppError :=
  .adapter { source with
    message := "Batch entry " ++ toString blockedIndex ++ " ('" ++ blockedCommand
      ++ "') was not started because the baseline for following wait entry " ++ toString waitIndex
      ++ " ('" ++ waitCommand ++ "') failed: " ++ source.message
    details := some (withCause [("kind", .str "pre_action_baseline_failed"),
      ("blocked_index", .num blockedIndex), ("blocked_command", .str blockedCommand),
      ("wait_index", .num waitIndex), ("wait_command", .str waitCommand)] source.details)
    disposition := .notDelivered }

/-- `session_ended_for`. -/
def sessionEndedFor (command : PreparedCommand C X B) :
    Prog σ (Event C) AppError (Option String) :=
  match command.context.sessionId with
  | none => pure none
  | some sessionId => do
    match ← Prog.ask (host.readManifest sessionId) with
    | .ok (some manifest) => return if manifest.isEnded then some sessionId else none
    | .ok none | .error _ => return none

/-- What the next entry compares with, captured before this one. -/
def captureNext (deadline : Deadline) (rest : List (PreparedCommand C X B)) :
    Prog σ (Event C) AppError (Option (Except AdapterError B)) :=
  match rest.head?.bind (fun next => next.command.eventFilter) with
  | none => pure none
  | some filter => do
    let answer ← Prog.ask (host.captureSignalBaseline filter deadline)
    return some answer

/-- What has been gathered of a batch. -/
structure Gathered where
  results : List BatchEntry
  /-- Their bytes, with a comma after each. -/
  resultsBytes : ℕ
  /-- How many entries were dispatched. -/
  completed : ℕ
  /-- Why the batch stopped, if it did. -/
  stopped : Option Json

/-- `push_small_entry`. -/
def Gathered.push [FloatText] (gathered : Gathered) (entry : BatchEntry) : Gathered :=
  { gathered with
    results := gathered.results ++ [entry]
    resultsBytes := gathered.resultsBytes + (entry.toJson.size + 1) }

/-- The batch stops. -/
def Gathered.stop (gathered : Gathered) (stopped : List (String × Json)) : Gathered :=
  { gathered with stopped := some (.obj stopped) }

variable [FloatText]

/-- How the loop goes on after an entry. -/
inductive Flow (B : Type)
  | stop (gathered : Gathered)
  /-- It goes on with what has been captured for the next entry. -/
  | next (pending : Option (Except AdapterError B)) (gathered : Gathered)

/-- The part of the loop that dispatches an entry: `pending` is what has been captured for it,
`baseline` what has been for the next one. -/
def dispatchEntry (args : Args) (deadline : Deadline) (command : PreparedCommand C X B)
    (last : Bool) (index : ℕ) (pending baseline : Option (Except AdapterError B))
    (gathered : Gathered) : Prog σ (Event C) AppError (Flow B) := do
  let context := { command.context with
    inheritedDeadline := some deadline
    eventBaseline := pending }
  let result ← Prog.ask (host.dispatch command.command context)
  let bounded := boundedEntry index command.name result gathered.resultsBytes
  Prog.emit (.dispatched index command.command (!result.isOk) bounded.2)
  let gathered := { gathered.push bounded.1 with completed := gathered.completed + 1 }
  if bounded.2 then
    return .stop (gathered.stop [("reason", .str "output_limit"), ("index", .num index)])
  else if !result.isOk && args.stopOnError then
    return .stop (gathered.stop [("reason", .str "stop_on_error"), ("index", .num index)])
  else
    let now ← Prog.ask host.now
    if deadline.isExpired now && !last then
      Prog.emit (.expiredAfter index)
      return .stop (gathered.stop [("reason", .str "deadline"), ("after_index", .num index)])
    else return .next baseline gathered

/-- The body of the loop of `execute`. -/
def runEntry (args : Args) (deadline : Deadline) (command : PreparedCommand C X B)
    (rest : List (PreparedCommand C X B)) (index : ℕ) (pending : Option (Except AdapterError B))
    (gathered : Gathered) : Prog σ (Event C) AppError (Flow B) := do
  let now ← Prog.ask host.now
  if deadline.isExpired now then
    Prog.emit (.expired index)
    let entry := notStartedEntry index command.name "deadline"
      (batchTimeout index command.name args.timeoutMs)
    return .stop ((gathered.push entry).stop [("reason", .str "deadline"), ("index", .num index)])
  else
    match ← host.sessionEndedFor command with
    | some sessionId =>
      Prog.emit (.sessionEnded index)
      let entry := notStartedEntry index command.name "session_ended"
        (batchSessionEnded index command.name sessionId)
      if args.stopOnError then
        return .stop ((gathered.push entry).stop
          [("reason", .str "stop_on_error"), ("index", .num index)])
      else return .next none (gathered.push entry)
    | none =>
      match ← host.captureNext deadline rest, rest.head? with
      | some (.error error), some next =>
        Prog.emit (.baselineFailed index)
        let entry := notStartedEntry index command.name "pre_action_baseline_failed"
          (baselineError index command.name (index + 1) next.name error)
        return .stop ((gathered.push entry).stop [("reason", .str "pre_action_baseline_failed"),
          ("blocked_index", .num index), ("blocked_command", .str command.name),
          ("wait_index", .num ↑(index + 1)), ("wait_command", .str next.name)])
      | baseline, _ =>
        host.dispatchEntry args deadline command rest.isEmpty index pending baseline gathered

/-- The loop of `execute`, from an entry on. -/
def runFrom (args : Args) (deadline : Deadline) : List (PreparedCommand C X B) → ℕ →
    Option (Except AdapterError B) → Gathered → Prog σ (Event C) AppError Gathered
  | [], _, _, gathered => pure gathered
  | command :: rest, index, pending, gathered => do
    match ← host.runEntry args deadline command rest index pending gathered with
    | .stop gathered => return gathered
    | .next pending gathered => runFrom args deadline rest (index + 1) pending gathered

/-- The body of the response. -/
def responseBody (args : Args) (total : ℕ) (gathered : Gathered) (elapsedMs : ℕ) : Json :=
  .object [("results", some (.arr (gathered.results.map BatchEntry.toJson))),
    ("semantics", some (.obj [("atomic", .bool false), ("order", .str "sequential"),
      ("batch_retries", .bool false), ("command_retry_contracts", .str "preserved"),
      ("successful_action_disposition", .str "data.disposition"),
      ("error_disposition", .str "error.disposition")])),
    ("total_entries", some (.num total)), ("completed_entries", some (.num gathered.completed)),
    ("not_started_entries", some (.num ↑(total - gathered.completed))),
    ("timeout_ms", some (.num args.timeoutMs)), ("elapsed_ms", some (.num elapsedMs)),
    ("limits", some (.obj [("max_entries", .num maxBatchEntries),
      ("max_input_bytes", .num maxBatchJsonBytes), ("max_output_bytes", .num maxBatchOutputBytes)])),
    ("stopped", gathered.stopped)]

/-- The error that replaces a body that is too large. -/
def outputLimitError (completed : ℕ) : AppError :=
  .adapter (((AdapterError.new .internal
    "Batch response exceeded its output contract after final serialization").withDetails
      (.obj [("kind", .str "batch_output_limit"), ("completed_entries", .num completed),
        ("max_output_bytes", .num maxBatchOutputBytes)])).withDisposition
        (if completed = 0 then .notDelivered else .deliveryUncertain))

/-- The run of the entries, and the response made of it. -/
def executePrepared (args : Args) (deadline : Deadline) (commands : List (PreparedCommand C X B)) :
    Prog σ (Event C) AppError Json := do
  let gathered ← host.runFrom args deadline commands 0 none ⟨[], 0, 0, none⟩
  let now ← Prog.ask host.now
  let body := responseBody args commands.length gathered (deadline.elapsed now / nanosPerMs)
  if maxBatchOutputBytes < body.size then Prog.fail (outputLimitError gathered.completed)
  else return body

/-- The part of `execute` that checks the batch: its deadline, and its entries. -/
def admission (args : Args) (context : CommandContext X B) :
    Prog σ (Event C) AppError (Deadline × List (PreparedCommand C X B)) := do
  let now ← Prog.ask host.now
  let deadline ← Prog.ofExcept ((Deadline.after host.inheritedDeadline now args.timeoutMs).mapError
    (fun error => AppError.adapter (error.withDisposition .notDelivered)))
  let commands ← host.prepare args.commandsJson { context with inheritedDeadline := some deadline }
  return (deadline, commands)

/-- `batch::execute`. -/
def execute (args : Args) (context : CommandContext X B) : Prog σ (Event C) AppError Json := do
  let (deadline, commands) ← host.admission args context
  host.executePrepared args deadline commands

end BatchHost

end AgentDesktop
