import AgentDesktop.PhysicalKeyboard
import AgentDesktop.WindowResolve

/-!
# What the window server lists

The window server answers with a dictionary for each window. A record is made of those that lie in
the layer of the applications, have a process and a named owner, and are asked for; a dictionary
that leaves out what a record needs is an error. Each record then gets the instance that its
process has at that time, and the whole is read until two answers in a row say the same.
-/

namespace AgentDesktop

/-! ## Process tokens -/

/-- `TOKEN_PREFIX`. -/
def tokenPrefix : String := "macos-proc-v1"

/-- `str::parse::<u64>`, of any text. -/
def parseU64Text (text : List Char) : Option ℕ :=
  let unsigned := match text with
    | '+' :: rest => rest
    | text => text
  let (digits, rest) := takeDigits unsigned
  if digits.isEmpty || !rest.isEmpty then none
  else if digitsValue digits < 2 ^ 64 then some (digitsValue digits) else none

/-- `ProcessIdentity::token`. -/
def MacProcessIdentity.token (identity : MacProcessIdentity) : String :=
  tokenPrefix ++ ":" ++ toString identity.startSeconds ++ ":" ++ toString identity.startMicroseconds

/-- The identity that the parts of a token say. -/
def identityOfParts (pid : ℤ) : List (List Char) → Option MacProcessIdentity
  | [head, seconds, microseconds] =>
    if head = tokenPrefix.toList then
      (parseU64Text seconds).bind (fun seconds =>
        (parseU64Text microseconds).map (fun microseconds => ⟨pid, seconds, microseconds⟩))
    else none
  | _ => none

/-- `parse_token`. -/
def parseToken (pid : ℤ) (token : String) : Except AdapterError MacProcessIdentity :=
  match identityOfParts pid (token.toList.splitOn ':') with
  | some identity => .ok identity
  | none => .error (.new .invalidArgs "Malformed macOS process instance token")

/-- `from_pid_t`. -/
def fromPidT (pid : ℤ) : Except AdapterError ProcessId :=
  if 0 ≤ pid then .ok (UInt32.ofNat pid.toNat)
  else
    .error ((AdapterError.new .appUnresponsive
      ("macOS returned invalid process id " ++ toString pid)).withDetails
        (.obj [("pid", .num pid), ("complete", .bool false), ("retryable", .bool false)]))

/-! ## Records -/

/-- What the window server says of a window. -/
structure WindowDictionary where
  /-- `kCGWindowLayer`. -/
  layer : Option ℤ
  /-- `kCGWindowOwnerPID`. -/
  ownerPid : Option ℤ
  /-- `kCGWindowNumber`. -/
  number : Option ℤ
  /-- `kCGWindowOwnerName`, which need not be a text. -/
  ownerName : Option (Option String)
  /-- `kCGWindowBounds`. -/
  bounds : Option Rect
  /-- `kCGWindowName`. -/
  name : Option String
  /-- `kCGWindowIsOnscreen`, which need not be a boolean. -/
  isOnscreen : Option (Option Bool)

/-- **A record of the inventory**: its process is one. -/
structure InventoryRecord extends WindowRecord where
  bounds : Rect
  /-- Whether it is on the screen. -/
  visible : Bool
  /-- The process has a positive number. -/
  pid_pos : 0 < pid
  /-- The number of the process is an `i32`. -/
  pid_le : pid ≤ i32Max
  deriving DecidableEq

namespace InventoryRecord

/-- `display_title`. -/
def displayTitle (record : InventoryRecord) : String := record.title.getD record.appName

/-- `into_window_info`. -/
def intoWindowInfo (record : InventoryRecord) (isFocused : Bool) (minimized : Option Bool)
    (accessible : Bool) : Except AdapterError WindowInfo := do
  let pid ← fromPidT record.pid
  return { id := "w-" ++ toString record.windowNumber
           title := record.title.getD record.appName
           app := record.appName
           pid
           processInstance := record.processInstance
           bounds := some record.bounds
           state := ⟨isFocused, accessible, minimized, some record.visible⟩ }

end InventoryRecord

/-- `WindowRecordScope`. -/
inductive WindowRecordScope
  /-- The windows of a process. -/
  | pid (expected : ℤ)
  /-- The windows of some processes. -/
  | pids (expected : List ℤ)
  | window (expected : ℤ)

/-- `WindowRecordScope::matches`. -/
def WindowRecordScope.admits (pid windowNumber : ℤ) : WindowRecordScope → Bool
  | .pid expected => pid == expected
  | .pids expected => expected.contains pid
  | .window expected => windowNumber == expected

/-- `missing_field_error`. -/
def missingFieldError (field : String) : AdapterError :=
  inventoryError ("CoreGraphics window inventory omitted required field " ++ field)

/-- `invalid_field_error`. -/
def invalidFieldError (field : String) : AdapterError :=
  inventoryError ("CoreGraphics window inventory returned invalid field " ++ field)

/-- `required_int_field`, and the other fields that have to be there. -/
def requiredField {α : Type} (field : String) : Option α → Except AdapterError α
  | some value => .ok value
  | none => .error (missingFieldError field)

/-- `bool_field` of `kCGWindowIsOnscreen`. -/
def onscreenField : Option (Option Bool) → Except AdapterError Bool
  | none => .ok false
  | some (some value) => .ok value
  | some none => .error (invalidFieldError "kCGWindowIsOnscreen")

/-- The last part of what `records_from_dictionaries` makes of a dictionary, once its process and
its number are known. -/
def recordOfOwner (dictionary : WindowDictionary) (pid windowNumber : ℤ) (hpos : 0 < pid)
    (hle : pid ≤ i32Max) : Except AdapterError (Option InventoryRecord) :=
  match dictionary.ownerName with
  | none => .ok none
  | some ownerName => do
    let appName ← requiredField "kCGWindowOwnerName" ownerName
    if appName.isEmpty then return none
    else
      let bounds ← requiredField "kCGWindowBounds" dictionary.bounds
      let visible ← onscreenField dictionary.isOnscreen
      return some { appName, pid, windowNumber, bounds, visible
                    title := dictionary.name.filter (fun title => !title.isEmpty)
                    processInstance := none
                    pid_pos := hpos
                    pid_le := hle }

/-- What `records_from_dictionaries` makes of a dictionary. -/
def recordOf (scope : WindowRecordScope) (dictionary : WindowDictionary) :
    Except AdapterError (Option InventoryRecord) := do
  let layer ← requiredField "kCGWindowLayer" dictionary.layer
  if layer ≠ 0 then return none
  else
    let pid ← requiredField "kCGWindowOwnerPID" dictionary.ownerPid
    if hle : pid ≤ i32Max then
      if pid < -2147483648 then .error (invalidFieldError "kCGWindowOwnerPID")
      else if hpos : 0 < pid then do
        let windowNumber ← requiredField "kCGWindowNumber" dictionary.number
        if scope.admits pid windowNumber then
          recordOfOwner dictionary pid windowNumber hpos hle
        else return none
      else return none
    else .error (invalidFieldError "kCGWindowOwnerPID")

/-- `records_from_dictionaries`. -/
def recordsFromDictionaries (scope : WindowRecordScope) :
    List WindowDictionary → Except AdapterError (List InventoryRecord)
  | [] => .ok []
  | dictionary :: dictionaries => do
    let record ← recordOf scope dictionary
    let records ← recordsFromDictionaries scope dictionaries
    return record.toList ++ records

/-! ## Errors -/

/-- `retryable_inventory_error`, and `retryable_global_error`. -/
def retryableInventoryError (error : AdapterError) : Bool :=
  error.code == .appUnresponsive && error.isExplicitlyRetryable

/-- `unstable_inventory_error`. -/
def unstableInventoryError (attempts churnEvents : ℕ) (lastFailure : Option AdapterError) :
    AdapterError :=
  ((AdapterError.timeout
    "CoreGraphics window inventory did not stabilize before the deadline").withSuggestion
      "Retry after active window animations and application launches settle").withDetails
        (.obj [("kind", .str "core_graphics_window_inventory_unstable"),
          ("attempts", .num attempts), ("churn_events", .num churnEvents),
          ("last_failure", .ofOption (lastFailure.map AdapterError.message)),
          ("retryable", .bool true)])

/-- `expired_deadline_error`. -/
def expiredDeadlineError (attempts churnEvents : ℕ) (lastFailure : Option AdapterError) :
    AdapterError :=
  if attempts = 0 then
    .timeout "CoreGraphics window inventory deadline elapsed before any capture attempt"
  else unstableInventoryError attempts churnEvents lastFailure

/-! ## The world -/

/-- **What an inventory of windows asks of the system**, with owners of a kind. -/
structure InventoryWorld (σ S : Type) where
  /-- `Instant::now`. -/
  clock : σ → ℕ × σ
  sleep : ℕ → σ → Unit × σ
  windowDictionaries : σ → Except AdapterError (List WindowDictionary) × σ
  /-- What `ProcessIdentity::capture` finds of a process with a positive number. -/
  processStart : ℤ → σ → Except AdapterError (Option (ℕ × ℕ)) × σ
  /-- The bits of the numbers of a rectangle. -/
  boundsBits : Rect → List ℕ
  /-- A snapshot of the applications that own windows, until a deadline. -/
  captureOwners : ℕ → σ → Except AdapterError S × σ
  /-- Whether a start lies within `MAX_LAUNCH_TIME_DELTA_SECONDS` of a launch time, in the
  arithmetic of `f64`. -/
  withinLaunchDelta : MacProcessIdentity → ℚ → Bool
  /-- `element_for_pid` and `focused_identity`, as `read_frontmost_until` asks for them: the title
  and the number of the focused window. -/
  focusedIdentity : ℤ → ℕ → σ → Except AdapterError (Option (Option String × Option ℤ)) × σ
  /-- `accessible_window_ids_until`. -/
  accessibleWindowIds : ℤ → ℕ → σ → Except AdapterError (List ℤ) × σ

/-- A program that reads the records. -/
abbrev RecordsProg (σ α : Type) : Type := Prog σ Empty AdapterError α

namespace InventoryWorld

variable {σ S : Type} (world : InventoryWorld σ S)

/-- `ProcessIdentity::capture`. -/
def captureIdentity {Ev : Type} (pid : ℤ) : Prog σ Ev AdapterError (Option MacProcessIdentity) := do
  if pid ≤ 0 then Prog.fail (.new .invalidArgs "Process identity requires a positive PID")
  else
    let start ← Prog.call (world.processStart pid)
    return start.map (fun start => ⟨pid, start.1, start.2⟩)

/-- `token_for_pid`. -/
def tokenForPid (pid : ℤ) : RecordsProg σ (Option String) := do
  let identity ← world.captureIdentity pid
  return identity.map MacProcessIdentity.token

/-- `ensure_before_deadline`. -/
def ensureBefore (deadline : ℕ) : RecordsProg σ Unit := do
  let now ← Prog.ask world.clock
  if deadline ≤ now then Prog.fail (.timeout "CoreGraphics window inventory timed out")
  else return ()

/-- The instance of a process, which is asked for once. -/
def instanceOf (instances : List (ℤ × String)) (pid : ℤ) :
    RecordsProg σ (String × List (ℤ × String)) := do
  match instances.lookup pid with
  | some token => return (token, instances)
  | none => do
    match ← world.tokenForPid pid with
    | some token => return (token, (pid, token) :: instances)
    | none => Prog.fail (inventoryError "Window owner exited during inventory")

/-- `capture_process_instances_with`, with the instances that are known. -/
def captureProcessInstances (deadline : ℕ) :
    List InventoryRecord → List (ℤ × String) → RecordsProg σ (List InventoryRecord)
  | [], _ => return []
  | record :: records, instances => do
    world.ensureBefore deadline
    let (token, instances) ← world.instanceOf instances record.pid
    let rest ← captureProcessInstances deadline records instances
    return { record with processInstance := some token } :: rest

/-- `capture_once`. -/
def captureRecordsOnce (scope : WindowRecordScope) (deadline : ℕ) :
    RecordsProg σ (List InventoryRecord) := do
  world.ensureBefore deadline
  let dictionaries ← Prog.call world.windowDictionaries
  let records ← Prog.ofExcept (recordsFromDictionaries scope dictionaries)
  let records ← world.captureProcessInstances deadline records []
  world.ensureBefore deadline
  return records

/-- An entry of `inventory_signature`. -/
def signatureEntry (record : InventoryRecord) :
    ℤ × ℤ × String × Option String × List ℕ × Bool × String :=
  (record.pid, record.windowNumber, record.appName, record.title, world.boundsBits record.bounds,
    record.visible, record.processInstance.getD "")

/-- Whether two inventories have one `inventory_signature`; it is sorted, so it does not tell in
which order the windows are listed. -/
def sameSignature (prior current : List InventoryRecord) : Bool :=
  (prior.map world.signatureEntry).isPerm (current.map world.signatureEntry)

/-- What is left of the time, five milliseconds at most, is slept. -/
def pauseUntil {Ev : Type} (deadline : ℕ) : Prog σ Ev AdapterError Unit := do
  let now ← Prog.ask world.clock
  if deadline - now = 0 then return ()
  else Prog.ask (world.sleep (min (deadline - now) (5 * nanosPerMs)))

/-- The loop of `stabilize_records_until`. -/
def stabilizeRecords (scope : WindowRecordScope) (deadline : ℕ) :
    ℕ → Option (List InventoryRecord) → ℕ → ℕ → Option AdapterError →
      RecordsProg σ (List InventoryRecord)
  | 0, _, _, _, _ => Prog.cutOff
  | fuel + 1, previous, attempts, churnEvents, lastFailure => do
    let now ← Prog.ask world.clock
    if deadline ≤ now then Prog.fail (expiredDeadlineError attempts churnEvents lastFailure)
    else do
      match ← (world.captureRecordsOnce scope deadline).attempt with
      | .ok current =>
        if previous.any (fun prior => world.sameSignature prior current) then return current
        else do
          world.pauseUntil deadline
          stabilizeRecords scope deadline fuel (some current) (attempts + 1)
            (churnEvents + if previous.isSome then 1 else 0) none
      | .error error =>
        if retryableInventoryError error then do
          world.pauseUntil deadline
          stabilizeRecords scope deadline fuel none (attempts + 1) (churnEvents + 1) (some error)
        else Prog.fail error

/-- `window_records_until`. -/
def windowRecordsUntil (scope : WindowRecordScope) (deadline fuel : ℕ) :
    RecordsProg σ (List InventoryRecord) :=
  world.stabilizeRecords scope deadline fuel none 0 0 none

end InventoryWorld

end AgentDesktop
