import AgentDesktop.Number
import AgentDesktop.ObservedTree
import AgentDesktop.Util.Effect

/-!
# Resolving a window

A window is known by the number that the window server gives it. The number of an accessible
window is asked of a bridge, which need not be there on every version of the system, and which
has no number for some windows. Where the number is not found among the accessible windows, the
only one with the title of the verified record stands in.

A second search, for the window of a saved ref, goes by the number only.
-/

namespace AgentDesktop

/-! ## Numbers and errors -/

/-- `str::parse::<i64>`. -/
def parseI64 (text : List Char) : Option ℤ :=
  let (negative, unsigned) := takeSign text
  let (digits, rest) := takeDigits unsigned
  if digits.isEmpty || !rest.isEmpty then none
  else
    let value : ℤ := if negative then -digitsValue digits else digitsValue digits
    if -2 ^ 63 ≤ value ∧ value < 2 ^ 63 then some value else none

/-- `parse_window_number`. -/
def parseWindowNumber (id : String) : Option ℤ :=
  match id.toList with
  | 'w' :: '-' :: number => (parseI64 number).filter (fun number => 0 < number)
  | _ => none

/-- `WindowRecord`, as far as windows are resolved by it. -/
structure WindowRecord where
  /-- The name of the application. -/
  appName : String
  pid : ℤ
  title : Option String
  windowNumber : ℤ
  processInstance : Option String
  deriving DecidableEq

/-- The largest `pid_t`. -/
def i32Max : ℕ := 2147483647

/-- `to_pid_t`. -/
def toPidT (pid : ProcessId) : Except AdapterError ℤ :=
  if pid.toNat ≤ i32Max then .ok pid.toNat
  else
    .error ((AdapterError.new .invalidArgs
      ("Process id " ++ toString pid.toNat ++ " exceeds the macOS pid_t range")).withDetails
        (.obj [("pid", .num pid.toNat), ("max_pid", .num i32Max), ("complete", .bool false),
          ("retryable", .bool false)]))

/-- `remaining_at`: what is left until an instant. -/
def remainingAt (deadline now : ℕ) : Except AdapterError ℕ :=
  if deadline - now = 0 then
    .error ((AdapterError.timeout "Live locator deadline exhausted").withDetails
      (.obj [("kind", .str "locator_deadline_exhausted"), ("retryable", .bool true)]))
  else .ok (deadline - now)

/-- `inventory_error`. -/
def inventoryError (message : String) : AdapterError :=
  ((AdapterError.new .appUnresponsive message).withSuggestion
    "Retry after WindowServer finishes updating the window inventory").withDetails
      (.obj [("kind", .str "inventory_source"), ("source", .str "core_graphics_windows"),
        ("retryable", .bool true)])

/-- `exact_window_source_error`. -/
def exactWindowSourceError (message : String) (windowNumber : ℤ) : AdapterError :=
  (inventoryError message).withDetails (.obj [("kind", .str "exact_window_inventory_source"),
    ("source", .str "core_graphics_exact_window"),
    ("window_id", .str ("w-" ++ toString windowNumber)), ("complete", .bool false),
    ("retryable", .bool true)])

/-- `invalid_window_id`. -/
def invalidWindowId (id : String) : AdapterError :=
  (AdapterError.new .invalidArgs ("Invalid window id: '" ++ id ++ "'")).withSuggestion
    "Window ids come from 'list-windows' (format w-<number>)."

/-- `window_not_accessible`. -/
def windowNotAccessible (id : String) : AdapterError :=
  ((AdapterError.new .actionNotSupported
    ("Window '" ++ id ++ "' exists but is not exposed through accessibility")).withDetails
      (.obj [("kind", .str "window_without_accessibility_element"),
        ("window_id", .str id)])).withSuggestion
      ("This window supports screenshots and coordinate input only. Bring it on screen, "
        ++ "or target another window from 'list-windows'.")

/-- `window_not_found`. -/
def windowNotFound (id : String) : AdapterError :=
  (AdapterError.new .windowNotFound ("Window '" ++ id ++ "' not found")).withSuggestion
    "Run 'list-windows' to see available windows and their IDs."

/-- `window_identity_mismatch`. -/
def windowIdentityMismatch (id : String) : AdapterError :=
  (AdapterError.new .windowNotFound ("Window '" ++ id ++ "' identity mismatch")).withSuggestion
    "Run 'list-windows' to refresh window IDs, then retry."

/-- `bridge_unavailable`. -/
def bridgeUnavailable : AdapterError :=
  ((AdapterError.new .actionNotSupported
    "The optional AX-to-CG window bridge is unavailable on this macOS version").withSuggestion
      "Target the uniquely titled verified window, or refresh the window inventory").withDetails
      (.obj [("kind", .str "resolution_window_bridge_unavailable"),
        ("symbol", .str "_AXUIElementGetWindow"), ("complete", .bool false),
        ("retryable", .bool false)])

/-- `window_bridge::is_unavailable`. -/
def isUnavailable (error : AdapterError) : Bool :=
  ((error.details.bind (fun details => details.get "kind")).bind Json.asStr)
    == some "resolution_window_bridge_unavailable"

/-- Several windows with the title of a verified record. -/
def verifiedTitleAmbiguous (title : String) : AdapterError :=
  (AdapterError.ambiguousTarget
    ("Multiple AX windows matched the verified CoreGraphics title '" ++ title ++ "'")).withDetails
      (.obj [("kind", .str "verified_window_title_ambiguous"), ("title", .str title)])

/-! ## The world -/

/-- **What resolving a window asks of the system.** -/
structure WindowWorld (σ W : Type) where
  /-- `Instant::now`. -/
  clock : σ → ℕ × σ
  setMessagingTimeout : W → ℕ → σ → Except AdapterError Unit × σ
  readString : W → String → ℕ → σ → Except AdapterError (Option String) × σ
  /-- `read_array` of the windows of an application. -/
  readWindows : ℤ → ℕ → σ → Except AdapterError (Option (List W)) × σ
  windowId : W → ℕ → σ → Except AdapterError (Option ℤ) × σ
  /-- The records that the window server has for a number. -/
  windowRecords : ℤ → ℕ → σ → Except AdapterError (List WindowRecord) × σ
  matchesInstance : ℤ → String → σ → Except AdapterError Bool × σ

/-- A program that resolves a window; it only reads. -/
abbrev WindowProg (σ α : Type) : Type := Prog σ Empty AdapterError α

namespace WindowWorld

variable {σ W : Type} (world : WindowWorld σ W)

/-- `locator_deadline::remaining`. -/
def locatorRemaining (deadline : ℕ) : WindowProg σ Unit := do
  let now ← Prog.ask world.clock
  let _ ← Prog.ofExcept (remainingAt deadline now)
  return ()

/-- `prepare_for_read`. -/
def prepareForRead (element : W) (deadline : ℕ) : WindowProg σ Unit := do
  world.locatorRemaining deadline
  Prog.call (world.setMessagingTimeout element deadline)

/-- `ax_window_id_with_deadline`. -/
def axWindowId (window : W) (deadline : ℕ) : WindowProg σ (Option ℤ) := do
  world.prepareForRead window deadline
  let windowId ← Prog.call (world.windowId window deadline)
  world.locatorRemaining deadline
  return windowId

/-- `windows_for_pid`. -/
def windowsForPid (pid : ℤ) (deadline : ℕ) : WindowProg σ (List W) := do
  let windows ← Prog.call (world.readWindows pid deadline)
  return windows.getD []

/-! ## By number, or by title -/

/-- The first loop of `ax_window_element_for_number`: the window with the number, and the answer
of a bridge that is not there. -/
def findByNumber (windowNumber : ℤ) (deadline : ℕ) :
    List W → WindowProg σ (Option W × Option AdapterError)
  | [] => return (none, none)
  | window :: rest => do
    world.prepareForRead window deadline
    let role ← Prog.call (world.readString window "AXRole" deadline)
    if role ≠ some "AXWindow" then findByNumber windowNumber deadline rest
    else
      match ← (world.axWindowId window deadline).attempt with
      | .ok actual =>
        if actual = some windowNumber then return (some window, none)
        else findByNumber windowNumber deadline rest
      | .error error =>
        if isUnavailable error then return (none, some error) else Prog.fail error

/-- The second loop of `ax_window_element_for_number`, with the single match so far. -/
def findByTitle (title : String) (deadline : ℕ) :
    List W → Option W → WindowProg σ (Option W)
  | [], singleMatch => return singleMatch
  | window :: rest, singleMatch => do
    world.prepareForRead window deadline
    let role ← Prog.call (world.readString window "AXRole" deadline)
    if role ≠ some "AXWindow" then findByTitle title deadline rest singleMatch
    else
      let actual ← Prog.call (world.readString window "AXTitle" deadline)
      if actual ≠ some title then findByTitle title deadline rest singleMatch
      else if singleMatch.isSome then Prog.fail (verifiedTitleAmbiguous title)
      else findByTitle title deadline rest (some window)

/-- No window: the answer of a bridge that is not there, or none. -/
def noWindow (unavailableBridge : Option AdapterError) : WindowProg σ (Option W) :=
  match unavailableBridge with
  | some error => Prog.fail error
  | none => return none

/-- `ax_window_element_for_number`, once no window has the number. -/
def fallBackToTitle (windows : List W) (fallbackTitle : Option String)
    (unavailableBridge : Option AdapterError) (deadline : ℕ) : WindowProg σ (Option W) :=
  match fallbackTitle with
  | none => noWindow unavailableBridge
  | some title => do
    match ← world.findByTitle title deadline windows none with
    | some window => return some window
    | none => noWindow unavailableBridge

/-- **`ax_window_element_for_number`.** -/
def axWindowElementForNumber (pid windowNumber : ℤ) (fallbackTitle : Option String)
    (deadline : ℕ) : WindowProg σ (Option W) := do
  let windows ← world.windowsForPid pid deadline
  match ← world.findByNumber windowNumber deadline windows with
  | (some window, _) => return some window
  | (none, unavailableBridge) =>
    world.fallBackToTitle windows fallbackTitle unavailableBridge deadline

/-! ## The verified record -/

/-- `ensure_before_deadline`. -/
def ensureBeforeDeadline (deadline : ℕ) : WindowProg σ Unit := do
  let now ← Prog.ask world.clock
  if deadline ≤ now then Prog.fail (.timeout "CoreGraphics window inventory timed out")
  else return ()

/-- `exact_window_record_until`. -/
def exactWindowRecordUntil (windowNumber : ℤ) (deadline : ℕ) :
    WindowProg σ (Option WindowRecord) := do
  world.ensureBeforeDeadline deadline
  let records ← Prog.call (world.windowRecords windowNumber deadline)
  world.ensureBeforeDeadline deadline
  if 1 < records.length then
    Prog.fail (exactWindowSourceError
      "CoreGraphics returned multiple records for one exact window ID" windowNumber)
  else if records.getLast?.any (fun record => record.windowNumber != windowNumber) then
    Prog.fail (exactWindowSourceError
      "CoreGraphics returned a different record for one exact window ID" windowNumber)
  else return records.getLast?

/-- `verify_window_record`, once the process is the expected one. -/
def verifyNames (win : WindowInfo) (record : WindowRecord) : Except AdapterError Unit :=
  if !win.app.isEmpty && record.appName != win.app then .error (windowIdentityMismatch win.id)
  else if !win.title.isEmpty && record.title.getD record.appName != win.title then
    .error (windowIdentityMismatch win.id)
  else .ok ()

/-- `verify_window_record`. -/
def verifyWindowRecord (win : WindowInfo) (record : WindowRecord) : WindowProg σ Unit := do
  let pid ← Prog.ofExcept (toPidT win.pid)
  if record.pid ≠ pid then Prog.fail (windowIdentityMismatch win.id)
  else
    match win.processInstance with
    | none => Prog.fail (windowIdentityMismatch win.id)
    | some token =>
      if record.processInstance ≠ some token then Prog.fail (windowIdentityMismatch win.id)
      else if ← Prog.call (world.matchesInstance pid token) then
        Prog.ofExcept (verifyNames win record)
      else Prog.fail (windowIdentityMismatch win.id)

/-- `locate_verified_record_until`. -/
def locateVerifiedRecordUntil (win : WindowInfo) (deadline : ℕ) :
    WindowProg σ (ℤ × WindowRecord) := do
  match parseWindowNumber win.id with
  | none => Prog.fail (invalidWindowId win.id)
  | some windowNumber =>
    match ← world.exactWindowRecordUntil windowNumber deadline with
    | none => Prog.fail (windowNotFound win.id)
    | some record => do
      world.verifyWindowRecord win record
      return (windowNumber, record)

/-- **`resolve_window_element_strict`.** -/
def resolveWindowElementStrict (win : WindowInfo) (deadline : ℕ) : WindowProg σ W := do
  world.locatorRemaining deadline
  let (windowNumber, record) ← world.locateVerifiedRecordUntil win deadline
  world.locatorRemaining deadline
  let pid ← Prog.ofExcept (toPidT win.pid)
  match ← world.axWindowElementForNumber pid windowNumber record.title deadline with
  | some window => return window
  | none => Prog.fail (windowNotAccessible win.id)

/-! ## By number only -/

/-- `window_bridge_miss_error`. -/
def windowBridgeMissError (entry : RefEntry) : AdapterError :=
  ((AdapterError.new .appUnresponsive
    "The verified CoreGraphics window could not be matched to one live AXWindow").withSuggestion
      "Retry after the application finishes updating its accessibility windows").withDetails
      (.obj [("kind", .str "resolution_window_bridge_miss"),
        ("source_window_id", .ofOption entry.source.sourceWindowId), ("complete", .bool false),
        ("retryable", .bool true)])

/-- `require_unique_window_number_match`. -/
def requireUniqueWindowNumberMatch (matchCount : ℕ) (windowNumber : ℤ) :
    Except AdapterError Unit :=
  if 1 < matchCount then
    .error ((AdapterError.ambiguousTarget
      ("Multiple AX windows matched verified CoreGraphics window w-"
        ++ toString windowNumber)).withDetails
        (.obj [("kind", .str "source_window_number_ambiguous"),
          ("source_window_id", .str ("w-" ++ toString windowNumber)),
          ("candidate_count", .num matchCount)]))
  else .ok ()

/-- What the loop of `window_by_number` has found: the first match, and how many there are. -/
structure NumberMatches (W : Type) where
  found : Option W
  /-- The number of matches. -/
  matchCount : ℕ

/-- A further match. -/
def NumberMatches.push (matched : NumberMatches W) (window : W) : NumberMatches W :=
  ⟨matched.found.or (some window), matched.matchCount + 1⟩

/-- The loop of `window_by_number`; the answer of a bridge that is not there ends it. -/
def countByNumber (windowNumber : ℤ) (deadline : ℕ) :
    List W → NumberMatches W → WindowProg σ (NumberMatches W × Option AdapterError)
  | [], matched => return (matched, none)
  | window :: rest, matched => do
    world.locatorRemaining deadline
    match ← (world.axWindowId window deadline).attempt with
    | .ok actual =>
      if actual = some windowNumber then
        countByNumber windowNumber deadline rest (matched.push window)
      else countByNumber windowNumber deadline rest matched
    | .error error =>
      if isUnavailable error then return (matched, some error) else Prog.fail error

/-- `source_window_number`. -/
def sourceWindowNumber (entry : RefEntry) : Option ℤ :=
  entry.source.sourceWindowId.bind (fun id =>
    match id.toList with
    | 'w' :: '-' :: number => (parseI64 number).filter (fun number => 0 < number)
    | _ => none)

/-- **`window_by_number`.** -/
def windowByNumber (windows : List W) (entry : RefEntry) (deadline : ℕ) :
    WindowProg σ (Option W) := do
  match sourceWindowNumber entry with
  | none => return none
  | some windowNumber =>
    match ← world.countByNumber windowNumber deadline windows ⟨none, 0⟩ with
    | (_, some error) => Prog.fail error
    | (matched, none) => do
      Prog.ofExcept (requireUniqueWindowNumberMatch matched.matchCount windowNumber)
      match matched.found with
      | some window => return some window
      | none => Prog.fail (windowBridgeMissError entry)

end WindowWorld

end AgentDesktop
