import Mathlib.Data.List.Destutter
import AgentDesktop.Util.SortByKey
import AgentDesktop.WindowInventory

/-!
# The inventory of all windows

Three sources that are read one after the other are joined: the applications that own windows, the
windows that the window server lists, and the focused window of the application in front. The
owners are read again at the end. The join goes by the process and by its instance, which has to be
of the generation that the owner has in both snapshots; the focused window is found by its number,
or by its title if it has none.

Processes may start, end and reuse numbers between the reads. The reads are recorded.
-/

namespace AgentDesktop

/-! ## Owners -/

/-- `ActivationPolicy`. -/
inductive ActivationPolicy
  | regular | accessory | prohibited
  deriving DecidableEq

/-- `WindowOwner`. -/
structure WindowOwner where
  pid : ℤ
  name : String
  bundleId : Option String
  /-- When it was launched, if that is known. -/
  launchTime : Option F64
  activationPolicy : ActivationPolicy
  deriving DecidableEq

/-- The equality of launch times, as `f64` has it. -/
def sameLaunchTime : Option F64 → Option F64 → Bool
  | some time, some time' => F64.both (fun a b => a = b) time time'
  | none, none => true
  | some _, none | none, some _ => false

/-- The equality of `WindowOwner`. -/
def WindowOwner.same (owner owner' : WindowOwner) : Bool :=
  owner.pid == owner'.pid && owner.name == owner'.name && owner.bundleId == owner'.bundleId
    && sameLaunchTime owner.launchTime owner'.launchTime
    && owner.activationPolicy == owner'.activationPolicy

/-- `WindowOwnerSnapshot`. -/
structure WindowOwnerSnapshot where
  owners : List WindowOwner
  /-- The process in front. -/
  frontmostPid : Option ℤ

namespace WindowOwnerSnapshot

/-- `owner`. -/
def owner (snapshot : WindowOwnerSnapshot) (pid : ℤ) : Option WindowOwner :=
  snapshot.owners.find? (fun owner => owner.pid == pid)

/-- `frontmost`. -/
def frontmost (snapshot : WindowOwnerSnapshot) : Option WindowOwner :=
  snapshot.frontmostPid.bind snapshot.owner

end WindowOwnerSnapshot

/-- `OwnerGeneration`. -/
inductive OwnerGeneration
  /-- The owner was launched at this time. -/
  | launchTime (time : F64)
  /-- It is not known when; the process has to be alive. -/
  | liveProcess

/-- `OwnerSnapshotView`. -/
class OwnerSnapshotView (S : Type) where
  eligiblePids : S → List ℤ
  generation : S → ℤ → Option OwnerGeneration
  frontmostPid : S → Option ℤ
  sameGeneration : S → S → Bool

/-- The generation of an owner. -/
def WindowOwner.generation (owner : WindowOwner) : OwnerGeneration :=
  match owner.launchTime with
  | some time => .launchTime time
  | none => .liveProcess

instance : OwnerSnapshotView WindowOwnerSnapshot where
  eligiblePids snapshot := snapshot.owners.map WindowOwner.pid
  generation snapshot pid := (snapshot.owner pid).map WindowOwner.generation
  frontmostPid snapshot := snapshot.frontmost.map WindowOwner.pid
  sameGeneration before after :=
    before.owners.isEqv after.owners WindowOwner.same && before.frontmostPid == after.frontmostPid

/-! ## What is read -/

/-- `WindowAxState`, as far as the inventory reads it. -/
structure WindowAxState where
  /-- The title and the number of the focused window. -/
  focused : Option (Option String × Option ℤ)
  /-- Which windows are minimized. -/
  minimizedById : List (ℤ × Bool)

/-- What is recorded of an inventory. -/
inductive InventoryEvent (S : Type)
  /-- A snapshot of the owners. -/
  | owners (snapshot : S)
  /-- The records of the window server. -/
  | records (records : List InventoryRecord)
  /-- What a process is found to be. -/
  | captured (pid : ℤ) (identity : Option MacProcessIdentity)
  /-- What is read of the application in front. -/
  | front (pid : ℤ) (state : WindowAxState)

/-- A program that takes an inventory. -/
abbrev InventoryProg (σ S α : Type) : Type := Prog σ (InventoryEvent S) AdapterError α

/-! ## Errors -/

/-- A number that may be missing. -/
def optionalNum (value : Option ℤ) : Json := (value.map Json.num).getD .null

/-- `owner_churn_error`. -/
def ownerChurnError (pid : Option ℤ) (phase : String) : AdapterError :=
  (AdapterError.new .appUnresponsive
    "Window owner identity changed during global inventory").withDetails
      (.obj [("kind", .str "global_window_owner_churn"), ("pid", optionalNum pid),
        ("phase", .str phase), ("complete", .bool false), ("retryable", .bool true)])

/-- `focus_join_error`. -/
def focusJoinError (pid : Option ℤ) (matchCount : ℕ) : AdapterError :=
  (AdapterError.new .appUnresponsive
    "Authoritative frontmost app did not join to one exact window").withDetails
      (.obj [("kind", .str "frontmost_window_join"), ("pid", optionalNum pid),
        ("match_count", .num matchCount), ("complete", .bool false), ("retryable", .bool true)])

/-- `frontmost_read_error`. -/
def frontmostReadError (error : AdapterError) : AdapterError :=
  if error.code = .timeout ∨ error.code = .appUnresponsive ∨ error.code = .elementNotFound then
    (AdapterError.new .appUnresponsive
      "Authoritative frontmost window accessibility read was incomplete").withDetails
        (.obj [("kind", .str "frontmost_window_ax_incomplete"),
          ("source_code", .str error.code.asStr),
          ("source_kind", (error.details.bind (fun details => details.get "kind")).getD .null),
          ("complete", .bool false), ("retryable", .bool true)])
  else error

/-- A detail of the last error; a null is left out. -/
def lastDetail (lastError : Option AdapterError) (key : String) : Option Json :=
  match (lastError.bind AdapterError.details).bind (fun details => details.get key) with
  | some .null => none
  | detail => detail

/-- `global_timeout`. -/
def globalTimeout (attempts : ℕ) (lastError : Option AdapterError) : AdapterError :=
  (AdapterError.timeout
    "Global application window inventory did not stabilize before deadline").withDetails
      (.object [("kind", some (.str "global_window_inventory_unstable")),
        ("attempts", some (.num attempts)),
        ("last_code", lastError.map (fun error => .str error.code.asStr)),
        ("last_kind", lastDetail lastError "kind"),
        ("last_operation", lastDetail lastError "operation"),
        ("last_status", lastDetail lastError "status"),
        ("last_failure_field", lastDetail lastError "failure_field"),
        ("last_failure_index", lastDetail lastError "failure_index"),
        ("last_failure_pid", lastDetail lastError "failure_pid"),
        ("complete", some (.bool false)), ("retryable", some (.bool true))])

/-! ## The instances of the processes -/

/-- The loop of `unique_process_instances`, with the instances that are known. -/
def uniqueInstancesFrom :
    List InventoryRecord → List (ℤ × String) → Except AdapterError (List (ℤ × String))
  | [], instances => .ok instances
  | record :: records, instances =>
    match record.processInstance.filter (fun token => !token.isEmpty) with
    | none => .error (ownerChurnError (some record.pid) "process_instance_missing")
    | some token =>
      match instances.lookup record.pid with
      | some known =>
        if known = token then uniqueInstancesFrom records instances
        else .error (ownerChurnError (some record.pid) "process_instance_conflict")
      | none => uniqueInstancesFrom records ((record.pid, token) :: instances)

/-- `unique_process_instances`. -/
def uniqueProcessInstances (records : List InventoryRecord) :
    Except AdapterError (List (ℤ × String)) :=
  (uniqueInstancesFrom records []).map (sortByKey Prod.fst)

/-! ## The focused window -/

/-- `FocusJoin`. -/
inductive FocusJoin
  /-- The windows that are the focused one. -/
  | windows (windows : List (ℤ × ℤ))
  /-- Several windows have its title. -/
  | titleAmbiguous

/-- The windows of the application in front with this number. -/
def numberMatches (records : List InventoryRecord) (frontmostPid number : ℤ) :
    List InventoryRecord :=
  records.filter (fun record => record.pid == frontmostPid && record.windowNumber == number)

/-- The windows of the application in front with this title. -/
def titleMatches (records : List InventoryRecord) (frontmostPid : ℤ) (title : Option String) :
    List InventoryRecord :=
  records.filter (fun record => record.pid == frontmostPid && title == some record.displayTitle)

/-- What a window is known by. -/
def InventoryRecord.key (record : InventoryRecord) : ℤ × ℤ := (record.pid, record.windowNumber)

/-- `matching_focus_windows`. -/
def matchingFocusWindows (records : List InventoryRecord) (frontmostPid : Option ℤ)
    (state : Option WindowAxState) : FocusJoin :=
  match frontmostPid, state.bind WindowAxState.focused with
  | some pid, some (_, some number) =>
    .windows ((numberMatches records pid number).map InventoryRecord.key)
  | some pid, some (title, none) =>
    let matching := (titleMatches records pid title).map InventoryRecord.key
    if 1 < matching.length then .titleAmbiguous else .windows matching
  | _, _ => .windows []

/-- The focused window, in `assemble_global_windows`. -/
def joinFocus (records : List InventoryRecord) (frontmostPid frontmostWindowOwner : Option ℤ)
    (focusState : Option WindowAxState) : Except AdapterError (Option (ℤ × ℤ)) :=
  match matchingFocusWindows records frontmostPid focusState with
  | .titleAmbiguous => .ok none
  | .windows windows =>
    if frontmostWindowOwner.isSome && (focusState.bind WindowAxState.focused).isSome
        && windows.length != 1 then
      .error (focusJoinError frontmostPid windows.length)
    else .ok windows.head?

/-- Whether a window is minimized, as far as it was read. -/
def minimizedOf (record : InventoryRecord) (frontmostPid : Option ℤ)
    (focusState : Option WindowAxState) : Option Bool :=
  if some record.pid = frontmostPid then
    focusState.bind (fun state => state.minimizedById.lookup record.windowNumber)
  else none

/-- The end of `assemble_global_windows`. -/
def listedWindows (focusedOnly : Bool) (frontmostPid : Option ℤ)
    (focusState : Option WindowAxState) (focusedWindow : Option (ℤ × ℤ)) :
    List InventoryRecord → Except AdapterError (List WindowInfo)
  | [] => .ok []
  | record :: records =>
    let isFocused := some record.key == focusedWindow
    if focusedOnly && !isFocused then
      listedWindows focusedOnly frontmostPid focusState focusedWindow records
    else do
      let window ← record.intoWindowInfo isFocused (minimizedOf record frontmostPid focusState) true
      let windows ← listedWindows focusedOnly frontmostPid focusState focusedWindow records
      return window :: windows

namespace InventoryWorld

variable {σ S : Type} (world : InventoryWorld σ S)

/-! ## Generations -/

/-- `matches_launch_time`. -/
def matchesLaunchTime (identity : MacProcessIdentity) (launchTime : F64) : Bool :=
  launchTime.finiteAnd (fun time => 0 < time && world.withinLaunchDelta identity time)

/-- `instance_matches_launch_time`. -/
def instanceMatchesLaunchTime (pid : ℤ) (token : String) (launchTime : F64) :
    Except AdapterError Bool :=
  (parseToken pid token).map (fun identity => world.matchesLaunchTime identity launchTime)

/-- `matches_instance`; what the process is found to be is recorded. -/
def matchesInstance (pid : ℤ) (token : String) : InventoryProg σ S Bool := do
  let expected ← Prog.ofExcept (parseToken pid token)
  let current ← world.captureIdentity expected.pid
  Prog.emit (.captured expected.pid current)
  return current == some expected

/-- Whether an instance is of a generation. -/
def matchesGeneration (pid : ℤ) (token : String) : OwnerGeneration → InventoryProg σ S Bool
  | .launchTime time => Prog.ofExcept (world.instanceMatchesLaunchTime pid token time)
  | .liveProcess => world.matchesInstance pid token

variable [OwnerSnapshotView S]

/-- The loop of `validate_record_generations`. -/
def validateInstances (owners : S) : List (ℤ × String) → InventoryProg σ S Unit
  | [] => return ()
  | (pid, token) :: instances =>
    match OwnerSnapshotView.generation owners pid with
    | none => Prog.fail (ownerChurnError (some pid) "owner_not_eligible")
    | some generation => do
      if ← world.matchesGeneration pid token generation then validateInstances owners instances
      else Prog.fail (ownerChurnError (some pid) "process_generation_changed")

/-- `validate_record_generations`. -/
def validateRecordGenerations (records : List InventoryRecord) (owners : S) :
    InventoryProg σ S Unit := do
  let instances ← Prog.ofExcept (uniqueProcessInstances records)
  world.validateInstances owners instances

/-- `validate_snapshot_pair`. -/
def validateSnapshotPair (before after : S) (records : List InventoryRecord) :
    InventoryProg σ S Unit :=
  if OwnerSnapshotView.sameGeneration before after then
    world.validateRecordGenerations records after
  else Prog.fail (ownerChurnError none "appkit_snapshot_changed")

/-! ## One capture -/

/-- What `assemble_global_windows` reads of the application in front. -/
def readFocus (readFrontmost : ℤ → InventoryProg σ S WindowAxState) (frontmostPid : Option ℤ) :
    InventoryProg σ S (Option WindowAxState) :=
  match frontmostPid with
  | none => return none
  | some pid => do
    let state ← (readFrontmost pid).mapError frontmostReadError
    Prog.emit (.front pid state)
    return some state

/-- The application in front, if it has a window. -/
def frontmostWindowOwner (records : List InventoryRecord) (frontmostPid : Option ℤ) : Option ℤ :=
  frontmostPid.filter (fun pid => records.any (fun record => record.pid == pid))

/-- `assemble_global_windows`. -/
def assembleGlobalWindows (records : List InventoryRecord) (owners : S) (focusedOnly : Bool)
    (readFrontmost : ℤ → InventoryProg σ S WindowAxState) :
    InventoryProg σ S (List WindowInfo) := do
  let records := records.filter (fun record => 0 < record.windowNumber)
  world.validateRecordGenerations records owners
  let frontmostPid := OwnerSnapshotView.frontmostPid owners
  let windowOwner := frontmostWindowOwner records frontmostPid
  let focusState ← readFocus readFrontmost windowOwner
  let focusedWindow ← Prog.ofExcept (joinFocus records frontmostPid windowOwner focusState)
  Prog.ofExcept (listedWindows focusedOnly frontmostPid focusState focusedWindow records)

/-- A snapshot of the owners, which is recorded. -/
def readOwners (deadline : ℕ) : InventoryProg σ S S := do
  let snapshot ← Prog.call (world.captureOwners deadline)
  Prog.emit (.owners snapshot)
  return snapshot

/-- The records, which are recorded. -/
def readRecords (pids : List ℤ) (deadline fuel : ℕ) : InventoryProg σ S (List InventoryRecord) := do
  let records ← (world.windowRecordsUntil (.pids pids) deadline fuel).unrecorded
  Prog.emit (.records records)
  return records

/-- `read_frontmost_until`. -/
def readFrontmostUntil (deadline : ℕ) (pid : ℤ) : InventoryProg σ S WindowAxState := do
  let focused ← Prog.call (world.focusedIdentity pid deadline)
  return ⟨focused, []⟩

/-- `capture_validated_with`. -/
def captureValidatedWith (captureOwners : InventoryProg σ S S) (selectPids : S → List ℤ)
    (captureRecords : List ℤ → InventoryProg σ S (List InventoryRecord))
    (assemble : List InventoryRecord → S → InventoryProg σ S (List WindowInfo))
    (validate : S → S → List ℤ → List InventoryRecord → InventoryProg σ S Unit) :
    InventoryProg σ S (List WindowInfo) := do
  let before ← captureOwners
  let eligiblePids := selectPids before
  let records ← captureRecords eligiblePids
  let assembled ← (assemble records before).attempt
  let after ← captureOwners
  validate before after eligiblePids records
  Prog.ofExcept assembled

/-- **`capture_global_with`**, as `capture_global_once` calls it. -/
def captureGlobalWith (focusedOnly : Bool) (deadline fuel : ℕ) :
    InventoryProg σ S (List WindowInfo) :=
  captureValidatedWith (world.readOwners deadline) OwnerSnapshotView.eligiblePids
    (fun pids => world.readRecords pids deadline fuel)
    (fun records owners => world.assembleGlobalWindows records owners focusedOnly
      (world.readFrontmostUntil deadline))
    (fun before after _ records => world.validateSnapshotPair before after records)

/-! ## Labels, and the whole -/

/-- A window of a process, with its label. -/
def labelWindow (pid : ProcessId) (accessibleIds : List ℤ) (window : WindowInfo) : WindowInfo :=
  if window.pid = pid then
    { window with state := { window.state with
        accessible := (parseWindowNumber window.id).any accessibleIds.contains } }
  else window

/-- The loop of `label_accessibility`. -/
def labelFrom (deadline : ℕ) :
    List ProcessId → List WindowInfo → InventoryProg σ S (List WindowInfo)
  | [], windows => return windows
  | pid :: pids, windows =>
    match toPidT pid with
    | .error _ => labelFrom deadline pids windows
    | .ok native => do
      let now ← Prog.ask world.clock
      let probe := min (now + 50 * nanosPerMs) deadline
      match ← (Prog.call (world.accessibleWindowIds native probe)).attempt with
      | .error _ => labelFrom deadline pids windows
      | .ok accessibleIds => labelFrom deadline pids (windows.map (labelWindow pid accessibleIds))

/-- The processes of some windows, each once and in order. -/
def pidsOf (windows : List WindowInfo) : List ProcessId :=
  (sortByKey UInt32.toNat (windows.map WindowInfo.pid)).destutter (· ≠ ·)

/-- `capture_global_once`. -/
def captureGlobalOnce (focusedOnly : Bool) (deadline fuel : ℕ) :
    InventoryProg σ S (List WindowInfo) := do
  let windows ← world.captureGlobalWith focusedOnly deadline fuel
  world.labelFrom deadline (pidsOf windows) windows

/-- The loop of `stabilize_global_with`. -/
def stabilizeGlobal (focusedOnly : Bool) (deadline : ℕ) :
    ℕ → ℕ → Option AdapterError → InventoryProg σ S (List WindowInfo)
  | 0, _, _ => Prog.cutOff
  | fuel + 1, attempts, lastError => do
    let now ← Prog.ask world.clock
    if deadline ≤ now then Prog.fail (globalTimeout attempts lastError)
    else do
      match ← (world.captureGlobalOnce focusedOnly deadline fuel).attempt with
      | .ok windows => return windows
      | .error error =>
        if retryableInventoryError error then do
          world.pauseUntil deadline
          stabilizeGlobal focusedOnly deadline fuel (attempts + 1) (some error)
        else Prog.fail error

/-- **`list_windows_until`.** -/
def listWindowsUntil (focusedOnly : Bool) (deadline fuel : ℕ) :
    InventoryProg σ S (List WindowInfo) :=
  world.stabilizeGlobal focusedOnly deadline fuel 0 none

end InventoryWorld

end AgentDesktop
