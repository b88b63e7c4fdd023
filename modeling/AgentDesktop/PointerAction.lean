import AgentDesktop.RefActionWait
import AgentDesktop.RefToken

/-!
# The target of a pointer

A command that moves the pointer names its target by a ref or by coordinates. A ref
is loaded from its snapshot and resolved; the element has to be visible, at bounds
that are where they were when it was looked at before, and not covered where the
pointer will go. An element that is not visible is scrolled into view where the
interaction lease is held for it, and looked at again.

What is done to the target is recorded, for each end of the drag: it was resolved,
observed, scrolled and hit-tested, and the lease was taken and given back.
-/

namespace AgentDesktop

/-! ## The environment -/

/-- The ends of a drag. -/
inductive DragSide
  /-- Where it begins. -/
  | origin
  /-- Where it ends. -/
  | target
  deriving DecidableEq

/-- **The environment of a drag**: the desktop, what else a drag asks the adapter for, the
snapshots, and what follows it. -/
structure DragDesktop (σ H : Type) extends Desktop σ H where
  /-- `get_live_state`: the states. -/
  getLiveState : H → Deadline → σ → Except AdapterError (Option (List String)) × σ
  drag : DragParams → InteractionLease → σ → Except AdapterError Unit × σ
  /-- `RefStore::for_session`. -/
  forSession : σ → Except AppError Unit × σ
  /-- `load_snapshot`, in the store of the session. -/
  loadSnapshot : String → σ → Except AppError RefMap × σ
  /-- `submit_drag`: whether the cursor is shown on the way. -/
  submitDrag : DragParams → σ → Bool × σ
  validatePostActionWait : σ → Except AppError Unit × σ
  /-- `apply_post_action_wait`: it observes. -/
  applyPostActionWait : Json → Option RefEntry → σ → Except AppError Json × σ

/-- **What a drag does to its ends.** -/
inductive DragEvent (H : Type)
  /-- The interaction lease was taken. -/
  | leaseAcquired (lease : InteractionLease)
  /-- The lease was given back. -/
  | leaseReleased (lease : InteractionLease)
  /-- The ref of an end was resolved to a handle. -/
  | resolved (side : DragSide) (handle : H)
  /-- The element was observed. -/
  | observed (side : DragSide) (handle : H) (bounds : Option Rect) (states : List String)
  /-- `scroll_into_view` was invoked. -/
  | scrolled (side : DragSide) (handle : H)
  /-- `hit_test` was invoked, with this answer. -/
  | hitTested (side : DragSide) (handle : H) (point : Point)
    (answer : Except AdapterError HitTestResult)
  /-- `drag` was invoked. -/
  | dragged (params : DragParams) (lease : InteractionLease)

/-- A program that drags. -/
abbrev DragProg (σ H ε α : Type) : Type := Prog σ (DragEvent H) ε α

/-- `CommandContext`, as far as a drag reads it. -/
structure PointerContext where
  /-- `physical_input_policy`. -/
  policy : InteractionPolicy

/-! ## Arguments and answers -/

/-- `PointResolveArgs`, with the end of the drag they are for. -/
structure PointResolveArgs where
  side : DragSide
  refId : Option String
  xy : Option (F64 × F64)
  /-- The snapshot of the ref. -/
  snapshotId : Option String
  /-- What is said when there is neither. -/
  missingInputMessage : String
  /-- Whether the window has to be focused. -/
  headedRequirement : HeadedRequirement

/-- `ResolvedPoint`. -/
structure ResolvedPoint where
  point : Point
  /-- Whether the window was focused. -/
  focused : Bool
  /-- The entry of the ref. -/
  sourceEntry : Option RefEntry
  boundsHash : Option UInt64

/-- `EntryPointResolve`. -/
structure EntryPointResolve where
  side : DragSide
  refId : String
  entry : RefEntry
  /-- The hash the bounds have to have, if one is expected. -/
  stability : Option (Option UInt64)
  /-- The lease to scroll under. -/
  lease : Option InteractionLease
  /-- Whether the point is hit-tested. -/
  verifyReceivesEvents : Bool

/-- `optional_live_read`. -/
def optionalLiveRead {α : Type} : Except AdapterError (Option α) → Except AdapterError (Option α)
  | .ok value => .ok value
  | .error error =>
    if error.code = .platformNotSupported ∨ error.code = .actionNotSupported then .ok none
    else .error error

/-- `pointer_is_visible`. -/
def pointerIsVisible (bounds : Option Rect) (states : List String) : Bool :=
  !State.hasState states State.hidden && !State.hasState states State.offscreen
    && bounds.any (fun bounds => bounds.isValid && bounds.hasArea)

/-! ## Errors -/

/-- `require_cursor_policy`. -/
def requireCursorPolicy (context : PointerContext) (command : String) : Except AppError Unit :=
  if context.policy.allowCursorMove then .ok ()
  else .error (.adapter (((AdapterError.new .policyDenied
    (command ++ " moves the cursor and is disabled in headless mode")).withSuggestion
      (policyDeniedSuggestion context.policy)).withDisposition .notDelivered))

/-- A target that failed a check. -/
def pointCheckFailed (message : String) (details : List (String × Json)) : AppError :=
  .adapter ((AdapterError.new .actionFailed message).withDetails (.obj details))

/-- The target is not visible. -/
def notVisible (details : List (String × Json)) : AppError :=
  pointCheckFailed "Pointer target is not visible in the live accessibility tree"
    (("check", .str "visible") :: details)

/-- `point_failed_check`. -/
def pointFailedCheck (error : AppError) (expected : String) : Bool :=
  match error with
  | .adapter error =>
    error.details.any (fun details =>
      (details.get "check").any (Json.isStr · expected)
        || ((details.get "checks").bind Json.asArray).any (fun checks => checks.any (fun check =>
          (check.get "check").any (Json.isStr · expected)
            && !(check.get "status").any (Json.isStr · "pass"))))
  | _ => false

/-- `is_retryable_point_error`. -/
def isRetryablePointError : AppError → Bool
  | .adapter error =>
    error.isRetryableResolutionFailure
      || (error.code == .actionFailed
        && ["visible", "stable", "receives_events"].any (pointFailedCheck (.adapter error)))
  | _ => false

/-- `point_requires_scroll`. -/
def pointRequiresScroll : AppError → Bool
  | .adapter error =>
    ((error.details.bind (fun details => details.get "requires_scroll")).bind
      Json.asBool).getD false
  | _ => false

/-- `point_observed_bounds_hash`. -/
def pointObservedBoundsHash : AppError → Option UInt64
  | .adapter error => observedBoundsHash error
  | _ => none

/-- `point_error_report`. -/
def pointErrorReport (error : AppError) : Json :=
  .obj [("code", .str error.code), ("message", .str error.toText),
    ("details", (match error with
      | .adapter error => error.details
      | _ => none).getD .null)]

/-- `point_actionability_timeout`. -/
def pointActionabilityTimeout (lastReport : Option Json) : AppError :=
  .adapter ((AdapterError.timeout
    "Pointer target did not become actionable within the wait budget").withDetails
      (.object [("kind", some (.str "actionability_timeout")), ("last_report", lastReport)]))

/-- The target is covered. -/
def occludedError (occluder : Occluder) : AppError :=
  let report := ActionabilityReport.fromChecks [.occluded occluder] none none none .physical
  .adapter ((((AdapterError.new .actionFailed
    ("Target is not actionable: " ++ report.failureReasons)).withDetails report.toJson).withSuggestion
      "Wait for the target to become actionable, refresh the snapshot, or use an explicit physical/focus command if intended.").withDisposition
        .notDelivered)

/-! ## Resolving a point -/

namespace DragDesktop

variable {σ H : Type} [BoundsHasher] (desktop : DragDesktop σ H)

/-- `Instant::now`. -/
def clock {ε : Type} : DragProg σ H ε ℕ := Prog.ask desktop.now

/-- A trace event whose failure is an error. -/
def trace (event : String) (fields : Json) : DragProg σ H AppError Unit :=
  Prog.call (desktop.traceLazy event fields)

/-- A trace event whose failure does not matter. -/
def traceBestEffort {ε : Type} (event : String) (fields : Json) : DragProg σ H ε Unit := do
  let _ ← Prog.ask (desktop.traceLazy event fields)

/-- `load_ref_entry`. -/
def loadRefEntry (refId : String) (snapshotId : Option String) :
    DragProg σ H AppError RefEntry := do
  let (snapshotId, localRef) ← Prog.ofExcept (resolveRefTarget refId snapshotId)
  Prog.call desktop.forSession
  let fields := [("ref", Json.str refId), ("snapshot_id", Json.str snapshotId)]
  desktop.trace "ref.resolve.start" (.obj fields)
  match ← Prog.ask (desktop.loadSnapshot snapshotId) with
  | .error error =>
    desktop.traceBestEffort "ref.resolve.error"
      (.obj (fields ++ [("code", .str error.code), ("message", .str error.toText)]))
    Prog.fail error
  | .ok refmap =>
    match refmap.get localRef with
    | none =>
      desktop.trace "ref.resolve.error" (.obj (fields ++ [("code", .str "STALE_REF"),
        ("message", .str "ref not found in current RefMap")]))
      Prog.fail (.staleRef refId)
    | some entry =>
      desktop.trace "ref.resolve.entry" (.obj [("ref", .str refId),
        ("pid", .num entry.process.pid.toNat), ("role", .str entry.identity.role),
        ("name", .ofOption entry.identity.name)])
      return entry

/-- `resolve_handle_within_deadline`. -/
def resolveHandleWithinDeadline (side : DragSide) (entry : RefEntry) (deadline : Deadline) :
    DragProg σ H AppError H := do
  let now ← desktop.clock
  if deadline.isExpired now then
    Prog.fail (.adapter (deadline.timeoutError (← desktop.clock)))
  else
    let handle ← Prog.mapError AppError.adapter
      (Prog.call (desktop.resolveElementStrict entry deadline))
    Prog.emit (.resolved side handle)
    return handle

/-- `pointer_live_observation`. -/
def pointerLiveObservation (side : DragSide) (handle : H) (deadline : Deadline) :
    DragProg σ H AppError (Option Rect × List String) := do
  let bounds ← Prog.mapError AppError.adapter
    (Prog.call (desktop.getElementBounds handle deadline))
  let states ← Prog.ask (desktop.getLiveState handle deadline)
  let states ← Prog.ofExcept ((optionalLiveRead states).mapError AppError.adapter)
  let states := states.getD []
  Prog.emit (.observed side handle bounds states)
  return (bounds, states)

/-- `require_receives_events`. -/
def requireReceivesEvents (side : DragSide) (handle : H) (point : Point) (deadline : Deadline) :
    DragProg σ H AppError Unit := do
  let answer ← Prog.ask (desktop.hitTest handle point deadline)
  Prog.emit (.hitTested side handle point answer)
  match answer with
  | .ok .reachesTarget | .ok .unknown => return ()
  | .error error =>
    if error.code = .platformNotSupported then return () else Prog.fail (.adapter error)
  | .ok (.interceptedBy role name bounds) => Prog.fail (occludedError ⟨role, name, bounds⟩)

/-- The part of `resolve_point_from_entry` that brings an element into view: the handle and what
was observed of it last. -/
def bringIntoView (request : EntryPointResolve) (deadline : Deadline) (handle : H) :
    DragProg σ H AppError (H × Option Rect) := do
  let (bounds, states) ← desktop.pointerLiveObservation request.side handle deadline
  if pointerIsVisible bounds states then return (handle, bounds)
  else
    let now ← desktop.clock
    if deadline.isExpired now then
      Prog.fail (.adapter (.timeout
        "Pointer target did not become visible within the wait budget"))
    else
      match request.lease with
      | none => Prog.fail (notVisible [("requires_scroll", .bool true)])
      | some lease =>
        Prog.emit (.scrolled request.side handle)
        Prog.mapError AppError.adapter (Prog.call (desktop.scrollIntoView handle lease))
        let handle ← desktop.resolveHandleWithinDeadline request.side request.entry deadline
        let (bounds, states) ← desktop.pointerLiveObservation request.side handle deadline
        if pointerIsVisible bounds states then return (handle, bounds)
        else Prog.fail (notVisible [])

/-- The checks of `resolve_point_from_entry` on an element in view. -/
def checkPoint (request : EntryPointResolve) (deadline : Deadline) (handle : H)
    (bounds : Option Rect) : DragProg σ H AppError ResolvedPoint := do
  let some bounds := bounds
    | Prog.fail (pointCheckFailed ("Element " ++ request.refId ++ " has no live bounds")
        [("check", .str "visible")])
  let some observedBoundsHash := bounds.boundsHash
    | Prog.fail (.adapter (.new .actionFailed "Pointer target exposes invalid live bounds"))
  if request.stability.any (· != some observedBoundsHash) then
    Prog.fail (pointCheckFailed "Pointer target bounds are not stable yet"
      [("check", .str "stable"), ("observed_bounds_hash", .num observedBoundsHash.toNat)])
  else
    let point := bounds.pointAt (1 / 2) (1 / 2)
    if request.verifyReceivesEvents then
      desktop.requireReceivesEvents request.side handle point deadline
    let now ← desktop.clock
    if deadline.isExpired now then
      Prog.fail (.adapter (.timeout
        "Pointer target did not become actionable within the wait budget"))
    else return ⟨point, false, some request.entry, some observedBoundsHash⟩

/-- What fails to resolve is traced. -/
def resolveTraced (request : EntryPointResolve) (deadline : Deadline) :
    DragProg σ H AppError H := do
  match ← (Prog.attempt (desktop.resolveHandleWithinDeadline request.side request.entry deadline) :
      DragProg σ H AppError _) with
  | .ok handle =>
    desktop.trace "ref.resolve.ok" (.obj [("ref", .str request.refId)])
    return handle
  | .error error =>
    desktop.traceBestEffort "ref.resolve.error" (.obj [("ref", .str request.refId),
      ("code", .str error.code), ("message", .str error.toText),
      ("details", (match error with
        | .adapter error => error.details
        | _ => none).getD .null)])
    Prog.fail error

/-- `resolve_point_from_entry`. -/
def resolvePointFromEntry (request : EntryPointResolve) (deadline : Deadline) :
    DragProg σ H AppError ResolvedPoint := do
  let handle ← desktop.resolveTraced request deadline
  let (handle, bounds) ← desktop.bringIntoView request deadline handle
  desktop.checkPoint request deadline handle bounds

/-- `resolve_point_from_ref_or_xy_with_context`, where there is no ref. -/
def resolvePointFromXy (args : PointResolveArgs) : DragProg σ H AppError ResolvedPoint :=
  match args.xy with
  | some (x, y) => pure ⟨⟨x, y⟩, false, none, none⟩
  | none => Prog.fail (.invalidInput args.missingInputMessage)

/-- `resolve_point_under_lease`. -/
def resolvePointUnderLease (args : PointResolveArgs) (stability : Option (Option UInt64))
    (allowScroll : Bool) (deadline : Deadline) (lease : InteractionLease) :
    DragProg σ H AppError ResolvedPoint :=
  match args.refId with
  | none => resolvePointFromXy args
  | some refId => do
    let entry ← desktop.loadRefEntry refId args.snapshotId
    desktop.resolvePointFromEntry
      ⟨args.side, refId, entry, stability, if allowScroll then some lease else none, true⟩ deadline

/-! ## Leases -/

/-- Taking the lease, recorded when it succeeds. -/
def acquireLease (deadline : Deadline) : DragProg σ H AppError InteractionLease := do
  let lease ← Prog.mapError AppError.adapter
    (Prog.call (desktop.acquireInteractionLease deadline))
  Prog.emit (.leaseAcquired lease)
  return lease

/-- Giving the lease back, recorded. -/
def releaseLease {ε : Type} (lease : InteractionLease) : DragProg σ H ε Unit := do
  Prog.ask (desktop.releaseInteractionLease lease)
  Prog.emit (.leaseReleased lease)

/-- What fails gives the lease back. -/
def orRelease {α : Type} (lease : InteractionLease) (p : DragProg σ H AppError α) :
    DragProg σ H AppError α := do
  match ← (Prog.attempt p : DragProg σ H AppError _) with
  | .ok value => return value
  | .error error =>
    desktop.releaseLease lease
    Prog.fail error

/-- `focus_point_under_lease`: whether the window was focused. -/
def focusPointUnderLease (args : PointResolveArgs) (context : PointerContext)
    (lease : InteractionLease) : DragProg σ H AppError Bool :=
  if !args.headedRequirement.requiresFocus then pure false
  else
    match args.refId with
    | none => pure false
    | some refId => do
      let entry ← desktop.loadRefEntry refId args.snapshotId
      if !context.policy.allowFocusSteal then return false
      else
        let _ ← Prog.unrecorded (focusEntryWindow desktop.toDesktop entry lease)
        return true

/-! ## Waiting -/

/-- `scroll_point_target`. -/
def scrollPointTarget (side : DragSide) (entry : RefEntry) (deadline : Deadline) :
    DragProg σ H AppError Unit := do
  let lease ← desktop.acquireLease deadline
  desktop.orRelease lease (do
    let handle ← desktop.resolveHandleWithinDeadline side entry deadline
    Prog.emit (.scrolled side handle)
    Prog.mapError AppError.adapter (Prog.call (desktop.scrollIntoView handle lease)))
  desktop.releaseLease lease

/-- `Duration::from_millis(16)`, in nanoseconds. -/
def stablePollInterval : ℕ := 16 * nanosPerMs

/-- The loop of `wait_for_point_with_deadline`. -/
def waitForPoint (side : DragSide) (refId : String) (entry : RefEntry) (deadline : Deadline) :
    ℕ → Option (Option UInt64) → Option Json → DragProg σ H AppError ResolvedPoint
  | 0, _, _ => Prog.cutOff
  | fuel + 1, stability, lastReport => do
    let now ← desktop.clock
    if deadline.isExpired now then Prog.fail (pointActionabilityTimeout lastReport)
    else
      match ← (Prog.attempt (desktop.resolvePointFromEntry
          ⟨side, refId, entry, stability, none, false⟩ deadline) : DragProg σ H AppError _) with
      | .ok point => return { point with focused := false }
      | .error error =>
        let remaining := deadline.remaining (← desktop.clock)
        if !isRetryablePointError error then Prog.fail error
        else
          let lastReport := some (pointErrorReport error)
          if remaining = 0 then Prog.fail (pointActionabilityTimeout lastReport)
          else if pointRequiresScroll error then
            desktop.scrollPointTarget side entry deadline
            Prog.ask (desktop.sleep (min pollInterval (deadline.remaining (← desktop.clock))))
            waitForPoint side refId entry deadline fuel stability lastReport
          else
            let observed := pointObservedBoundsHash error
            let stability := if observed.isSome then some observed else stability
            let interval := if observed.isSome then stablePollInterval else pollInterval
            Prog.ask (desktop.sleep (min interval remaining))
            waitForPoint side refId entry deadline fuel stability lastReport

/-- `wait_for_point_with_deadline`. -/
def waitForPointWithDeadline (fuel : ℕ) (args : PointResolveArgs) (deadline : Deadline) :
    DragProg σ H AppError ResolvedPoint :=
  match args.refId with
  | none => resolvePointFromXy args
  | some refId => do
    let entry ← desktop.loadRefEntry refId args.snapshotId
    desktop.waitForPoint args.side refId entry deadline fuel (some none) none

/-- Whether the command waits for its target. -/
def autoWait (timeoutMs : Option ℕ) : Bool := timeoutMs.any (fun timeoutMs => 0 < timeoutMs)

/-- `retry_leased_point_phase`. -/
def retryLeasedPointPhase {α : Type} (timeoutMs : Option ℕ) (deadline : Deadline)
    (attempt : DragProg σ H AppError α) : ℕ → DragProg σ H AppError α
  | 0 => Prog.cutOff
  | fuel + 1 => do
    match ← (Prog.attempt attempt : DragProg σ H AppError _) with
    | .ok value => return value
    | .error error =>
      if autoWait timeoutMs && isRetryablePointError error then
        let remaining := deadline.remaining (← desktop.clock)
        if remaining = 0 then
          Prog.fail (pointActionabilityTimeout (some (pointErrorReport error)))
        else
          Prog.ask (desktop.sleep (min pollInterval remaining))
          retryLeasedPointPhase timeoutMs deadline attempt fuel
      else Prog.fail error

/-- `ensure_point_deadline`. -/
def ensurePointDeadline (deadline : Deadline) (lastReport : Option Json) :
    DragProg σ H AppError Unit := do
  let now ← desktop.clock
  if deadline.isExpired now then Prog.fail (pointActionabilityTimeout lastReport) else return ()

end DragDesktop

end AgentDesktop
