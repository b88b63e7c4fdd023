import AgentDesktop.PointerAction

/-!
# Dragging

A drag has two ends, each named by a ref or by coordinates. Under the interaction
lease both are resolved, scrolled into view where the command has not waited for
them before, and then resolved and checked once more, without a scroll: an end that
is no longer where it was fails the attempt. A command that waits tries again, with
a new lease, as long as the failure may pass. Only when an attempt has succeeded is
the drag sent, under the lease of that attempt, and after it nothing is tried again.
-/

namespace AgentDesktop

/-- `DragEndpoint`. -/
structure DragEndpoint where
  refId : Option String
  xy : Option (F64 × F64)

/-- `DragArgs`; the scope of the wait is the end whose window is waited for. -/
structure DragArgs where
  /-- Where the drag begins. -/
  origin : DragEndpoint
  target : DragEndpoint
  /-- The snapshot of the refs. -/
  snapshotId : Option String
  /-- How long the drag takes. -/
  durationMs : Option ℕ
  /-- How long the pointer rests before the drop. -/
  dropDelayMs : Option ℕ
  /-- How long the command may wait for its ends. -/
  timeoutMs : Option ℕ
  /-- `WaitForScope`. -/
  waitForScope : DragSide

namespace DragArgs

/-- `from_args`. -/
def originArgs (args : DragArgs) : PointResolveArgs :=
  ⟨.origin, args.origin.refId, args.origin.xy, args.snapshotId,
    "Provide --from <ref> or --from-xy x,y", .focusedWindowAndCursor⟩

/-- `to_args`. -/
def targetArgs (args : DragArgs) : PointResolveArgs :=
  ⟨.target, args.target.refId, args.target.xy, args.snapshotId,
    "Provide --to <ref> or --to-xy x,y", .none⟩

end DragArgs

/-- `MAX_DRAG_DURATION_MS`. -/
def maxDragDurationMs : ℕ := 60000

/-- `MAX_DRAG_DROP_DELAY_MS`. -/
def maxDragDropDelayMs : ℕ := 10000

/-- `MAX_DRAG_STEPS`. -/
def maxDragSteps : ℕ := 4096

/-- `Point::validate`. -/
def Point.validate (point : Point) : Except AdapterError Unit :=
  let coordinate (value : ℚ) : Bool :=
    -Rect.maxGeometryMagnitude ≤ value && value ≤ Rect.maxGeometryMagnitude
  if point.x.finiteAnd coordinate && point.y.finiteAnd coordinate then .ok ()
  else .error (.new .invalidArgs
    "Point coordinates must be finite and within platform geometry bounds")

/-- `DragParams::validate`, at a time. -/
def DragParams.validate (params : DragParams) (deadline : Deadline) (now : ℕ) :
    Except AdapterError Unit := do
  params.fromPoint.validate
  params.toPoint.validate
  let duration := params.durationMs.getD 0
  let dropDelay := params.dropDelayMs.getD 0
  if maxDragDurationMs < duration || maxDragDropDelayMs < dropDelay then
    throw (.new .invalidArgs "Drag timing exceeds the supported maximum")
  let steps := max ((duration + 15) / 16) 1
  if maxDragSteps < steps then
    throw (.new .invalidArgs "Drag would exceed the maximum synthesized step count")
  if deadline.remaining now < (duration + dropDelay) * nanosPerMs then
    throw (deadline.timeoutError now)

namespace DragDesktop

variable {σ H : Type} [BoundsHasher] (desktop : DragDesktop σ H)

/-- `point_deadline`. -/
def pointDeadline (timeoutMs : Option ℕ) : DragProg σ H AppError Deadline := do
  let now ← desktop.clock
  Prog.ofExcept ((match timeoutMs with
    | none => Deadline.standard desktop.inheritedDeadline now
    | some timeoutMs => Deadline.after desktop.inheritedDeadline now timeoutMs).mapError
      AppError.adapter)

/-- The part of an attempt under the lease: both ends, looked at twice. -/
def resolveEnds (args : DragArgs) (context : PointerContext) (deadline : Deadline)
    (lease : InteractionLease) : DragProg σ H AppError (ResolvedPoint × ResolvedPoint) := do
  let focused ← desktop.focusPointUnderLease args.originArgs context lease
  let allowScroll := !autoWait args.timeoutMs
  let first ← desktop.resolvePointUnderLease args.originArgs none allowScroll deadline lease
  let second ← desktop.resolvePointUnderLease args.targetArgs none allowScroll deadline lease
  let origin ← desktop.resolvePointUnderLease args.originArgs (some first.boundsHash) false deadline
    lease
  let target ← desktop.resolvePointUnderLease args.targetArgs (some second.boundsHash) false deadline
    lease
  return ({ origin with focused }, target)

/-- An attempt of the leased phase. -/
def attemptEnds (args : DragArgs) (context : PointerContext) (deadline : Deadline) :
    DragProg σ H AppError (ResolvedPoint × ResolvedPoint × InteractionLease) := do
  let lease ← desktop.acquireLease deadline
  let (origin, target) ← desktop.orRelease lease
    (desktop.resolveEnds args context deadline lease)
  return (origin, target, lease)

/-- The part of `execute` that sends the drag. -/
def sendDrag (args : DragArgs) (deadline : Deadline) (origin target : ResolvedPoint)
    (lease : InteractionLease) : DragProg σ H AppError Json := do
  desktop.ensurePointDeadline deadline (some (.obj [("status", .str "actionable"),
    ("from", origin.point.toJson), ("to", target.point.toJson)]))
  let params : DragParams := ⟨origin.point, target.point, args.durationMs, args.dropDelayMs⟩
  let now ← desktop.clock
  Prog.ofExcept ((params.validate deadline now).mapError AppError.adapter)
  Prog.ask desktop.present
  let _ ← Prog.ask (desktop.submitDrag params)
  let result ← Prog.ask (desktop.drag params lease)
  Prog.emit (.dragged params lease)
  -- the cursor is shown at its goal, or taken away: it reports nothing
  Prog.ask desktop.present
  Prog.ofExcept (result.mapError AppError.adapter)
  return .object [("dragged", some (.bool true)), ("from", some (origin.point.toJson)),
    ("to", some (target.point.toJson)),
    ("drop_delay_ms", args.dropDelayMs.map (fun dropDelayMs => .num dropDelayMs)),
    ("focused", if origin.focused then some (.bool true) else none)]

/-- Waiting for both ends, where the command has time. -/
def waitForEnds (fuel : ℕ) (args : DragArgs) (deadline : Deadline) :
    DragProg σ H AppError Unit := do
  if autoWait args.timeoutMs then
    let _ ← desktop.waitForPointWithDeadline fuel args.originArgs deadline
    let _ ← desktop.waitForPointWithDeadline fuel args.targetArgs deadline
    return ()
  else return ()

/-- `drag::execute`. -/
def execute (fuel : ℕ) (args : DragArgs) (context : PointerContext) :
    DragProg σ H AppError Json := do
  Prog.ofExcept (requireCursorPolicy context "drag")
  Prog.call desktop.validatePostActionWait
  let deadline ← desktop.pointDeadline args.timeoutMs
  desktop.waitForEnds fuel args deadline
  let (origin, target, lease) ← desktop.retryLeasedPointPhase args.timeoutMs deadline
    (desktop.attemptEnds args context deadline) fuel
  let response ← desktop.orRelease lease
    (desktop.sendDrag args deadline origin target lease)
  desktop.releaseLease lease
  let waitEntry := match args.waitForScope with
    | .target => target.sourceEntry.or origin.sourceEntry
    | .origin => origin.sourceEntry.or target.sourceEntry
  Prog.call (desktop.applyPostActionWait response waitEntry)

end DragDesktop

end AgentDesktop
