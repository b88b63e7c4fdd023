import AgentDesktop.InputEvent

/-!
# The mouse

A move goes to a point next to its goal and then to the goal, and looks whether
the pointer is there. A click moves, and presses and releases the button as often
as it was asked to; each release is kept by a guard while the button is down. A
drag presses the button, goes along its path, rests over its goal and releases
the button there; its guard keeps a drag back to the origin and a release there,
for the case that it does not get that far.
-/

namespace AgentDesktop

/-- The steps a drag is made of, which the source computes with floating-point numbers. -/
structure DragArithmetic where
  /-- `drag_point`: where a drag is at a step, out of so many. -/
  dragPoint : DragParams → ℕ → ℕ → Point
  /-- The delay of a step in nanoseconds, from the duration and the number of steps. -/
  stepDelay : ℕ → ℕ → ℕ

/-! ## Points and buttons -/

/-- `mouse::validate_point`. -/
def validateMousePoint (point : Point) : Except AdapterError Unit :=
  let coordinate (value : ℚ) : Bool := -1000000 ≤ value && value ≤ 1000000
  if point.x.finiteAnd coordinate && point.y.finiteAnd coordinate then .ok ()
  else .error (.new .invalidArgs
    "Mouse coordinates must be finite and within -1000000..=1000000")

/-- `MAX_MOUSE_CLICK_COUNT`. -/
def maxMouseClickCount : ℕ := 100

/-- `validate_mouse_click_count`. -/
def validateMouseClickCount (count : ℕ) : Except AdapterError Unit :=
  if 1 ≤ count ∧ count ≤ maxMouseClickCount then .ok ()
  else .error (.new .invalidArgs
    ("Mouse click count must be between 1 and " ++ toString maxMouseClickCount))

/-- `to_cg_button`. -/
def toCgButton : MouseButton → CGMouseButton
  | .left => .left
  | .right => .right
  | .middle => .center

/-- `down_type`. -/
def downType : MouseButton → CGEventType
  | .left => .leftMouseDown
  | .right => .rightMouseDown
  | .middle => .otherMouseDown

/-- `up_type`. -/
def upType : MouseButton → CGEventType
  | .left => .leftMouseUp
  | .right => .rightMouseUp
  | .middle => .otherMouseUp

/-- `approach_point`. -/
def approachPoint (point : Point) : Point where
  x := F64.map₂ (fun x offset => x + offset) point.x
    (.finite (if point.x.finiteAnd (fun x => -999999 < x) then -1 else 1))
  y := point.y

/-- `pointer_position_matches`. -/
def pointerPositionMatches (observed requested : Point) : Bool :=
  let near (a b : ℚ) : Bool := a - b ≤ 1 / 2 && b - a ≤ 1 / 2
  F64.both near observed.x requested.x && F64.both near observed.y requested.y

/-- `pointer_position_error`. -/
def pointerPositionError (observed requested : Point) (delivery : DeliveryTracker) :
    AdapterError :=
  delivery.annotate ((AdapterError.new .actionFailed
    "Physical pointer did not reach the requested position").withDetails
      (.obj [("requested", requested.toJson), ("observed", observed.toJson)]))

/-- `ClickSpec`. -/
structure ClickSpec where
  point : Point
  button : MouseButton
  count : ℕ
  /-- The flags of the modifiers. -/
  flags : UInt64

namespace InputWorld

variable {σ : Type} (world : InputWorld σ)

/-! ## Moving -/

/-- The loop of `verify_position`. -/
def verifyPositionLoop (requested : Point) (deadline : Deadline) (verificationEnd : ℕ)
    (delivery : DeliveryTracker) : ℕ → InputProg σ AdapterError Unit
  | 0 => Prog.cutOff
  | fuel + 1 => do
    match ← (Prog.ask world.pointerLocation : InputProg σ AdapterError _) with
    | none => Prog.fail (delivery.annotate
        (.internal "Failed to read the current pointer position"))
    | some observed =>
      if pointerPositionMatches observed requested then return ()
      else
        let now ← Prog.ask world.clock
        if verificationEnd ≤ now then
          Prog.fail (pointerPositionError observed requested delivery)
        else
          world.sleepBounded deadline (5 * nanosPerMs) delivery
          verifyPositionLoop requested deadline verificationEnd delivery fuel

/-- `verify_position`. -/
def verifyPosition (fuel : ℕ) (requested : Point) (deadline : Deadline)
    (delivery : DeliveryTracker) : InputProg σ AdapterError Unit := do
  let now ← Prog.ask world.clock
  world.verifyPositionLoop requested deadline (now + 100 * nanosPerMs) delivery fuel

/-- One of the two moves of `post_move_events`. -/
def postMove (position : Point) (button : CGMouseButton) (flags : UInt64) (deadline : Deadline)
    (delivery : DeliveryTracker) : InputProg σ AdapterError DeliveryTracker := do
  world.ensureBudget deadline delivery
  let event ← Prog.mapError delivery.annotate
    (world.createEventWithSource ⟨.mouseMoved, position, button, flags, none⟩)
  post (.pointer event)
  let delivery := delivery.markDelivered
  world.sleepBounded deadline (10 * nanosPerMs) delivery
  return delivery

/-- `post_move_events`: the tracker it leaves. -/
def postMoveEvents (fuel : ℕ) (point : Point) (button : CGMouseButton) (flags : UInt64)
    (deadline : Deadline) (delivery : DeliveryTracker) :
    InputProg σ AdapterError DeliveryTracker := do
  Prog.mapError delivery.annotate world.eventSource
  let delivery ← world.postMove (approachPoint point) button flags deadline delivery
  let delivery ← world.postMove point button flags deadline delivery
  world.verifyPosition fuel point deadline delivery
  return delivery

/-! ## Clicking -/

/-- `ClickReleaseGuard`, when the button is down. -/
def clickReleaseGuard (up : PointerEvent) : ReleaseGuard := ⟨some (.pointer up)⟩

/-- One of the clicks of `synthesize_click`, and the pause before the next one. -/
def clickOnce (spec : ClickSpec) (deadline : Deadline)
    (verifyTarget : σ → Except AdapterError Unit × σ) (i : ℕ) (delivery : DeliveryTracker) :
    InputProg σ AdapterError DeliveryTracker := do
  let button := toCgButton spec.button
  world.ensureBudget deadline delivery
  let down ← Prog.mapError delivery.annotate
    (world.createEvent ⟨downType spec.button, spec.point, button, spec.flags, none⟩)
  let up ← Prog.mapError delivery.annotate
    (world.createEvent ⟨upType spec.button, spec.point, button, spec.flags, none⟩)
  let down := { down with clickCount := some i }
  let up := { up with clickCount := some i }
  world.ensureBudget deadline delivery
  Prog.mapError delivery.annotate (Prog.call verifyTarget)
  post (.pointer down)
  let delivery := delivery.markDelivered
  guarded (clickReleaseGuard up) (fun release => do
    Prog.mapError (·, release) (world.sleepBounded deadline (10 * nanosPerMs) delivery)
    let release ← takeRelease (delivery.annotate
      (.internal "Mouse click release guard lost its pending event")) release
    let delivery ← Prog.mapError (·, release) (do
      world.ensureBudget deadline delivery
      if i < spec.count then world.sleepBounded deadline (30 * nanosPerMs) delivery
      return delivery)
    return (delivery, release))

/-- **A click has its release pending** while the button is down. -/
theorem clickOnce_eq (spec : ClickSpec) (deadline : Deadline)
    (verifyTarget : σ → Except AdapterError Unit × σ) (i : ℕ) (delivery : DeliveryTracker) :
    world.clickOnce spec deadline verifyTarget i delivery = (do
      world.ensureBudget deadline delivery
      let down ← Prog.mapError delivery.annotate (world.createEvent
        ⟨downType spec.button, spec.point, toCgButton spec.button, spec.flags, none⟩)
      let up ← Prog.mapError delivery.annotate (world.createEvent
        ⟨upType spec.button, spec.point, toCgButton spec.button, spec.flags, none⟩)
      world.ensureBudget deadline delivery
      Prog.mapError delivery.annotate (Prog.call verifyTarget)
      post (.pointer { down with clickCount := some i })
      releasing (.pointer { up with clickCount := some i })
        (world.sleepBounded deadline (10 * nanosPerMs) delivery.markDelivered)
      world.ensureBudget deadline delivery.markDelivered
      if i < spec.count then
        world.sleepBounded deadline (30 * nanosPerMs) delivery.markDelivered
      return delivery.markDelivered) := by
  unfold clickOnce
  simp only [clickReleaseGuard, guarded_eq_releasing]

/-- The loop of `synthesize_click`, with the clicks that are left. -/
def clickLoop (spec : ClickSpec) (deadline : Deadline)
    (verifyTarget : σ → Except AdapterError Unit × σ) :
    ℕ → DeliveryTracker → InputProg σ AdapterError DeliveryTracker
  | 0, delivery => return delivery
  | left + 1, delivery => do
    let delivery ← world.clickOnce spec deadline verifyTarget (spec.count - left) delivery
    clickLoop spec deadline verifyTarget left delivery

/-- `synthesize_click`. -/
def synthesizeClick (fuel : ℕ) (spec : ClickSpec) (deadline : Deadline)
    (verifyTarget : σ → Except AdapterError Unit × σ) : InputProg σ AdapterError Unit := do
  let _ ← (do
    let delivery ← world.postMoveEvents fuel spec.point (toCgButton spec.button) spec.flags
      deadline .empty
    world.clickLoop spec deadline verifyTarget spec.count delivery)
  return ()

/-- `synthesize_mouse_after`, for a click. -/
def synthesizeMouseClick (fuel : ℕ) (spec : ClickSpec) (deadline : Deadline)
    (verifyTarget : σ → Except AdapterError Unit × σ) : InputProg σ AdapterError Unit := do
  Prog.ofExcept (validateMousePoint spec.point)
  world.ensureBudget deadline .empty
  Prog.ofExcept (validateMouseClickCount spec.count)
  world.synthesizeClick fuel spec deadline verifyTarget

end InputWorld

/-! ## The guard of a drag -/

/-- `DragDeliveryState`. -/
structure DragDeliveryState where
  /-- Whether the button has to be released. -/
  armed : Bool
  delivery : DeliveryTracker

namespace DragDeliveryState

/-- `arm`. -/
def arm (state : DragDeliveryState) : DragDeliveryState := { state with armed := true }

/-- `mark_down_posted`. -/
def markDownPosted (state : DragDeliveryState) : DragDeliveryState :=
  { state with delivery := state.delivery.markDelivered }

/-- `disarm`. -/
def disarm (state : DragDeliveryState) : DragDeliveryState := { state with armed := false }

/-- `should_release`. -/
def shouldRelease (state : DragDeliveryState) : Bool := state.armed

/-- `enrich_error`. -/
def enrichError (state : DragDeliveryState) (error : AdapterError) : AdapterError :=
  let error := state.delivery.annotate error
  if state.delivery.deliveredUnits = 0 then error
  else
    let details := (error.details.getD (.obj [])).insert "delivered_events"
      (.num state.delivery.deliveredUnits)
    let details := if state.armed then
        (details.insert "emergency_release_posted" (.bool true)).insert
          "emergency_release_acknowledged" (.bool false)
      else details
    (error.withDetails details).withSuggestion (if state.armed then
        "Inspect the source and destination before retrying; the emergency release was posted without an OS acknowledgement"
      else
        "Inspect the source and destination before retrying; the normal release was posted without an OS acknowledgement")

/-- **What a drag reports after a post does not say that nothing was delivered.** -/
theorem disposition_enrichError {state : DragDeliveryState}
    (h : 0 < state.delivery.deliveredUnits) (error : AdapterError) :
    (state.enrichError error).disposition ≠ .notDelivered := by
  unfold enrichError
  rw [if_neg h.ne']
  exact DeliveryTracker.disposition_annotate_of_delivered h error

end DragDeliveryState

/-- `DragReleaseGuard`. -/
structure DragReleaseGuard where
  /-- The drag back to the origin. -/
  abortDrag : PointerEvent
  abortUp : PointerEvent
  /-- The release at the goal, until it is posted. -/
  destinationUp : Option PointerEvent
  /-- What was posted, and whether the button is down. -/
  delivery : DragDeliveryState

namespace DragReleaseGuard

/-- The tracker of a guard replaced. -/
def withTracker (guard : DragReleaseGuard) (tracker : DeliveryTracker) : DragReleaseGuard :=
  { guard with delivery := { guard.delivery with delivery := tracker } }

end DragReleaseGuard

/-! ## Dragging -/

/-- `DEFAULT_DURATION_MS`. -/
def dragDefaultDurationMs : ℕ := 300

/-- `PICKUP_DELAY_MS`. -/
def pickupDelayMs : ℕ := 200

/-- `DEFAULT_DROP_DELAY_MS`. -/
def defaultDropDelayMs : ℕ := 500

/-- `DWELL_TICK_MS`. -/
def dwellTickMs : ℕ := 16

/-- `MAX_STEPS`. -/
def mouseDragMaxSteps : ℕ := 4096

/-- `MAX_DRAG_MS`. -/
def maxDragMs : ℕ := 60000

/-- `MAX_DROP_DELAY_MS`. -/
def maxDropDelayMs : ℕ := 30000

/-- A left-button event without flags. -/
def leftEvent (eventType : CGEventType) (point : Point) : PointerEvent :=
  ⟨eventType, point, .left, 0, none⟩

/-- `validate_drag`. -/
def validateDrag (params : DragParams) : Except AdapterError Unit := do
  validateMousePoint params.fromPoint
  validateMousePoint params.toPoint
  if params.durationMs.any (fun value => maxDragMs < value) then
    throw (.new .invalidArgs "Drag duration must not exceed 60000ms")
  if params.dropDelayMs.any (fun value => maxDropDelayMs < value) then
    throw (.new .invalidArgs "Drag drop delay must not exceed 30000ms")

/-- `preflight_drag`, at a time; what is valid does not overflow. -/
def preflightDrag (params : DragParams) (deadline : Deadline) (now : ℕ) :
    Except AdapterError Unit :=
  let requiredMs := pickupDelayMs + params.durationMs.getD dragDefaultDurationMs
    + params.dropDelayMs.getD defaultDropDelayMs
  let remaining := deadline.remaining now
  if remaining < requiredMs * nanosPerMs then
    .error (DeliveryTracker.empty.annotate
      ((AdapterError.timeout "Drag cannot complete within the remaining deadline").withDetails
        (.obj [("physical_delivery_started", .bool false), ("required_ms", .num requiredMs),
          ("remaining_ms", .num ↑(remaining / nanosPerMs))])))
  else .ok ()

namespace InputWorld

variable {σ : Type} (world : InputWorld σ) (arithmetic : DragArithmetic)

/-- `post_event_with_source`: a failure comes with the tracker as it was left. -/
def postEventWithSource (event : PointerEvent) (deadline : Deadline)
    (delivery : DeliveryTracker) :
    InputProg σ (AdapterError × DeliveryTracker) DeliveryTracker := do
  Prog.mapError (·, delivery) (world.ensureBudget deadline delivery)
  let event ← Prog.mapError (fun error => (delivery.annotate error, delivery))
    (world.createEventWithSource event)
  post (.pointer event)
  let delivery := delivery.markDelivered
  Prog.mapError (·, delivery) (world.ensureBudget deadline delivery)
  return delivery

/-- A drag event and the pause after it. -/
def dragTo (point : Point) (pause : ℕ) (deadline : Deadline) (delivery : DeliveryTracker) :
    InputProg σ (AdapterError × DeliveryTracker) DeliveryTracker := do
  let delivery ← world.postEventWithSource (leftEvent .leftMouseDragged point) deadline delivery
  Prog.mapError (·, delivery) (world.sleepBounded deadline pause delivery)
  return delivery

/-- The steps of a drag, with the number of those that are left. -/
def dragSteps (params : DragParams) (steps stepDelay : ℕ) (deadline : Deadline) :
    ℕ → DeliveryTracker → InputProg σ (AdapterError × DeliveryTracker) DeliveryTracker
  | 0, delivery => return delivery
  | left + 1, delivery => do
    let delivery ← world.dragTo (arithmetic.dragPoint params (steps - left) steps) stepDelay
      deadline delivery
    dragSteps params steps stepDelay deadline left delivery

/-- `dwell_over_destination`. -/
def dwellOverDestination (destination : Point) (deadline : Deadline) (remainingMs : ℕ)
    (delivery : DeliveryTracker) : InputProg σ (AdapterError × DeliveryTracker) DeliveryTracker :=
  if _h : remainingMs = 0 then return delivery
  else do
    let tickMs := min remainingMs dwellTickMs
    let delivery ← world.dragTo destination (tickMs * nanosPerMs) deadline delivery
    dwellOverDestination destination deadline (remainingMs - min remainingMs dwellTickMs) delivery
termination_by remainingMs
decreasing_by
  unfold dwellTickMs
  omega

/-- `DragReleaseGuard::prepare`. -/
def prepareDragGuard (origin destination : Point) : InputProg σ AdapterError DragReleaseGuard := do
  let abortDrag ← world.createEventWithSource (leftEvent .leftMouseDragged origin)
  let abortUp ← world.createEventWithSource (leftEvent .leftMouseUp origin)
  let destinationUp ← world.createEventWithSource (leftEvent .leftMouseUp destination)
  return ⟨abortDrag, abortUp, some destinationUp, ⟨false, .empty⟩⟩

/-- `release_at_destination`. -/
def releaseAtDestination (deadline : Deadline) (guard : DragReleaseGuard) :
    InputProg σ (AdapterError × DragReleaseGuard) DragReleaseGuard := do
  Prog.mapError (·, guard) (world.ensureBudget deadline guard.delivery.delivery)
  match guard.destinationUp with
  | none => Prog.fail (.internal "Drag release guard lost its destination event", guard)
  | some event =>
    post (.pointer event)
    let guard := { guard with destinationUp := none, delivery := guard.delivery.disarm }
    Prog.mapError (·, guard) (world.ensureBudget deadline guard.delivery.delivery)
    return guard

/-- The moves of `drag_sequence`, along its path and over its goal. -/
def dragMoves (params : DragParams) (deadline : Deadline) (delivery : DeliveryTracker) :
    InputProg σ (AdapterError × DeliveryTracker) DeliveryTracker := do
  let durationMs := params.durationMs.getD dragDefaultDurationMs
  let steps := min (max ((durationMs + (dwellTickMs - 1)) / dwellTickMs) 1) mouseDragMaxSteps
  let delivery ← world.dragSteps arithmetic params steps (arithmetic.stepDelay durationMs steps)
    deadline steps delivery
  world.dwellOverDestination params.toPoint deadline (params.dropDelayMs.getD defaultDropDelayMs)
    delivery

/-- The closure of `drag_sequence`: what happens while the guard is there. A failure comes with
the guard as it was left. -/
def dragBody (params : DragParams) (deadline : Deadline) (guard : DragReleaseGuard) :
    InputProg σ (AdapterError × DragReleaseGuard) DragReleaseGuard := do
  let delivery := guard.delivery.delivery
  Prog.mapError (·, guard) (world.ensureBudget deadline delivery)
  Prog.mapError (·, guard) (world.sleepBounded deadline (pickupDelayMs * nanosPerMs) delivery)
  let delivery ← Prog.mapError (fun failure => (failure.1, guard.withTracker failure.2))
    (world.dragMoves arithmetic params deadline delivery)
  world.releaseAtDestination deadline (guard.withTracker delivery)

/-- `DragReleaseGuard::drop`. -/
def dropDragGuard {ε : Type} (guard : DragReleaseGuard) : InputProg σ ε Unit :=
  if guard.delivery.shouldRelease then do
    post (.pointer guard.abortDrag)
    post (.pointer guard.abortUp)
  else return ()

/-- `drag_sequence`. -/
def dragSequence (params : DragParams) (deadline : Deadline) : InputProg σ AdapterError Unit := do
  let preDelivery := DeliveryTracker.empty
  Prog.mapError preDelivery.annotate world.eventSource
  let down ← Prog.mapError preDelivery.annotate
    (world.createEventWithSource (leftEvent .leftMouseDown params.fromPoint))
  let guard ← Prog.mapError preDelivery.annotate
    (world.prepareDragGuard params.fromPoint params.toPoint)
  world.ensureBudget deadline preDelivery
  let guard := { guard with delivery := guard.delivery.arm }
  post (.pointer down)
  let guard := { guard with delivery := guard.delivery.markDownPosted }
  match ← (Prog.attempt (world.dragBody arithmetic params deadline guard) :
      InputProg σ AdapterError _) with
  | .ok guard => dropDragGuard guard
  | .error (error, guard) =>
    let error := guard.delivery.enrichError error
    dropDragGuard guard
    Prog.fail error

/-- `synthesize_drag`. -/
def synthesizeDrag (params : DragParams) (deadline : Deadline) :
    InputProg σ AdapterError Unit := do
  Prog.ofExcept (validateDrag params)
  let now ← Prog.ask world.clock
  Prog.ofExcept (preflightDrag params deadline now)
  world.dragSequence arithmetic params deadline

end InputWorld

end AgentDesktop
