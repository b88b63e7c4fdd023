import AgentDesktop.HitTest
import AgentDesktop.Scroll

/-!
# Scrolling into view

An element is asked to scroll itself to where it is visible, and is looked at for a while. If
nothing of it has moved by then, the request counts as one that was not delivered, and the
ancestors are scrolled instead: one step at a time in the direction in which the element lies,
until it lies in its viewport. An element is visible if what its ancestors leave of its bounds has
an area.

The calls, the looks at the element and the scrolls of its ancestors are recorded.
-/

namespace AgentDesktop

/-- What is recorded of scrolling into view. -/
inductive ViewEvent (σ E : Type)
  /-- What is recorded of the request to the element. -/
  | toVisible (event : ScrollEvent σ E)
  /-- A look at the element: what is visible of it. -/
  | checked (area : Option Rect)
  /-- The bounds before the request, and at the end of the time to look. -/
  | settled (before after : Option Rect)
  /-- The scroll of an ancestor: how it ended, and what it recorded. -/
  | scrolled (outcome : Outcome AdapterError (StepMechanism × Bool))
    (events : List (ScrollEvent σ E))

/-- What scrolling into view asks for beside scrolling. -/
structure IntoViewWorld (σ E : Type) extends ScrollWorld σ E where
  /-- What a hit test asks for. -/
  hit : HitWorld σ E
  /-- `surface_read::element`. -/
  surfaceElement : E → String → ℕ → σ → Except AdapterError (Option E) × σ
  sleep : ℕ → σ → Unit × σ

namespace IntoView

/-! ## Geometry -/

/-- `MAX_ANCESTOR_SCROLLS`. -/
def maxAncestorScrolls : ℕ := 10

/-- `rect_has_area`. -/
def rectHasArea (rect : Rect) : Bool :=
  rect.x.finiteAnd (fun _ => true) && rect.y.finiteAnd (fun _ => true) && rect.hasArea

/-- `direction_for_visibility`. -/
def directionForVisibility (target viewport : Rect) : Option Direction :=
  if F64.both (fun a b => a < b) target.y viewport.y then some .up
  else if F64.both (fun a b => b < a) (F64.map₂ (· + ·) target.y target.height)
      (F64.map₂ (· + ·) viewport.y viewport.height) then some .down
  else if F64.both (fun a b => a < b) target.x viewport.x then some .left
  else if F64.both (fun a b => b < a) (F64.map₂ (· + ·) target.x target.width)
      (F64.map₂ (· + ·) viewport.x viewport.width) then some .right
  else none

/-- `scroll_effect_observed`. -/
def scrollEffectObserved [BoundsHasher] : Option Rect → Option Rect → Bool
  | some before, some after => before.boundsHash != after.boundsHash
  | none, none => false
  | some _, none | none, some _ => true

/-! ## Errors -/

/-- `after_delivery`. -/
def afterDelivery (error : AdapterError) : AdapterError := error.withDisposition .deliveredUnverified

/-- `unverified_scroll_error`. -/
def unverifiedScrollError : AdapterError :=
  ((AdapterError.new .actionFailed
    "AXScrollToVisible completed but target visibility was not verified").withDisposition
      .deliveredUnverified).withSuggestion
        "Inspect target visibility before deciding whether to scroll again."

/-- The time to look at the element is over for the whole operation. -/
def visibilityNotObserved : Json :=
  .obj [("verification", .str "scroll_visibility_not_observed")]

/-- `settled_scroll_outcome`. -/
def settledScrollOutcome [BoundsHasher] (before : Option Rect)
    (after : Except AdapterError (Option Rect)) : Except AdapterError DeliveryOutcome :=
  match after with
  | .error error => .error (afterDelivery error)
  | .ok after =>
    if scrollEffectObserved before after then .error unverifiedScrollError else .ok .notDelivered

/-- `require_window`. -/
def requireWindow {E : Type} : Option E → Except AdapterError E
  | some window => .ok window
  | none => .error (.new .actionFailed
      "Target window is unavailable; visibility cannot be verified")

/-- The element lies in its viewport and cannot be seen. -/
def remainsClipped : AdapterError :=
  .new .actionFailed "Target remains clipped or its visible bounds are unknown"

/-- There is no ancestor. -/
def noAncestorToScroll : AdapterError := .new .actionNotSupported "Target has no ancestor to scroll"

/-- The ancestors were scrolled as often as they may be. -/
def notBroughtIntoView : AdapterError :=
  (AdapterError.new .actionFailed
    "Semantic ancestor scrolling did not bring the target into view").withDisposition
      .deliveredUnverified

end IntoView

/-! ## The run -/

namespace IntoViewWorld

open IntoView

variable {σ E : Type} (world : IntoViewWorld σ E) (arithmetic : ScrollArithmetic)

/-- A program that scrolls into view. -/
abbrev Viewing (σ E α : Type) : Type := Prog σ (ViewEvent σ E) AdapterError α

/-- `locator_deadline::from_operation`. -/
def fromOperation (deadline : Deadline) : Viewing σ E ℕ := do
  let now ← Prog.ask world.clock
  if deadline.remaining now = 0 then Prog.fail (deadline.timeoutError now)
  else return (← Prog.ask world.clock) + deadline.remaining now

/-- `read_bounds_with_deadline`. -/
def readBounds (element : E) (instant : ℕ) : Viewing σ E (Option Rect) :=
  (world.hit.readBounds element instant).unrecorded

/-- `element_bounds`. -/
def elementBounds (element : E) (deadline : Deadline) : Viewing σ E (Option Rect) := do
  let instant ← world.fromOperation deadline
  world.readBounds element instant

/-- `scroll_read::element`. -/
def readRelated (element : E) (name : String) (deadline : Deadline) : Viewing σ E (Option E) :=
  (world.readElement element name deadline).unrecorded

/-- `visible_bounds_ax_element`. -/
def visibleBounds (element : E) (deadline : Deadline) : Viewing σ E (Option Rect) := do
  let instant ← world.fromOperation deadline
  (world.hit.clippedBounds element instant).unrecorded

/-- What `visible_through_ancestors` sees of an element. -/
def visibleArea (element : E) (deadline : Deadline) : Viewing σ E (Option Rect) := do
  let window ← world.readRelated element "AXWindow" deadline
  if window.isNone then return none else world.visibleBounds element deadline

/-- `visible_through_ancestors`; what is seen is recorded. -/
def visibleThroughAncestors (element : E) (deadline : Deadline) : Viewing σ E Bool := do
  let area ← world.visibleArea element deadline
  Prog.emit (.checked area)
  return area.any rectHasArea

/-- The end of the time to look, in `scroll_to_verified`. -/
def settle [BoundsHasher] (element : E) (before : Option Rect) (deadline : Deadline) :
    Viewing σ E DeliveryOutcome := do
  match ← (world.elementBounds element deadline).attempt with
  | .error error => Prog.fail (afterDelivery error)
  | .ok after => do
    Prog.emit (.settled before after)
    Prog.ofExcept (settledScrollOutcome before (.ok after))

/-- The loop of `scroll_to_verified`. -/
def visibleLoop [BoundsHasher] (element : E) (before : Option Rect) (deadline : Deadline)
    (localEnd : ℕ) : ℕ → Viewing σ E DeliveryOutcome
  | 0 => Prog.cutOff
  | fuel + 1 => do
    let visible ← (world.visibleThroughAncestors element deadline).mapError afterDelivery
    if visible then return .deliveredVerified
    else do
      let now ← Prog.ask world.clock
      if deadline.isExpired now then
        Prog.fail (afterDelivery ((deadline.timeoutError now).withDetails visibilityNotObserved))
      else do
        let now ← Prog.ask world.clock
        if localEnd ≤ now then world.settle element before deadline
        else do
          let now ← Prog.ask world.clock
          let pause ← Prog.ofExcept
            ((deadline.remainingSlice now (20 * nanosPerMs)).mapError afterDelivery)
          Prog.ask (world.sleep (min pause (20 * nanosPerMs)))
          visibleLoop element before deadline localEnd fuel

/-- What follows a request that was accepted, in `scroll_to_verified`. -/
def lookForEffect [BoundsHasher] (element : E) (before : Option Rect) (deadline : Deadline)
    (fuel : ℕ) : Viewing σ E DeliveryOutcome := do
  let now ← Prog.ask world.clock
  world.visibleLoop element before deadline (now + 800 * nanosPerMs) fuel

/-- `scroll_to_verified`. -/
def scrollToVerified [BoundsHasher] (element : E) (deadline : Deadline) (fuel : ℕ) :
    Viewing σ E DeliveryOutcome := do
  Prog.call (world.setMessagingTimeout element deadline)
  let before ← world.elementBounds element deadline
  let accepted ← (world.tryAxActionOrErr element "AXScrollToVisible" deadline).mapEvents .toVisible
  if accepted then world.lookForEffect element before deadline fuel else return .notDelivered

/-- The viewport of an element, in `direction_to_viewport`. -/
def viewportOf (element : E) (deadline : Deadline) (instant : ℕ) : Viewing σ E E := do
  match ← (world.findScrollArea element deadline).unrecorded with
  | some viewport => return viewport
  | none => do
    let window ← Prog.call (world.surfaceElement element "AXWindow" instant)
    Prog.ofExcept (requireWindow window)

/-- `direction_to_viewport`. -/
def directionToViewport (element : E) (deadline : Deadline) : Viewing σ E (Option Direction) := do
  let instant ← world.fromOperation deadline
  match ← world.readBounds element instant with
  | none => Prog.fail (.new .actionFailed "Target has no bounds")
  | some bounds => do
    let viewport ← world.viewportOf element deadline instant
    match ← world.readBounds viewport instant with
    | none => Prog.fail (.new .actionFailed "Target viewport has no bounds")
    | some viewportBounds => return directionForVisibility bounds viewportBounds

/-- The end of `scroll_ancestor_until_visible`, where the element lies in its viewport. -/
def finishInViewport (element : E) (deadline : Deadline) (attempt : ℕ)
    (delivery : DeliveryTracker) : Viewing σ E DeliveryOutcome := do
  let visible ← (world.visibleThroughAncestors element deadline).mapError delivery.annotate
  if visible then
    return if attempt = 0 then .satisfiedNoDelivery else .deliveredVerified
  else Prog.fail (delivery.annotate remainsClipped)

/-- The scroll of an ancestor, which is recorded. -/
def scrollParent (parent : E) (direction : Direction) (deadline : Deadline) :
    Viewing σ E (StepMechanism × Bool) :=
  (world.axScroll arithmetic parent direction 1 .headless deadline).boxed .scrolled

/-- The loop of `scroll_ancestor_until_visible`, with the number of attempts that are left. -/
def scrollAncestorFrom (element : E) (deadline : Deadline) :
    ℕ → ℕ → DeliveryTracker → Viewing σ E DeliveryOutcome
  | 0, _, _ => Prog.fail notBroughtIntoView
  | left + 1, attempt, delivery => do
    match ← (world.directionToViewport element deadline).mapError delivery.annotate with
    | none => world.finishInViewport element deadline attempt delivery
    | some direction => do
      match ← (world.readRelated element "AXParent" deadline).mapError delivery.annotate with
      | none => Prog.fail (delivery.annotate noAncestorToScroll)
      | some parent => do
        let _ ← (world.scrollParent arithmetic parent direction deadline).mapError delivery.annotate
        scrollAncestorFrom element deadline left (attempt + 1) delivery.markDelivered

/-- `scroll_ancestor_until_visible`. -/
def scrollAncestorUntilVisible (element : E) (deadline : Deadline) :
    Viewing σ E DeliveryOutcome :=
  world.scrollAncestorFrom arithmetic element deadline maxAncestorScrolls 0 .empty

/-- **`scroll_into_view_outcome`.** -/
def scrollIntoViewOutcome [BoundsHasher] (element : E) (deadline : Deadline) (fuel : ℕ) :
    Viewing σ E DeliveryOutcome := do
  match ← world.scrollToVerified element deadline fuel with
  | .satisfiedNoDelivery => return .satisfiedNoDelivery
  | .deliveredVerified => return .deliveredVerified
  | .notDelivered | .deliveredWithoutEffect =>
    world.scrollAncestorUntilVisible arithmetic element deadline
  | .deliveredUnverified => Prog.fail unverifiedScrollError

end IntoViewWorld

end AgentDesktop
