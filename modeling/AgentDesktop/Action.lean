import AgentDesktop.Capability
import AgentDesktop.Deadline
import AgentDesktop.Evidence
import AgentDesktop.State

/-!
# Actions

What can be done to an element, under which policy, and what is reported when it
was done. The tables of the source – which actions are read back, which need a
pointer, which bring their target into view – are functions on the actions.
-/

namespace AgentDesktop

/-- `Direction`. -/
inductive Direction
  | up | down | left | right
  deriving DecidableEq

/-- `Modifier`. -/
inductive Modifier
  | metaKey | ctrl | alt | shift
  deriving DecidableEq

/-- `KeyCombo`. -/
structure KeyCombo where
  key : String
  /-- The modifiers held with it. -/
  modifiers : List Modifier
  deriving DecidableEq

/-- `DragParams`. -/
structure DragParams where
  /-- Where the drag begins. -/
  fromPoint : Point
  toPoint : Point
  durationMs : Option ℕ
  /-- How long the pointer rests before the drop. -/
  dropDelayMs : Option ℕ
  deriving DecidableEq

/-- `Action`. -/
inductive Action
  | click | doubleClick | rightClick | tripleClick
  | setValue (value : String)
  | setFocus | expand | collapse
  | select (value : String)
  | toggle | check | uncheck
  | scroll (direction : Direction) (amount : ℕ)
  | scrollTo
  | pressKey (combo : KeyCombo)
  | keyDown (combo : KeyCombo)
  | keyUp (combo : KeyCombo)
  | typeText (text : String)
  | clear | hover
  | drag (params : DragParams)
  deriving DecidableEq

/-- `InteractionPolicy`. -/
structure InteractionPolicy where
  /-- Whether the focus may be taken. -/
  allowFocusSteal : Bool
  /-- Whether the cursor may be moved. -/
  allowCursorMove : Bool
  deriving DecidableEq

namespace InteractionPolicy

def headless : InteractionPolicy := ⟨false, false⟩
def focusFallback : InteractionPolicy := ⟨true, false⟩
def headed : InteractionPolicy := ⟨true, true⟩

/-- `is_headed`. -/
def isHeaded (policy : InteractionPolicy) : Bool :=
  policy.allowFocusSteal && policy.allowCursorMove

end InteractionPolicy

/-- `policy_denied_suggestion`. -/
def policyDeniedSuggestion (policy : InteractionPolicy) : String :=
  if policy.allowFocusSteal && !policy.allowCursorMove then
    "Enable cursor movement in the interaction policy to permit cursor-driven actions (CLI: --headed; FFI: set allow_cursor_move in the policy), or use an explicit mouse command if physical input is intended"
  else if !policy.allowFocusSteal && !policy.allowCursorMove then
    "Headless mode allows only accessibility-backed actions; enable physical interaction in the policy (CLI: --headed) only if cursor/focus movement is intended, otherwise refresh the snapshot or target an element with the needed semantic action"
  else "Use an explicit mouse/focus command if physical interaction is intended"

/-- `AdapterError::policy_denied_for_policy`. -/
def AdapterError.policyDeniedForPolicy (message : String) (policy : InteractionPolicy) :
    AdapterError :=
  ((AdapterError.new .policyDenied message).withSuggestion
    (policyDeniedSuggestion policy)).withDisposition .notDelivered

/-- `HeadedRequirement`. -/
inductive HeadedRequirement
  | none | focusedWindow | focusedWindowAndCursor
  deriving DecidableEq

namespace HeadedRequirement

/-- `requires_focus`. -/
def requiresFocus (requirement : HeadedRequirement) : Bool := requirement != none

/-- `requires_cursor`. -/
def requiresCursor (requirement : HeadedRequirement) : Bool :=
  requirement == focusedWindowAndCursor

end HeadedRequirement

namespace Action

/-- `Action::headed_requirement`. -/
def headedRequirement : Action → HeadedRequirement
  | click | doubleClick | rightClick | tripleClick | scroll _ _ | hover | drag _ =>
    .focusedWindowAndCursor
  | setValue _ | setFocus | expand | collapse | select _ | toggle | check | uncheck
  | scrollTo | pressKey _ | keyDown _ | keyUp _ | typeText _ | clear => .focusedWindow

/-- `Action::name`. -/
def name : Action → String
  | click => "click"
  | doubleClick => "double-click"
  | rightClick => "right-click"
  | tripleClick => "triple-click"
  | setValue _ => "set-value"
  | setFocus => "focus"
  | expand => "expand"
  | collapse => "collapse"
  | select _ => "select"
  | toggle => "toggle"
  | check => "check"
  | uncheck => "uncheck"
  | scroll _ _ => "scroll"
  | scrollTo => "scroll-to"
  | pressKey _ => "press"
  | keyDown _ => "key-down"
  | keyUp _ => "key-up"
  | typeText _ => "type"
  | clear => "clear"
  | hover => "hover"
  | drag _ => "drag"

/-- `writes_element_value`. -/
def writesElementValue : Action → Bool
  | setValue _ | clear | typeText _ => true
  | _ => false

/-- `requires_state_readback`. -/
def requiresStateReadback (action : Action) : Bool :=
  action.writesElementValue ||
    (match action with
      | check | uncheck | toggle | expand | collapse => true
      | _ => false)

/-- `requires_cursor_policy`. -/
def requiresCursorPolicy : Action → Bool
  | hover | drag _ => true
  | _ => false

/-- `requires_hit_test`. -/
def requiresHitTest : Action → Bool
  | click | doubleClick | rightClick | tripleClick | hover | drag _ => true
  | _ => false

/-- `may_raise_surface`. -/
def mayRaiseSurface : Action → Bool
  | click | doubleClick | rightClick | tripleClick | expand | select _ | pressKey _ => true
  | _ => false

/-- `requires_scroll_into_view`. -/
def requiresScrollIntoView : Action → Bool
  | click | doubleClick | rightClick | tripleClick | setValue _ | expand | collapse
  | select _ | toggle | check | uncheck | typeText _ | clear | hover | drag _
  | scroll _ _ => true
  | _ => false

/-- `may_use_focus_fallback`. -/
def mayUseFocusFallback : Action → Bool
  | typeText _ | pressKey _ => true
  | _ => false

end Action

/-! ## Capabilities for actions -/

namespace Capability

/-- `capability::for_action`. -/
def forAction : Action → List String
  | .click | .doubleClick | .tripleClick => [click]
  | .rightClick => [rightClick]
  | .setValue _ | .clear => [setValue]
  | .setFocus => [setFocus]
  | .expand => [expand]
  | .collapse => [collapse]
  | .select _ => [select, click]
  | .toggle | .check | .uncheck => [toggle, click]
  | .scroll _ _ => [scroll]
  | .scrollTo => [scrollTo]
  | .pressKey _ => [pressKey]
  | .keyDown _ => [keyDown]
  | .keyUp _ => [keyUp]
  | .typeText _ => [typeText]
  | .hover => [hover]
  | .drag _ => [drag]

/-- `supports_direct_semantic_pointer_delivery`. -/
def supportsDirectSemanticPointerDelivery (action : Action) (availableActions : List String) :
    Bool :=
  match action with
  | .click => contains availableActions click
  | .rightClick => contains availableActions rightClick
  | _ => false

end Capability

/-! ## Requests -/

/-- `ProcessIdentity`. -/
structure ProcessIdentity where
  pid : ProcessId
  processInstance : String
  deriving DecidableEq

/-- `ActionRequest`. -/
structure ActionRequest where
  action : Action
  /-- What may be disturbed for it. -/
  policy : InteractionPolicy
  /-- How long to wait for the target, in milliseconds. -/
  timeoutMs : Option ℕ
  /-- The point the preflight found to reach the target. -/
  verifiedPoint : Option Point
  /-- The process the target belongs to. -/
  expectedProcess : Option ProcessIdentity
  deriving DecidableEq

/-- `ActionRequest::headed_requirement`. -/
def ActionRequest.headedRequirement (request : ActionRequest) : HeadedRequirement :=
  if request.policy.isHeaded then request.action.headedRequirement else .none

/-- Whether the caller waits for the target. -/
def ActionRequest.waits (request : ActionRequest) : Bool :=
  request.timeoutMs.any (fun timeoutMs => 0 < timeoutMs)

/-! ## What is observed of a live element -/

/-- `LiveIdentity`. -/
structure LiveIdentity where
  name : LocatorField String
  description : LocatorField String
  /-- The native identifiers. -/
  identifiers : IdentifierEvidence

/-- `ElementState`. -/
structure ElementState where
  role : String
  states : List String
  value : Option String
  /-- Whether it is enabled, where known. -/
  enabled : Option Bool
  /-- Whether it is hidden, where known. -/
  hidden : Option Bool
  /-- Whether it is out of view, where known. -/
  offscreen : Option Bool

/-- `ElementState` as JSON. -/
def ElementState.toJson (state : ElementState) : Json :=
  .object [("role", some (.str state.role)),
    ("states", if state.states.isEmpty then none else some (.strings state.states)),
    ("value", state.value.map .str), ("enabled", state.enabled.map .bool),
    ("hidden", state.hidden.map .bool), ("offscreen", state.offscreen.map .bool)]

/-- `LiveElement`. -/
structure LiveElement where
  identity : LiveIdentity
  state : ElementState
  /-- Whether no state is missing. -/
  statesComplete : Bool
  bounds : Option Rect
  /-- The actions it offers. -/
  availableActions : List String

/-! ## Results -/

/-- `ActionStepOutcome`. -/
inductive ActionStepOutcome
  | attempted | skipped | succeeded
  deriving DecidableEq

/-- `StepMechanism`. -/
inductive StepMechanism
  | semanticApi | physicalSynthetic
  deriving DecidableEq

/-- `ActionStep`. -/
structure ActionStep where
  label : String
  outcome : ActionStepOutcome
  /-- How it was delivered. -/
  mechanism : Option StepMechanism
  /-- Whether its effect was seen. -/
  verified : Option Bool
  deriving DecidableEq

/-- `ActionStep` as JSON. -/
def ActionStep.toJson (step : ActionStep) : Json :=
  let outcome := match step.outcome with
    | .attempted => "attempted"
    | .skipped => "skipped"
    | .succeeded => "succeeded"
  let mechanism : StepMechanism → String
    | .semanticApi => "semantic_api"
    | .physicalSynthetic => "physical_synthetic"
  .object [("label", some (.str step.label)), ("outcome", some (.str outcome)),
    ("mechanism", step.mechanism.map (fun m => .str (mechanism m))),
    ("verified", step.verified.map .bool)]

/-- `SurfaceInfo`. -/
structure SurfaceInfo where
  id : String
  kind : String
  title : Option String
  itemCount : Option ℕ
  deriving DecidableEq

/-- `SurfaceInfo` as JSON. -/
def SurfaceInfo.toJson (surface : SurfaceInfo) : Json :=
  .object [("id", some (.str surface.id)), ("type", some (.str surface.kind)),
    ("title", surface.title.map .str),
    ("item_count", surface.itemCount.map (fun count => .num count))]

/-- `ActionResult`. -/
structure ActionResult where
  /-- The name of the action. -/
  action : String
  /-- The state afterwards. -/
  postState : Option ElementState
  steps : List ActionStep
  /-- The overlays left open. -/
  surfaces : List SurfaceInfo
  details : Option Json
  /-- What is known about the delivery. -/
  disposition : DeliverySemantics

namespace ActionResult

/-- `satisfied_without_delivery`. -/
def satisfiedWithoutDelivery (action : String) : ActionResult :=
  ⟨action, none, [], [], none, .notDelivered⟩

/-- `ActionResult::delivered_unverified`. -/
def deliveredUnverified (action : String) : ActionResult :=
  ⟨action, none, [], [], none, .deliveredUnverified⟩

/-- `with_verified_delivery`. -/
def withVerifiedDelivery (result : ActionResult) : ActionResult :=
  if result.disposition = .deliveredUnverified then
    { result with disposition := .deliveredVerified }
  else result

/-- `with_unverified_delivery`. -/
def withUnverifiedDelivery (result : ActionResult) : ActionResult :=
  if result.disposition = .deliveredVerified then
    { result with disposition := .deliveredUnverified }
  else result

/-- Adding fields to the details, where they are an object. -/
def addDetails (result : ActionResult) (fields : List (String × Json)) : ActionResult :=
  { result with
    details := some (fields.foldl (fun details field => details.insert field.1 field.2)
      (result.details.getD (.obj []))) }

/-- `ActionResult` as JSON. -/
def toJson (result : ActionResult) : Json :=
  .object [("action", some (.str result.action)),
    ("post_state", result.postState.map ElementState.toJson),
    ("steps", if result.steps.isEmpty then none
      else some (.arr (result.steps.map ActionStep.toJson))),
    ("surfaces", if result.surfaces.isEmpty then none
      else some (.arr (result.surfaces.map SurfaceInfo.toJson))),
    ("details", result.details), ("disposition", some result.disposition.toJson)]

end ActionResult

end AgentDesktop
