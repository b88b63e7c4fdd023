import AgentDesktop.Action
import AgentDesktop.Identity

/-!
# Actionability

Before an action is delivered, its target is checked: is it visible, has it come
to rest, is it enabled, can it be written to, does it support the action, does
the policy allow it, and – for a pointer – does a click on it reach it. The
checks of one evaluation make a report. A report with a check that blocks is an
error, whose details are the report itself; later steps read them back.
-/

namespace AgentDesktop

/-! ## Checks and reports -/

/-- `ActionabilityStatus`. -/
inductive ActionabilityStatus
  | pass | fail | unknown
  deriving DecidableEq

/-- `ActionabilityStatus` as it is written. -/
def ActionabilityStatus.asStr : ActionabilityStatus → String
  | pass => "pass"
  | fail => "fail"
  | unknown => "unknown"

/-- `Occluder`. -/
structure Occluder where
  role : Option String
  name : Option String
  bounds : Option Rect

/-- `HitTestEvidence`. -/
structure HitTestEvidence where
  attempted : ℕ
  /-- Those without an answer. -/
  unknown : ℕ
  /-- Those another element covers. -/
  occluded : ℕ
  deriving DecidableEq

/-- `StabilityEvidence`. -/
structure StabilityEvidence where
  /-- The samples that agree. -/
  samples : ℕ
  spanMs : ℕ
  deriving DecidableEq

/-- `ActionabilityCheck`. -/
structure ActionabilityCheck where
  check : String
  status : ActionabilityStatus
  reason : Option String
  occluder : Option Occluder
  /-- The code of the error, when waiting cannot help. -/
  terminalCode : Option ErrorCode
  hitTest : Option HitTestEvidence
  stability : Option StabilityEvidence

namespace ActionabilityCheck

/-- `check_result::pass`. -/
def passed (check : String) : ActionabilityCheck := ⟨check, .pass, none, none, none, none, none⟩

/-- `check_result::fail`. -/
def failed (check reason : String) : ActionabilityCheck :=
  ⟨check, .fail, some reason, none, none, none, none⟩

/-- `check_result::fail_terminal`. -/
def failedTerminal (check reason : String) (code : ErrorCode) : ActionabilityCheck :=
  ⟨check, .fail, some reason, none, some code, none, none⟩

/-- `check_result::unknown`. -/
def unknown (check reason : String) : ActionabilityCheck :=
  ⟨check, .unknown, some reason, none, none, none, none⟩

/-- `check_result::occluded`. -/
def occluded (occluder : Occluder) : ActionabilityCheck :=
  let reason := match occluder.role with
    | none => "occluded by another element"
    | some role => "occluded by " ++ role
  ⟨"receives_events", .fail, some reason, some occluder, none, none, none⟩

/-- `is_blocking`: a failure, or a missing answer – unless the only question left
is whether the target receives events and nothing was found in the way. -/
def isBlocking (check : ActionabilityCheck) : Bool :=
  check.status == .fail
    || (check.status == .unknown
      && (check.check != "receives_events"
        || check.hitTest.any (fun evidence => 0 < evidence.occluded)))

/-- `ActionabilityCheck` as JSON. -/
def toJson (check : ActionabilityCheck) : Json :=
  .object [("check", some (.str check.check)), ("status", some (.str check.status.asStr)),
    ("reason", check.reason.map .str),
    ("occluder", check.occluder.map (fun occluder =>
      .object [("role", occluder.role.map .str), ("name", occluder.name.map .str),
        ("bounds", occluder.bounds.map Rect.toJson)])),
    ("hit_test", check.hitTest.map (fun evidence =>
      .obj [("attempted", .num evidence.attempted), ("unknown", .num evidence.unknown),
        ("occluded", .num evidence.occluded)])),
    ("stability", check.stability.map (fun evidence =>
      .obj [("samples", .num evidence.samples), ("span_ms", .num evidence.spanMs)]))]

end ActionabilityCheck

/-- `PointerDelivery`. -/
inductive PointerDelivery
  | notApplicable | semantic | physical
  deriving DecidableEq

/-- `ActionabilityReport`. -/
structure ActionabilityReport where
  /-- Whether no check blocks. -/
  actionable : Bool
  checks : List ActionabilityCheck
  /-- A point at which the target receives events. -/
  verifiedPoint : Option Point
  /-- Where to show the action. -/
  presentationPoint : Option Point
  /-- The bounds to show it in. -/
  presentationBounds : Option Rect
  /-- How a pointer action is delivered. -/
  pointerDelivery : PointerDelivery

namespace ActionabilityReport

/-- `from_checks`. -/
def fromChecks (checks : List ActionabilityCheck) (verifiedPoint presentationPoint : Option Point)
    (presentationBounds : Option Rect) (pointerDelivery : PointerDelivery) :
    ActionabilityReport where
  actionable := checks.all (fun check => !check.isBlocking)
  checks
  verifiedPoint
  presentationPoint
  presentationBounds
  pointerDelivery

/-- `terminal_code`: the code of the first check that blocks. -/
def terminalCode (report : ActionabilityReport) : Option ErrorCode :=
  (report.checks.find? ActionabilityCheck.isBlocking).bind ActionabilityCheck.terminalCode

/-- `failure_reasons`. -/
def failureReasons (report : ActionabilityReport) : String :=
  ", ".intercalate ((report.checks.filter ActionabilityCheck.isBlocking).map (fun check =>
    check.check ++ " (" ++ check.reason.getD "failed" ++ ")"))

/-- `ActionabilityReport` as JSON. -/
def toJson (report : ActionabilityReport) : Json :=
  .object [("actionable", some (.bool report.actionable)),
    ("checks", some (.arr (report.checks.map ActionabilityCheck.toJson))),
    ("verified_point", report.verifiedPoint.map Point.toJson)]

end ActionabilityReport

/-! ## Evidence and expectations -/

/-- `ActionabilityEvidence`. -/
structure ActionabilityEvidence where
  state : ElementState
  /-- Whether no state is missing. -/
  statesComplete : Bool
  bounds : Option Rect
  availableActions : List String

/-- `StabilityExpectation`. -/
structure StabilityExpectation where
  /-- The hash the bounds should have. -/
  boundsHash : Option UInt64
  /-- The bounds themselves. -/
  bounds : Option Rect
  /-- Whether the target must be known to be at rest. -/
  strict : Bool
  /-- The samples that agree. -/
  samples : ℕ
  spanMs : ℕ
  deriving DecidableEq

namespace StabilityExpectation

/-- `StabilityExpectation::permissive`. -/
def permissive (boundsHash : Option UInt64) : StabilityExpectation :=
  ⟨boundsHash, none, false, 1, 0⟩

/-- `StabilityExpectation::strict`. -/
def strictBounds [BoundsHasher] (bounds : Option Rect) (samples spanMs : ℕ) :
    StabilityExpectation :=
  ⟨bounds.bind Rect.boundsHash, bounds, true, samples, spanMs⟩

/-- `StabilityExpectation::strict_hash`. -/
def strictHash (boundsHash : Option UInt64) : StabilityExpectation :=
  ⟨boundsHash, none, true, 1, 0⟩

end StabilityExpectation

/-! ## Requirements -/

/-- `ActionabilityRequirements`. -/
structure ActionabilityRequirements where
  /-- The target must be visible. -/
  visible : Bool
  stable : Bool
  enabled : Bool
  editable : Bool
  /-- A pointer on it must reach it. -/
  receivesEvents : Bool
  deriving DecidableEq

namespace ActionabilityRequirements

/-- `for_action`. -/
def forAction : Action → ActionabilityRequirements
  | .click | .doubleClick | .rightClick | .tripleClick => ⟨true, true, true, false, true⟩
  | .hover | .drag _ => ⟨true, true, false, false, true⟩
  | .setValue _ | .typeText _ | .clear => ⟨true, false, true, true, false⟩
  | .select _ => ⟨true, false, true, false, false⟩
  | .expand | .collapse | .toggle | .check | .uncheck | .scroll _ _ =>
    ⟨true, true, true, false, false⟩
  | .scrollTo => ⟨false, true, false, false, false⟩
  | .setFocus | .pressKey _ | .keyDown _ | .keyUp _ => ⟨false, false, false, false, false⟩

/-- `pointer_delivery`. -/
def pointerDelivery (requirements : ActionabilityRequirements) (action : Action)
    (availableActions : List String) (policy : InteractionPolicy) : PointerDelivery :=
  if !requirements.receivesEvents then .notApplicable
  else if policy.isHeaded && action.headedRequirement.requiresCursor then .physical
  else if Capability.supportsDirectSemanticPointerDelivery action availableActions then .semantic
  else .physical

/-- `requires_geometry`. -/
def requiresGeometry (requirements : ActionabilityRequirements) (request : ActionRequest)
    (availableActions : List String) : Bool :=
  if request.policy != .headless then true
  else
    !(Capability.supportsDirectSemanticPointerDelivery request.action availableActions
      || (requirements.editable
        && Capability.containsAny availableActions (Capability.forAction request.action)))

/-- `ActionabilityRequirements::requires_stability`. -/
def requiresStabilityFor (requirements : ActionabilityRequirements)
    (pointerDelivery : PointerDelivery) : Bool :=
  requirements.stable && pointerDelivery != .semantic

end ActionabilityRequirements

/-- `requires_stability`. -/
def requiresStability (action : Action) : Bool := (ActionabilityRequirements.forAction action).stable

/-! ## Gates -/

namespace Gates

open ActionabilityCheck (passed failed failedTerminal unknown)

/-- `bounds_are_visible`. -/
def boundsAreVisible (bounds : Option Rect) : Bool :=
  bounds.any (fun bounds => bounds.isValid && bounds.hasArea)

/-- Whether a state that is read by itself stands in the way of being visible: the
state itself where it was read, the list of states where that is complete. -/
def hiddenBy (evidence : ActionabilityEvidence) (read : Option Bool) (name token : String) :
    Option ActionabilityCheck :=
  match read with
  | some true => some (failed "visible" ("live " ++ name ++ " state is true"))
  | some false => none
  | none =>
    if !evidence.statesComplete then
      some (unknown "visible" ("live " ++ name ++ " state unavailable"))
    else if State.hasState evidence.state.states token then
      some (failed "visible" ("canonical " ++ name ++ " state is present"))
    else none

/-- `visibility`. -/
def visibility (evidence : ActionabilityEvidence) (requiresGeometry : Bool) :
    ActionabilityCheck :=
  match (hiddenBy evidence evidence.state.hidden "hidden" State.hidden).or
      (hiddenBy evidence evidence.state.offscreen "offscreen" State.offscreen) with
  | some check => check
  | none =>
    if !requiresGeometry && evidence.state.offscreen.isNone && evidence.bounds.isSome then
      passed "visible"
    else if evidence.bounds.isNone then unknown "visible" "bounds unavailable"
    else if !boundsAreVisible evidence.bounds then failed "visible" "bounds are zero-sized"
    else passed "visible"

/-- `GEOMETRY_TOLERANCE`. -/
def geometryTolerance : ℚ := 1 / 2

/-- `geometry_matches`. -/
def geometryMatches (left right : Rect) : Bool :=
  let near : F64 → F64 → Bool := F64.both (fun left right => |left - right| ≤ geometryTolerance)
  near left.x right.x && near left.y right.y && near left.width right.width
    && near left.height right.height

/-- The check `stability` makes of known bounds. -/
def stabilityOf [BoundsHasher] (expectation : StabilityExpectation) (bounds : Rect) :
    ActionabilityCheck :=
  if expectation.strict then
    match expectation.bounds, expectation.boundsHash with
    | some expected, _ =>
      if geometryMatches expected bounds then passed "stable"
      else failed "stable" "bounds changed after the stability window"
    | none, some expected =>
      if bounds.boundsHash = some expected then passed "stable"
      else failed "stable" "bounds changed since the previous observation"
    | none, none => failed "stable" "waiting for stable live bounds observations"
  else
    match expectation.boundsHash, bounds.boundsHash with
    | none, _ => unknown "stable" "snapshot bounds hash unavailable"
    | some _, none => unknown "stable" "live bounds are invalid"
    | some expected, some observed =>
      if observed = expected then passed "stable"
      else unknown "stable" "bounds changed since snapshot"

/-- `stability`. -/
def stability [BoundsHasher] (expectation : StabilityExpectation) (bounds : Option Rect) :
    ActionabilityCheck :=
  let check := match bounds with
    | none => unknown "stable" "live bounds unavailable"
    | some bounds => stabilityOf expectation bounds
  { check with stability := some ⟨expectation.samples, expectation.spanMs⟩ }

/-- `enabled`. -/
def enabled (evidence : ActionabilityEvidence) : ActionabilityCheck :=
  match evidence.state.enabled with
  | some true => passed "enabled"
  | some false => failed "enabled" "live enabled state is false"
  | none => unknown "enabled" "live enabled state unavailable"

/-- Whether the policy allows the cursor and the focus. -/
def allowsPhysicalFallback (request : ActionRequest) : Bool :=
  request.policy.allowCursorMove && request.policy.allowFocusSteal

/-- `action_supported`. -/
def actionSupported (evidence : ActionabilityEvidence) (request : ActionRequest) :
    ActionabilityCheck :=
  if request.action.requiresCursorPolicy then passed "supported_action"
  else
    match request.action with
    | .scrollTo => passed "supported_action"
    | .click | .rightClick =>
      if Capability.supportsDirectSemanticPointerDelivery request.action
          evidence.availableActions then passed "supported_action"
      else if allowsPhysicalFallback request then passed "supported_action"
      else failedTerminal "supported_action"
        "direct semantic delivery is unavailable and physical fallback is denied" .policyDenied
    | .doubleClick | .tripleClick =>
      if allowsPhysicalFallback request then passed "supported_action"
      else failedTerminal "supported_action"
        "semantic gesture is unavailable and physical fallback is denied" .policyDenied
    | action =>
      if Capability.containsAny evidence.availableActions (Capability.forAction action) then
        passed "supported_action"
      else if action.mayUseFocusFallback && request.policy.allowFocusSteal then
        passed "supported_action"
      else if action.mayUseFocusFallback then
        failedTerminal "supported_action"
          "semantic action is unavailable and focus fallback is denied" .policyDenied
      else
        failedTerminal "supported_action"
          (" or ".intercalate (Capability.forAction action) ++ " is not available")
          .actionNotSupported

/-- `policy`. -/
def policy (request : ActionRequest) : ActionabilityCheck :=
  if request.action.requiresCursorPolicy && !request.policy.allowCursorMove then
    failedTerminal "policy" "action requires cursor movement but policy denies it" .policyDenied
  else passed "policy"

/-- `editable`. -/
def editable (evidence : ActionabilityEvidence) (action : Action) : ActionabilityCheck :=
  if !action.writesElementValue then passed "editable"
  else if evidence.state.role == "textfield" || evidence.state.role == "combobox" then
    passed "editable"
  else if Capability.contains evidence.availableActions Capability.setValue then
    passed "editable"
  else
    failedTerminal "editable" ("role " ++ evidence.state.role ++ " is not editable")
      .actionNotSupported

end Gates

/-! ## Evaluation -/

/-- `center_point`. -/
def centerPoint (bounds : Rect) : Option Point :=
  if bounds.isValid && bounds.hasArea then some (bounds.pointAt (1 / 2) (1 / 2)) else none

/-- The checks that need no pointer, in the order they are made. -/
def semanticChecks [BoundsHasher] (stability : StabilityExpectation)
    (evidence : ActionabilityEvidence) (request : ActionRequest)
    (requirements : ActionabilityRequirements) (pointerDelivery : PointerDelivery) :
    List ActionabilityCheck :=
  (if requirements.visible then
    [Gates.visibility evidence (requirements.requiresGeometry request evidence.availableActions)]
    else [])
  ++ (if requirements.requiresStabilityFor pointerDelivery then
    [Gates.stability stability evidence.bounds] else [])
  ++ (if requirements.enabled then [Gates.enabled evidence] else [])
  ++ (if requirements.editable then [Gates.editable evidence request.action] else [])
  ++ [Gates.actionSupported evidence request, Gates.policy request]

/-- The advice on a target that is not actionable. -/
def notActionableSuggestion (evidence : ActionabilityEvidence) (report : ActionabilityReport)
    (code : ErrorCode) : String :=
  if code = .actionFailed then
    "Wait for the target to become actionable, refresh the snapshot, or use an explicit physical/focus command if intended."
  else if evidence.state.role == "cell"
      && report.checks.any (fun check => check.check == "editable" && check.status == .fail) then
    "This cell is not directly editable. Activate it, take a fresh snapshot, and target the text editor if one appears; otherwise the application may accept only keyboard input (--headed)."
  else
    "Waiting will not help: this element cannot satisfy the action as targeted. Target an element that advertises the action (check available_actions in a fresh snapshot) or adjust the interaction policy (e.g. pass --headed)."

/-- `finish`. -/
def finishReport [BoundsHasher] (evidence : ActionabilityEvidence)
    (report : ActionabilityReport) : Except AdapterError ActionabilityReport :=
  if report.actionable then .ok report
  else
    let code := report.terminalCode.getD .actionFailed
    let details := match evidence.bounds.bind Rect.boundsHash with
      | some hash => report.toJson.insert "observed_bounds_hash" (.num hash.toNat)
      | none => report.toJson
    .error ((((AdapterError.new code
      ("Target is not actionable: " ++ report.failureReasons)).withDetails details).withSuggestion
        (notActionableSuggestion evidence report code)).withDisposition .notDelivered)

theorem finishReport_actionable [BoundsHasher] {evidence : ActionabilityEvidence}
    {report report' : ActionabilityReport} (h : finishReport evidence report = .ok report') :
    report' = report ∧ report.actionable = true := by
  unfold finishReport at h
  split_ifs at h with hactionable
  exact ⟨(Except.ok.inj h).symm, hactionable⟩

end AgentDesktop
