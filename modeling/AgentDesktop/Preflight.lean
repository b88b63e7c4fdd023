import AgentDesktop.Actionability
import AgentDesktop.Desktop

/-!
# The preflight

The preflight observes the target of a handle, compares it with what the ref
recorded, and evaluates the checks of the action on it. Where the action needs a
target at rest, the bounds are sampled until they have stayed the same for long
enough, and the checks are made again. Nothing here acts on the target: the
preflight only asks.
-/

namespace AgentDesktop

variable {σ H : Type} [BoundsHasher] (desktop : Desktop σ H)

/-- `mark_pre_dispatch_resolution_failure`: before the dispatch, what is not known to
have been delivered was not. -/
def markPreDispatchResolutionFailure (error : AdapterError) : AdapterError :=
  match error.disposition with
  | .unknown | .notDelivered => error.withDisposition .notDelivered
  | .deliveryUncertain | .deliveredUnverified | .deliveredVerified => error

/-! ## Observing the target -/

/-- `stale_live_element`. -/
def staleLiveElement (message : String) : AdapterError :=
  (((AdapterError.new .staleRef message).withSuggestion
    "Re-run a snapshot to obtain fresh refs, then retry with the new ref (CLI: snapshot; FFI: ad_snapshot then ad_execute_by_ref with the returned snapshot_id)").withDetails
    (.obj [("retryable", .bool true)])).withDisposition .notDelivered

/-- `validate_live_identity`. -/
def validateLiveIdentity (entry : RefEntry) (live : LiveElement) : Except AdapterError Unit :=
  if live.state.role == "unknown" || live.state.role != entry.identity.role then
    .error (staleLiveElement "Resolved element changed role before dispatch")
  else if !hasMeaningfulIdentity entry then .ok ()
  else
    let value := live.state.value.elim LocatorField.absent LocatorField.known
    match identityMatch entry live.identity.name value live.identity.description
        live.identity.identifiers with
    | .matched => .ok ()
    | .noMatch =>
      .error (staleLiveElement "Resolved element changed identity before dispatch")
    | .unknown =>
      .error ((AdapterError.appUnresponsive
        (entry.source.sourceApp.getD "target application")).withDetails
          (.obj [("kind", .str "live_identity_evidence"), ("complete", .bool false),
            ("retryable", .bool true)]))

/-- `observe`. -/
def observe (entry : RefEntry) (live : Except AdapterError LiveElement) :
    Except AdapterError ActionabilityEvidence :=
  match live with
  | .ok live =>
    (validateLiveIdentity entry live).map (fun _ =>
      { state := live.state
        statesComplete := live.statesComplete
        bounds := live.bounds
        availableActions := live.availableActions })
  | .error error =>
    if error.code = .platformNotSupported ∨ error.code = .actionNotSupported then
      .error (((AdapterError.new .actionNotSupported
        "Live element evidence is required for actionability checks").withDetails
          (.obj [("source_code", .str error.code.asStr)])).withDisposition .notDelivered)
    else .error error

/-! ## Whether the target receives events -/

/-- `candidate_points`. -/
def candidatePoints (bounds : Rect) : List Point :=
  [bounds.pointAt (1 / 2) (1 / 2), bounds.pointAt (1 / 4) (1 / 4), bounds.pointAt (3 / 4) (1 / 4),
    bounds.pointAt (1 / 4) (3 / 4), bounds.pointAt (3 / 4) (3 / 4)]

/-- The check when no point was found to reach the target. -/
def inconclusiveHitTest (evidence : HitTestEvidence) (firstOcclusion : Option Occluder) :
    ActionabilityCheck :=
  let check :=
    match firstOcclusion with
    | some occluder =>
      if 0 < evidence.unknown then
        { ActionabilityCheck.occluded occluder with
          status := .unknown
          reason := some "hit test evidence mixed unknown and occluded outcomes" }
      else .occluded occluder
    | none => .unknown "receives_events" "hit test result inconclusive"
  { check with hitTest := some evidence }

/-- The loop of `receives_events_check` over the points. -/
def hitTestPoints (handle : H) (deadline : Deadline) :
    List Point → HitTestEvidence → Option Occluder →
      RefProg σ H AdapterError (ActionabilityCheck × Option Point)
  | [], evidence, firstOcclusion => return (inconclusiveHitTest evidence firstOcclusion, none)
  | point :: rest, evidence, firstOcclusion => do
    let evidence := { evidence with attempted := evidence.attempted + 1 }
    match ← Prog.ask (desktop.hitTest handle point deadline) with
    | .ok .reachesTarget =>
      return ({ ActionabilityCheck.passed "receives_events" with hitTest := some evidence },
        some point)
    | .ok (.interceptedBy role name bounds) =>
      hitTestPoints handle deadline rest { evidence with occluded := evidence.occluded + 1 }
        (firstOcclusion.or (some ⟨role, name, bounds⟩))
    | .ok .unknown =>
      hitTestPoints handle deadline rest { evidence with unknown := evidence.unknown + 1 }
        firstOcclusion
    | .error error =>
      if error.code = .platformNotSupported then
        let evidence := { evidence with unknown := evidence.unknown + 1 }
        return ({ ActionabilityCheck.unknown "receives_events" "hit testing is not supported" with
          hitTest := some evidence }, none)
      else Prog.fail error

/-- `receives_events_check`. -/
def receivesEventsCheck (bounds : Option Rect) (handle : H) (request : ActionRequest)
    (deadline : Deadline) : RefProg σ H AdapterError (ActionabilityCheck × Option Point) :=
  if !request.action.requiresHitTest then
    return (.passed "receives_events", none)
  else
    match bounds with
    | none => return (.unknown "receives_events" "bounds unavailable", none)
    | some bounds => hitTestPoints desktop handle deadline (candidatePoints bounds) ⟨0, 0, 0⟩ none

/-- `check_with_stability`, with the live hit test of a handle. -/
def checkWithStability (stability : StabilityExpectation) (evidence : ActionabilityEvidence)
    (request : ActionRequest) (handle : H) (deadline : Deadline) :
    RefProg σ H AdapterError ActionabilityReport := do
  let requirements := ActionabilityRequirements.forAction request.action
  let delivery :=
    requirements.pointerDelivery request.action evidence.availableActions request.policy
  let point := evidence.bounds.bind centerPoint
  let checks := semanticChecks stability evidence request requirements delivery
  if checks.any (fun check => check.status != .pass) || delivery != .physical then
    Prog.ofExcept (finishReport evidence (.fromChecks checks none point evidence.bounds delivery))
  else
    let (check, verified) ← receivesEventsCheck desktop evidence.bounds handle request deadline
    Prog.ofExcept (finishReport evidence
      (.fromChecks (checks ++ [check]) verified point evidence.bounds delivery))

/-- `check_live_with_stability`. -/
def checkLiveWithStability (entry : RefEntry) (handle : H) (deadline : Deadline)
    (request : ActionRequest) (stability : StabilityExpectation) :
    RefProg σ H AdapterError ActionabilityReport :=
  Prog.mapError markPreDispatchResolutionFailure (do
    let live ← Prog.ask (desktop.getLiveElement handle deadline)
    let evidence ← Prog.ofExcept (observe entry live)
    checkWithStability desktop stability evidence request handle deadline)

/-! ## Sampling until the target is at rest -/

/-- `StabilitySampler`. -/
structure StabilitySampler where
  previous : Option Rect
  /-- The samples that agree. -/
  consecutive : ℕ
  stableSince : ℕ

namespace StabilitySampler

/-- `STABILITY_SAMPLE_INTERVAL`, in nanoseconds. -/
def sampleInterval : ℕ := 17 * nanosPerMs

/-- `MIN_STABILITY_SPAN`, in nanoseconds. -/
def minStabilitySpan : ℕ := 34 * nanosPerMs

/-- `StabilitySampler::new`. -/
def new : StabilitySampler := ⟨none, 0, 0⟩

/-- The sampler after a sample. -/
def sample (sampler : StabilitySampler) (bounds : Option Rect) (elapsed : ℕ) :
    StabilitySampler :=
  match bounds with
  | none => ⟨none, 0, elapsed⟩
  | some bounds =>
    if sampler.previous.any (fun previous => Gates.geometryMatches previous bounds) then
      ⟨some bounds, sampler.consecutive + 1, sampler.stableSince⟩
    else ⟨some bounds, 1, elapsed⟩

/-- What `observe` answers after a sample. -/
def isStable (sampler : StabilitySampler) (elapsed : ℕ) : Bool :=
  sampler.previous.isSome && 3 ≤ sampler.consecutive
    && minStabilitySpan ≤ elapsed - sampler.stableSince

/-- `stable_span`. -/
def stableSpan (sampler : StabilitySampler) (elapsed : ℕ) : ℕ := elapsed - sampler.stableSince

end StabilitySampler

/-! ## The preflight of a ref action -/

/-- `RefActionContext`: the ref, its entry, and the deadline of the run. -/
structure RefActionContext where
  entry : RefEntry
  refId : String
  deadline : Deadline

/-- `check_actionability_with_trace`. The preflight keeps of the report what is
needed to deliver and to show the action. -/
def checkActionabilityWithTrace (context : RefActionContext) (handle : H)
    (request : ActionRequest) (stability : StabilityExpectation) :
    RefProg σ H AppError ActionabilityReport := do
  let fields := [("ref", Json.str context.refId), ("action", .str request.action.name)]
  desktop.trace "actionability.check.start" (.obj fields)
  match ← Prog.attempt (checkLiveWithStability desktop context.entry handle context.deadline
      request stability) with
  | .ok report =>
    desktop.trace "actionability.check.ok" (.obj (fields ++ [("report", report.toJson)]))
    return report
  | .error error =>
    desktop.traceBestEffort "actionability.check.error" (.object
      (fields.map (fun field => (field.1, some field.2))
        ++ [("code", some (.str error.code.asStr)), ("message", some (.str error.message)),
          ("details", some (error.details.getD .null))]))
    Prog.fail (.adapter error)

/-! ### Reading an error's details -/

/-- Whether a check of the details has this name and satisfies the test on its
status. -/
def hasCheck (details : Option Json) (test : Json → Bool) : Bool :=
  ((details.bind (fun details => details.get "checks")).bind Json.asArray).any
    (fun checks => checks.any test)

/-- `failed_check`. -/
def failedCheck (error : AdapterError) (name : String) : Bool :=
  hasCheck error.details (fun check =>
    (check.get "check").any (Json.isStr · name) && (check.get "status").any (Json.isStr · "fail"))

/-- `should_scroll_after_preflight`. -/
def shouldScrollAfterPreflight (request : ActionRequest) (error : AdapterError) : Bool :=
  request.action.requiresScrollIntoView && failedCheck error "visible"

/-- `only_stability_pending`. -/
def onlyStabilityPending (error : AdapterError) : Bool :=
  let isStable (check : Json) := (check.get "check").any (Json.isStr · "stable")
  let passes (check : Json) := (check.get "status").any (Json.isStr · "pass")
  hasCheck error.details (fun check => isStable check && !passes check)
    && !hasCheck error.details (fun check => !(isStable check || passes check))

/-- `observed_bounds_hash`. -/
def observedBoundsHash (error : AdapterError) : Option UInt64 :=
  (error.details.bind (fun details => details.get "observed_bounds_hash")).bind Json.asU64

/-! ### Waiting for the target to come to rest -/

/-- The loop of `stable_preflight`. -/
def sampleUntilStable (context : RefActionContext) (handle : H) (request : ActionRequest)
    (started : ℕ) : ℕ → StabilitySampler → RefProg σ H AppError ActionabilityReport
  | 0, _ => Prog.cutOff
  | fuel + 1, sampler => do
    let bounds ← Prog.mapError AppError.adapter
      (Prog.call (desktop.getElementBounds handle context.deadline))
    let elapsed := (← desktop.clock) - started
    let sampler := sampler.sample bounds elapsed
    if sampler.isStable elapsed then
      checkActionabilityWithTrace desktop context handle request
        (.strictBounds sampler.previous sampler.consecutive
          (sampler.stableSpan elapsed / nanosPerMs))
    else
      let pause ← Prog.mapError
        (fun error : AdapterError => AppError.adapter (error.withDisposition .notDelivered))
        (desktop.remainingSlice context.deadline StabilitySampler.sampleInterval)
      Prog.ask (desktop.sleep pause)
      sampleUntilStable context handle request started fuel sampler

/-- `stable_preflight`. -/
def stablePreflight (fuel : ℕ) (context : RefActionContext) (handle : H)
    (request : ActionRequest) : RefProg σ H AppError ActionabilityReport := do
  match ← Prog.attempt (checkActionabilityWithTrace desktop context handle request
      (.permissive context.entry.geometry.boundsHash)) with
  | .ok report =>
    if !requiresStability request.action || report.pointerDelivery == .semantic then
      return report
    else
      sampleUntilStable desktop context handle request (← desktop.clock) fuel .new
  | .error error =>
    match error with
    | .adapter error =>
      if onlyStabilityPending error then
        sampleUntilStable desktop context handle request (← desktop.clock) fuel .new
      else Prog.fail (.adapter error)
    | other => Prog.fail other

/-! ## The preflight is quiet -/

section

open Prog

variable {desktop}

omit [BoundsHasher] in
theorem hitTestPoints_quiet (handle : H) (deadline : Deadline) (points : List Point)
    (evidence : HitTestEvidence) (firstOcclusion : Option Occluder) :
    (hitTestPoints desktop handle deadline points evidence firstOcclusion).Quiet := by
  induction points generalizing evidence firstOcclusion with
  | nil => exact .pure _
  | cons point rest ih =>
    refine (Quiet.ask _).bind (fun answer => ?_)
    match answer with
    | .ok .reachesTarget => exact .pure _
    | .ok (.interceptedBy role name bounds) => exact ih _ _
    | .ok .unknown => exact ih _ _
    | .error error =>
      show Quiet (if _ then _ else _)
      split_ifs
      · exact .pure _
      · exact .fail _

theorem checkWithStability_quiet (stability : StabilityExpectation)
    (evidence : ActionabilityEvidence) (request : ActionRequest) (handle : H)
    (deadline : Deadline) :
    (checkWithStability desktop stability evidence request handle deadline).Quiet := by
  unfold checkWithStability
  simp only
  split_ifs
  · exact .ofExcept _
  · refine Quiet.bind ?_ (fun _ => .ofExcept _)
    unfold receivesEventsCheck
    split_ifs
    · exact .pure _
    · split
      · exact .pure _
      · exact hitTestPoints_quiet _ _ _ _ _

theorem checkLiveWithStability_quiet (entry : RefEntry) (handle : H) (deadline : Deadline)
    (request : ActionRequest) (stability : StabilityExpectation) :
    (checkLiveWithStability desktop entry handle deadline request stability).Quiet :=
  .mapError ((Quiet.ask _).bind (fun _ => (Quiet.ofExcept _).bind
    (fun _ => checkWithStability_quiet _ _ _ _ _))) _

theorem checkActionabilityWithTrace_quiet (context : RefActionContext) (handle : H)
    (request : ActionRequest) (stability : StabilityExpectation) :
    (checkActionabilityWithTrace desktop context handle request stability).Quiet := by
  refine (desktop.trace_quiet _ _).bind (fun _ => ?_)
  refine (checkLiveWithStability_quiet _ _ _ _ _).attempt.bind (fun answer => ?_)
  cases answer with
  | ok report => exact (desktop.trace_quiet _ _).bind (fun _ => .pure _)
  | error error => exact (desktop.traceBestEffort_sure _ _).quiet.bind (fun _ => .fail _)

theorem sampleUntilStable_quiet (context : RefActionContext) (handle : H)
    (request : ActionRequest) (started fuel : ℕ) (sampler : StabilitySampler) :
    (sampleUntilStable desktop context handle request started fuel sampler).Quiet := by
  induction fuel generalizing sampler with
  | zero => exact .cutOff
  | succ fuel ih =>
    refine Quiet.bind (.mapError (.call _) _) (fun bounds => ?_)
    refine desktop.clock_sure.quiet.bind (fun now => ?_)
    simp only
    split_ifs
    · exact checkActionabilityWithTrace_quiet _ _ _ _
    · exact Quiet.bind (.mapError (desktop.remainingSlice_quiet _ _) _)
        (fun pause => (Quiet.ask _).bind (fun _ => ih _))

/-- **The preflight records nothing**: it only asks. -/
theorem stablePreflight_quiet (fuel : ℕ) (context : RefActionContext) (handle : H)
    (request : ActionRequest) : (stablePreflight desktop fuel context handle request).Quiet := by
  have hsample : ∀ now, (sampleUntilStable desktop context handle request now fuel .new).Quiet :=
    fun now => sampleUntilStable_quiet context handle request now fuel .new
  refine (checkActionabilityWithTrace_quiet _ _ _ _).attempt.bind (fun answer => ?_)
  match answer with
  | .ok report =>
    show Quiet (if _ then _ else _)
    split_ifs
    · exact .pure _
    · exact desktop.clock_sure.quiet.bind hsample
  | .error (.adapter error) =>
    show Quiet (if _ then _ else _)
    split_ifs
    · exact desktop.clock_sure.quiet.bind hsample
    · exact .fail _
  | .error (.io _) => exact .fail _
  | .error (.json _) => exact .fail _
  | .error (.internal _) => exact .fail _

end

end AgentDesktop
