import AgentDesktop.PostAction
import AgentDesktop.Preflight

/-!
# Dispatching a ref action

Under the interaction lease, the ref is resolved again, the preflight is made on
the handle it resolves to, and the action is executed on that handle. When the
preflight fails only because the target is out of view, the target is scrolled
into view once, and the ref is resolved and the preflight made once more; from
then on an error may no longer say that nothing happened.
-/

namespace AgentDesktop

variable {σ H : Type} [BoundsHasher] (desktop : Desktop σ H)

/-- `after_scroll`: the view may have changed, so the error does not say that nothing
was delivered. -/
def afterScroll (error : AdapterError) : AdapterError :=
  { error with
    disposition :=
      (match error.disposition with
        | .notDelivered | .unknown => .deliveryUncertain
        | other => other)
    details := some ((error.details.getD (.obj [])).insert "preparatory_scroll"
      (.str "may_have_changed_view")) }

omit [BoundsHasher] in
/-- **An error after a scroll never advises that a retry is safe.** -/
theorem disposition_afterScroll_ne (error : AdapterError) :
    (afterScroll error).disposition ≠ .notDelivered := by
  unfold afterScroll
  cases error.disposition <;> simp

/-- `resolve_element_strict`, recorded when it succeeds. -/
def resolveTarget (entry : RefEntry) (deadline : Deadline) : RefProg σ H AdapterError H := do
  let handle ← Prog.call (desktop.resolveElementStrict entry deadline)
  Prog.emit (.resolved handle)
  return handle

/-- `stable_preflight`, recorded when it succeeds. -/
def preflightTarget (fuel : ℕ) (context : RefActionContext) (handle : H)
    (request : ActionRequest) : RefProg σ H AppError ActionabilityReport := do
  let report ← stablePreflight desktop fuel context handle request
  Prog.emit (.preflighted handle)
  return report

/-- `scroll_into_view`, recorded. -/
def scrollIntoView (handle : H) (lease : InteractionLease) : RefProg σ H AdapterError Unit :=
  Prog.recordedCall (.scrolled handle) (desktop.scrollIntoView handle lease)

/-- `trace_resolve_error`. -/
def traceResolveError (context : RefActionContext) (error : AdapterError) :
    RefProg σ H AdapterError Unit :=
  desktop.traceBestEffort "ref.resolve.error" (.obj [("ref", .str context.refId),
    ("code", .str error.code.asStr), ("message", .str error.message),
    ("details", error.details.getD .null)])

/-- `trace_resolve_ok`. -/
def traceResolveOk {ε : Type} (context : RefActionContext) : RefProg σ H ε Unit :=
  desktop.traceBestEffort "ref.resolve.ok" (.obj [("ref", .str context.refId)])

/-- `trace_scroll_error`. -/
def traceScrollError (context : RefActionContext) (error : AdapterError) :
    RefProg σ H AdapterError Unit :=
  desktop.traceBestEffort "ref.scroll_into_view.error" (.obj [("ref", .str context.refId),
    ("code", .str error.code.asStr), ("message", .str error.message)])

/-- What fails is traced, and fails all the same. -/
def inspectError {α : Type} (p : RefProg σ H AdapterError α)
    (inspect : AdapterError → RefProg σ H AdapterError Unit) : RefProg σ H AdapterError α := do
  match ← (Prog.attempt p : RefProg σ H AdapterError _) with
  | .ok a => return a
  | .error error =>
    inspect error
    Prog.fail error

/-- The first resolution of `dispatch_resolved`. -/
def resolveForDispatch (context : RefActionContext) : RefProg σ H AdapterError H := do
  let handle ← inspectError
    (Prog.mapError markPreDispatchResolutionFailure
      (resolveTarget desktop context.entry context.deadline))
    (traceResolveError desktop context)
  traceResolveOk desktop context
  return handle

/-- The preparatory scroll of `dispatch_resolved`: the target is scrolled into view, and
resolved and checked anew. -/
def scrollAndRecheck (fuel : ℕ) (context : RefActionContext) (handle : H)
    (request : ActionRequest) (lease : InteractionLease) :
    RefProg σ H AdapterError (H × ActionabilityReport) := do
  inspectError (scrollIntoView desktop handle lease) (traceScrollError desktop context)
  Prog.mapError afterScroll (do
    let handle ← resolveTarget desktop context.entry context.deadline
    let report ← Prog.mapError AppError.intoAdapterError
      (preflightTarget desktop fuel context handle request)
    return (handle, report))

/-- The first half of `dispatch_resolved`: a handle whose target is actionable. -/
def actionableTarget (fuel : ℕ) (context : RefActionContext) (request : ActionRequest)
    (lease : InteractionLease) : RefProg σ H AdapterError (H × ActionabilityReport) := do
  let handle ← resolveForDispatch desktop context
  match ← Prog.attempt (preflightTarget desktop fuel context handle request) with
  | .ok report => return (handle, report)
  | .error error =>
    let error := error.intoAdapterError
    if shouldScrollAfterPreflight request error then
      scrollAndRecheck desktop fuel context handle request lease
    else Prog.fail error

/-- `trace_error_after_delivery`. -/
def traceErrorAfterDelivery (error : AppError) : AppError :=
  .adapter (error.intoAdapterError.withDisposition .deliveredUnverified)

/-- `settled_surfaces`. -/
def settledSurfaces {ε : Type} (process : ProcessIdentity) (deadline : Deadline) :
    RefProg σ H ε (List SurfaceInfo) := do
  match ← Prog.ask (desktop.listSurfaces process deadline) with
  | .ok surfaces => return surfaces
  | .error _ => return []

/-- The surfaces of the result: those that settled, where the action may raise one. -/
def surfacesAfter {ε : Type} (action : Action) (result : ActionResult)
    (process : ProcessIdentity) (deadline : Deadline) : RefProg σ H ε (List SurfaceInfo) :=
  if action.mayRaiseSurface then settledSurfaces desktop process deadline
  else pure result.surfaces

/-- The request as it is dispatched. -/
def dispatchedRequest (request : ActionRequest) (report : ActionabilityReport)
    (expectedProcess : ProcessIdentity) : ActionRequest :=
  { request with
    policy := if report.pointerDelivery = .semantic then .headless else request.policy
    verifiedPoint := report.verifiedPoint
    expectedProcess := some expectedProcess }

/-- The event that announces the dispatch, recorded. -/
def announceDispatch (context : RefActionContext) (request : ActionRequest) :
    RefProg σ H AppError Unit :=
  Prog.recordedCall RefActionEvent.announced (desktop.traceLazy "action.dispatch.start"
    (.obj [("ref", .str context.refId), ("action", .str request.action.name)]))

/-- The second half of `dispatch_resolved`: the delivery, and the report of it. -/
def deliver (fuel : ℕ) (context : RefActionContext) (handle : H) (request : ActionRequest)
    (expectedProcess : ProcessIdentity) (lease : InteractionLease) :
    RefProg σ H AppError ActionResult := do
  announceDispatch desktop context request
  Prog.ask desktop.present
  let delivered ← Prog.attempt (executeVerifiedAction desktop fuel handle request lease)
  Prog.ask desktop.present
  let result ← Prog.mapError AppError.adapter (Prog.ofExcept delivered)
  let surfaces ← surfacesAfter desktop request.action result expectedProcess context.deadline
  let result := { result with surfaces }
  Prog.mapError traceErrorAfterDelivery (desktop.trace "action.dispatch.ok"
    (.obj [("ref", .str context.refId), ("action", .str request.action.name),
      ("result", result.toJson)]))
  return result

/-- The process the entry was recorded in, where it is known. -/
def expectedProcessOf (entry : RefEntry) : Except AdapterError ProcessIdentity :=
  match entry.process.processInstance.filter (fun processInstance => !processInstance.isEmpty) with
  | some processInstance => .ok ⟨entry.process.pid, processInstance⟩
  | none => .error (.staleRef "target process instance is unavailable")

/-- `dispatch_resolved`. -/
def dispatchResolved (fuel : ℕ) (context : RefActionContext) (request : ActionRequest)
    (lease : InteractionLease) : RefProg σ H AppError ActionResult := do
  let (handle, report, expectedProcess) ← Prog.mapError AppError.adapter (do
    let expectedProcess ← Prog.ofExcept (expectedProcessOf context.entry)
    let (handle, report) ← actionableTarget desktop fuel context request lease
    return (handle, report, expectedProcess))
  deliver desktop fuel context handle (dispatchedRequest request report expectedProcess)
    expectedProcess lease

end AgentDesktop
